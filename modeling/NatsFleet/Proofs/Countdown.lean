import NatsFleet.Proofs.Ledger

/-!
How long a shutdown takes: until the last stop is over of those that were not complete when it began.
-/
namespace NatsFleet

namespace Account

variable {now grace : Nat} {held : Prop} {asks : Stopping → Prop} {c : Card}
  {returned began : Option Nat}

/-- A stop that is not complete does not end before now. -/
theorem due (h : Account now grace held asks c returned began) (hsupervised : c.supervised = true)
    {x : Nat} (hx : began.or (some now) = some x) : now ≤ stopEnd grace returned x := by
  -- If the loop has returned at all, then just now.
  have hend (hlate : now ≤ x + grace) (hreturned : returned = if c.done then some now else none) :
      now ≤ stopEnd grace returned x := by
    rw [hreturned]
    cases c.done with
    | false => exact hlate
    | true => exact Nat.le_min.mpr ⟨Nat.le_refl _, hlate⟩
  cases h with
  | working _ _ hdone _ _ _ hreturned hbegan =>
    rw [hbegan] at hx
    cases hx
    exact hend (Nat.le_add_right _ _) (by rw [hreturned, hdone]; rfl)
  | called _ _ _ _ _ hreturned hbegan =>
    rw [hbegan] at hx
    cases hx
    exact hend (Nat.le_add_right _ _) hreturned
  | awaited y _ _ _ _ _ hreturned hbegan _ htimely =>
    rw [hbegan] at hx
    cases hx
    exact hend htimely hreturned
  | ended _ _ _ hreleased => exact absurd hsupervised (by simp [hreleased])

/-- No stop has begun in the future. -/
theorem began_le (h : Account now grace held asks c returned began) {x : Nat} (hx : began = some x) :
    x ≤ now := by
  cases h with
  | working _ _ _ _ _ _ _ hbegan => cases hx.symm.trans hbegan
  | called _ _ _ _ _ _ hbegan => cases hx.symm.trans hbegan
  | awaited y _ _ _ _ _ _ hbegan hpast =>
    cases hx.symm.trans hbegan
    exact hpast
  | ended y _ _ _ _ _ hbegan hpast =>
    cases hx.symm.trans hbegan
    exact hpast

/-- Somebody waits for a loop if and only if this has a beginning. -/
theorem awaited_eq (h : Account now grace held asks c returned began) : c.awaited = began.isSome := by
  cases h with
  | working _ _ _ hawaited _ _ _ hbegan => rw [hawaited, hbegan]; rfl
  | called _ hawaited _ _ _ _ hbegan => rw [hawaited, hbegan]; rfl
  | awaited _ _ hawaited _ _ _ _ hbegan => rw [hawaited, hbegan]; rfl
  | ended _ _ hawaited _ _ _ hbegan => rw [hawaited, hbegan]; rfl

end Account

theorem stopEnd_or {grace x now : Nat} {returned : Option Nat} {m : Nat}
    (h : stopEnd grace returned x = m) (hm : m ≤ now) :
    stopEnd grace (returned.or (some now)) x = m := by
  cases returned with
  | none =>
    have hx : x + grace = m := h
    exact (Nat.min_eq_right (by omega)).trans hx
  | some r => exact h

/-- The share of a controller in a shutdown that began at `t` and has waited until `last`. -/
structure Share (t last now grace : Nat) (pending : Prop) (c : Card) (returned began : Option Nat) :
    Prop where
  counted : c.supervised = true → pending
  calm : c.awaited = false → now = t
  early : ∀ x, began = some x → x ≤ t
  lower : pending → ∀ x, began = some x → t ≤ stopEnd grace returned x
  upper : c.supervised = false → ∀ x, began = some x → stopEnd grace returned x ≤ last

def Share.Reaches (last grace : Nat) (pending : Prop) (returned began : Option Nat) : Prop :=
  pending ∧ ∃ x, began = some x ∧ stopEnd grace returned x = last

namespace Share

variable {t last now grace : Nat} {pending held : Prop} {asks asks' : Stopping → Prop} {c c' : Card}
  {returned began : Option Nat}

/-- When a shutdown begins, it has waited for nothing. -/
theorem start (h : Account t grace held asks c returned began) :
    Share t t t grace (c.supervised = true) c returned began := by
  refine ⟨id, fun _ => rfl, fun x hx => h.began_le hx, fun hsupervised x hx => ?_,
    fun hreleased x hx => ?_⟩
  · exact h.due hsupervised (by rw [hx]; rfl)
  · obtain ⟨-, y, hbegan, hended⟩ := h.released hreleased
    cases hx.symm.trans hbegan
    exact hended

/-- A stop of the controller goes on. -/
theorem poll (h : Share t last now grace pending c returned began)
    (hbooks : Account now grace held asks c returned began)
    (hbooks' : Account now grace held asks' c' returned (began.or (some now)))
    (hreleased : c.supervised = false → c'.supervised = false)
    (hlast : c.supervised = true → last = now) :
    Share t last now grace pending c' returned (began.or (some now)) := by
  have hmono (hs : c'.supervised = true) : c.supervised = true := by
    by_contra hs'
    rw [hreleased (eq_false_of_ne_true hs')] at hs
    cases hs
  -- The wait for the loop began before, or it begins now, which is when the shutdown began.
  have hbegan (x : Nat) (hx : began.or (some now) = some x) :
      began = some x ∨ (c.supervised = true ∧ x = now ∧ now = t) := by
    cases hbegan : began with
    | some y =>
      rw [hbegan] at hx
      exact .inl hx
    | none =>
      rw [hbegan] at hx
      cases hx
      refine .inr ⟨?_, rfl, h.calm (by rw [hbooks.awaited_eq, hbegan]; rfl)⟩
      by_contra hs
      obtain ⟨-, y, hy, -⟩ := hbooks.released (eq_false_of_ne_true hs)
      cases hbegan.symm.trans hy
  refine ⟨fun hs => h.counted (hmono hs), fun hawaited => ?_, fun x hx => ?_, fun hp x hx => ?_,
    fun hs x hx => ?_⟩
  · rw [hbooks'.awaited_eq] at hawaited
    cases began <;> cases hawaited
  · rcases hbegan x hx with hold | ⟨-, hnow, hstart⟩
    · exact h.early x hold
    · omega
  · rcases hbegan x hx with hold | ⟨hs, -, hstart⟩
    · exact h.lower hp x hold
    · have hdue := hbooks.due hs hx
      omega
  · cases hsupervised : c.supervised with
    | true =>
      obtain ⟨-, y, hy, hended⟩ := hbooks'.released hs
      cases hx.symm.trans hy
      rw [hlast hsupervised]
      exact hended
    | false =>
      rcases hbegan x hx with hold | ⟨hs', -⟩
      · exact h.upper hsupervised x hold
      · rw [hsupervised] at hs'
        cases hs'

/-- The stop of the controller is complete, and nothing else has taken as long. -/
theorem reaches (h : Share t last now grace pending c returned began)
    (hbooks : Account now grace held asks c returned began)
    (hbooks' : Account now grace held asks' c' returned (began.or (some now)))
    (hsupervised : c.supervised = true) (hreleased : c'.supervised = false) :
    Reaches now grace pending returned (began.or (some now)) := by
  obtain ⟨-, x, hx, hended⟩ := hbooks'.released hreleased
  exact ⟨h.counted hsupervised, x, hx, Nat.le_antisymm hended (hbooks.due hsupervised hx)⟩

theorem Reaches.poll (h : Reaches last grace pending returned began) (now : Nat) :
    Reaches last grace pending returned (began.or (some now)) := by
  obtain ⟨hp, x, hx, hend⟩ := h
  exact ⟨hp, x, by rw [hx]; rfl, hend⟩

theorem finish (h : Share t last now grace pending c returned began) (ht : t ≤ now)
    (hlast : last ≤ now) : Share t last now grace pending c.finish (returned.or (some now)) began := by
  refine ⟨h.counted, h.calm, h.early, fun hp x hx => ?_, fun hs x hx => ?_⟩
  · have hlower := h.lower hp x hx
    cases returned with
    | none => exact Nat.le_min.mpr ⟨ht, hlower⟩
    | some r => exact hlower
  · have hupper := h.upper hs x hx
    rw [stopEnd_or rfl (Nat.le_trans hupper hlast)]
    exact hupper

theorem Reaches.finish (h : Reaches last grace pending returned began) (hlast : last ≤ now) :
    Reaches last grace pending (returned.or (some now)) began := by
  obtain ⟨hp, x, hx, hend⟩ := h
  exact ⟨hp, x, hx, stopEnd_or hend hlast⟩

/-- Time goes by once somebody waits for every loop. -/
theorem elapse (h : Share t last now grace pending c returned began) (hawaited : c.awaited = true)
    {moment last' : Nat} (hlast : last ≤ last') :
    Share t last' moment grace pending c returned began :=
  ⟨h.counted, fun hcalm => absurd hcalm (by simp [hawaited]), h.early, h.lower,
    fun hs x hx => Nat.le_trans (h.upper hs x hx) hlast⟩

end Share

namespace Docket

def Portion (d : Docket) (t last : Nat) (pending : Nat → Prop) (returned began : Nat → Option Nat)
    (n : Nat) (c : Card) : Prop :=
  Share t last d.board.now d.board.settings.grace (pending n) c (stamp (returned n) c.done d.board.now)
    (stamp (began n) c.awaited d.board.now)

def Reaches (d : Docket) (last : Nat) (pending : Nat → Prop) (returned began : Nat → Option Nat)
    (n : Nat) (c : Card) : Prop :=
  Share.Reaches last d.board.settings.grace (pending n) (stamp (returned n) c.done d.board.now)
    (stamp (began n) c.awaited d.board.now)

/-- A shutdown that began at `t` has waited until `last`, for the stops that were `pending`. -/
structure Countdown (d : Docket) (t last : Nat) (pending : Nat → Prop)
    (returned began : Nat → Option Nat) : Prop where
  known : ∀ n, pending n → n < d.board.cards.length
  since : t ≤ last
  past : last ≤ d.board.now
  latest : ¬ d.board.Released → last = d.board.now
  portions : ∀ n c, d.board.cards[n]? = some c → d.Portion t last pending returned began n c
  reached : d.board.Released → last = t ∨
    ∃ n c, d.board.cards[n]? = some c ∧ d.Reaches last pending returned began n c

variable {d : Docket} {t last n : Nat} {pending : Nat → Prop} {returned began : Nat → Option Nat}

theorem not_released {c : Card} (hc : d.board.cards[n]? = some c) (hs : c.supervised = true) :
    ¬ d.board.Released := fun h => by
  rw [h n c hc] at hs
  cases hs

theorem Countdown.change (h : d.Countdown t last pending returned began) {g : Card → Card}
    {stops : List (Nat × Stopping)}
    (hportion : ∀ c, d.board.cards[n]? = some c → d.Portion t last pending returned began n c →
      d.Portion t last pending returned began n (g c))
    (hreleased : ∀ c, c.supervised = false → (g c).supervised = false)
    (hends : ∀ c, d.board.cards[n]? = some c → c.supervised = true → (g c).supervised = false →
      d.Reaches d.board.now pending returned began n (g c))
    (hkeep : ∀ c, d.board.cards[n]? = some c → d.Reaches last pending returned began n c →
      d.Reaches last pending returned began n (g c)) :
    Countdown ⟨d.board.change n g, stops⟩ t last pending returned began := by
  have hothers (m : Nat) (hm : n ≠ m) : (d.board.change n g).cards[m]? = d.board.cards[m]? := by
    rw [Board.cards_change, if_neg hm]
  have hself (c : Card) (hc : d.board.cards[n]? = some c) :
      (d.board.change n g).cards[n]? = some (g c) := by
    rw [Board.cards_change, if_pos rfl, hc]
    rfl
  have hback : d.board.Released → (d.board.change n g).Released := by
    intro hall m c' hc'
    by_cases hm : n = m
    · subst hm
      rw [Board.cards_change, if_pos rfl] at hc'
      obtain ⟨c, hc, rfl⟩ := Option.map_eq_some_iff.mp hc'
      exact hreleased c (hall n c hc)
    · rw [hothers m hm] at hc'
      exact hall m c' hc'
  refine ⟨fun m hm => ?_, h.since, h.past, fun hsome => h.latest fun hall => hsome (hback hall),
    fun m c' hc' => ?_, fun hall => ?_⟩
  · rw [Board.change_length]
    exact h.known m hm
  · dsimp only at hc'
    by_cases hm : n = m
    · subst hm
      rw [Board.cards_change, if_pos rfl] at hc'
      obtain ⟨c, hc, rfl⟩ := Option.map_eq_some_iff.mp hc'
      exact hportion c hc (h.portions n c hc)
    · rw [hothers m hm] at hc'
      exact h.portions m c' hc'
  · dsimp only at hall ⊢
    by_cases hold : d.board.Released
    · rcases h.reached hold with hstart | ⟨m, c, hc, hreaches⟩
      · exact .inl hstart
      · by_cases hm : n = m
        · subst hm
          exact .inr ⟨n, g c, hself c hc, hkeep c hc hreaches⟩
        · exact .inr ⟨m, c, (hothers m hm).trans hc, hreaches⟩
    · -- The stop that was left is the one that is over now.
      have hlast := h.latest hold
      unfold Board.Released at hold
      push Not at hold
      obtain ⟨m, c, hc, hs⟩ := hold
      rw [Bool.ne_false_iff] at hs
      by_cases hm : n = m
      · subst hm
        refine .inr ⟨n, g c, hself c hc, ?_⟩
        have hreaches := hends c hc hs (hall n (g c) (hself c hc))
        rw [hlast]
        exact hreaches
      · have hs' := hall m c ((hothers m hm).trans hc)
        rw [hs] at hs'
        cases hs'

/-- What leaves the controllers as they are leaves the countdown as it is. -/
theorem Countdown.keep (h : d.Countdown t last pending returned began) {b : Board}
    {stops : List (Nat × Stopping)} (hsettings : b.settings = d.board.settings)
    (hnow : b.now = d.board.now) (hcards : b.cards = d.board.cards) :
    Countdown ⟨b, stops⟩ t last pending returned began := by
  have hreleased : b.Released ↔ d.board.Released := by rw [Board.Released, Board.Released, hcards]
  refine ⟨fun n hn => ?_, h.since, ?_, fun hsome => ?_, fun n c hc => ?_, fun hall => ?_⟩
  · rw [hcards]
    exact h.known n hn
  · rw [hnow]
    exact h.past
  · rw [hnow]
    exact h.latest fun hall => hsome (hreleased.mpr hall)
  · dsimp only at hc
    rw [Portion, hsettings, hnow]
    exact h.portions n c (hcards ▸ hc)
  · rcases h.reached (hreleased.mp hall) with hstart | ⟨n, c, hc, hreaches⟩
    · exact .inl hstart
    · refine .inr ⟨n, c, hcards ▸ hc, ?_⟩
      rw [Reaches, hsettings, hnow]
      exact hreaches

/-- A stop that goes on counts at most what it has waited for. -/
theorem Countdown.poll (h : d.Countdown t last pending returned began) (hd : d.Sound returned began)
    {before after : List (Nat × Stopping)} {state : Stopping}
    (hstops : d.stops = before ++ (n, state) :: after) :
    Countdown ⟨(d.board.pollStop n d.board.settings.grace state).2,
      before ++ (n, (d.board.pollStop n d.board.settings.grace state).1) :: after⟩
      t last pending returned began := by
  have hmem : (n, state) ∈ d.stops := by simp [hstops]
  have hawaited (c : Card) (hc : d.board.cards[n]? = some c) :
      (c.poll d.board.now d.board.settings.grace state).2.awaited = true :=
    c.poll_awaited _ _ (Account.awaited_of_asked (hd.books n c hc) hmem)
  have hbooks' (c : Card) (hc : d.board.cards[n]? = some c) :
      Account d.board.now d.board.settings.grace (d.board.registry.find? c.key = some n)
        (fun s => (n, s) ∈ before ++ (n, (d.board.pollStop n d.board.settings.grace state).1) :: after)
        (c.poll d.board.now d.board.settings.grace state).2 (stamp (returned n) c.done d.board.now)
        ((stamp (began n) c.awaited d.board.now).or (some d.board.now)) := by
    have hcard := d.board.pollStop_cards n d.board.settings.grace state
    rw [hc] at hcard
    have hbooks := (hd.poll hstops).books n (c.poll d.board.now d.board.settings.grace state).2 hcard
    rw [Books, Card.poll_done, Card.poll_key, hawaited c hc, ← stamp_or _ c.awaited] at hbooks
    exact hbooks
  refine h.change (fun c hc hportion => ?_) (fun c => c.poll_released _ _ _) (fun c hc hs hs' => ?_)
    fun c hc hreaches => ?_
  -- The share goes on, the stop may be complete now, and a stop that has been is so still.
  · have hlast (hs : c.supervised = true) : last = d.board.now := h.latest (not_released hc hs)
    have hpoll := Share.poll hportion (hd.books n c hc) (hbooks' c hc) (c.poll_released _ _ _) hlast
    rw [stamp_or] at hpoll
    rw [Portion, Card.poll_done, hawaited c hc]
    exact hpoll
  · have hreaches := Share.reaches (h.portions n c hc) (hd.books n c hc) (hbooks' c hc) hs hs'
    rw [stamp_or] at hreaches
    rw [Reaches, Card.poll_done, hawaited c hc]
    exact hreaches
  · have hpoll := Share.Reaches.poll hreaches d.board.now
    rw [stamp_or] at hpoll
    rw [Reaches, Card.poll_done, hawaited c hc]
    exact hpoll

/-- A loop that returns ends no wait that was over. -/
theorem Countdown.finish (h : d.Countdown t last pending returned began) :
    Countdown ⟨d.board.change n Card.finish, d.stops⟩ t last pending returned began := by
  refine h.change (fun c hc hportion => ?_) (fun _ hs => hs) (fun c hc hs hs' => ?_)
    fun c hc hreaches => ?_
  · have hfinish := Share.finish hportion (Nat.le_trans h.since h.past) h.past
    rw [stamp_or] at hfinish
    exact hfinish
  · have hsame : c.supervised = false := hs'
    rw [hs] at hsame
    cases hsame
  · have hfinish := Share.Reaches.finish hreaches h.past
    rw [stamp_or] at hfinish
    exact hfinish

theorem Move.countdown {d' : Docket} (hmove : d.Move d') (hd : d.Sound returned began)
    (h : d.Countdown t last pending returned began) :
    d'.Countdown t last pending returned began := by
  cases hmove with
  | poll before after n state hstops => exact h.poll hd hstops
  | unregister n outcome hover =>
    unfold Board.unregister
    split
    · exact h
    · exact h.keep rfl rfl rfl
  | finish n hcancelled => exact h.finish
  | arrange tasks stops hkeep hnew => exact h.keep rfl rfl rfl
  | close => exact h.keep rfl rfl rfl
  | shut hdrained hlisted => exact h.keep rfl rfl (hd.shut_cards hdrained hlisted)

/-- Whatever happens to the stops while time stands still, the count stays right. -/
theorem Moves.countdown {d' : Docket} (hmoves : d.Moves d') (hd : d.Sound returned began)
    (h : d.Countdown t last pending returned began) :
    d'.Countdown t last pending returned began := by
  induction hmoves with
  | refl => exact h
  | tail hmoves hmove ih => exact hmove.countdown (Moves.sound hmoves hd) ih

/-- A shutdown that begins waits for the controllers that are not released. -/
theorem Sound.countdown (hd : d.Sound returned began) :
    d.Countdown d.board.now d.board.now
      (fun n => ∃ c, d.board.cards[n]? = some c ∧ c.supervised = true) returned began := by
  refine ⟨fun n hn => ?_, Nat.le_refl _, Nat.le_refl _, fun _ => rfl, fun n c hc => ?_,
    fun _ => .inl rfl⟩
  · obtain ⟨c, hc, -⟩ := hn
    exact (List.getElem?_eq_some_iff.mp hc).1
  · have hstart := Share.start (hd.books n c hc)
    have hpending : (∃ c', d.board.cards[n]? = some c' ∧ c'.supervised = true) ↔
        c.supervised = true := by
      rw [hc]
      simp
    unfold Portion
    dsimp only
    rw [propext hpending]
    exact hstart

/-- As time goes by, it has waited until now if a stop is still incomplete, and no longer otherwise. -/
theorem Countdown.elapse (h : d.Countdown t last pending returned began)
    (hseen : d.Seen returned began)
    (hawaited : ∀ (n : Nat) (c : Card), d.board.cards[n]? = some c → c.awaited = true)
    {moment last' : Nat} (hlast : last ≤ last') (hpast : last' ≤ moment) (hlatest : ¬ d.board.Released → last' = moment)
    (hreached : d.board.Released → last' = last) :
    Countdown ⟨{ d.board with now := moment }, d.stops⟩ t last' pending returned began := by
  refine ⟨h.known, Nat.le_trans h.since hlast, hpast, hlatest, fun n c hc => ?_, fun hall => ?_⟩
  · obtain ⟨hdone, hbegan⟩ := hseen n c hc
    have hportion := h.portions n c hc
    unfold Portion at hportion ⊢
    rw [stamp_eq hdone, stamp_eq hbegan] at hportion ⊢
    exact hportion.elapse (hawaited n c hc) hlast
  · rw [hreached hall]
    rcases h.reached hall with hstart | ⟨n, c, hc, hreaches⟩
    · exact .inl hstart
    · obtain ⟨hdone, hbegan⟩ := hseen n c hc
      refine .inr ⟨n, c, hc, ?_⟩
      unfold Reaches at hreaches ⊢
      rw [stamp_eq hdone, stamp_eq hbegan] at hreaches ⊢
      exact hreaches

theorem Countdown.look (h : d.Countdown t last pending returned began) :
    d.Countdown t last pending (d.look Card.done returned) (d.look Card.awaited began) := by
  refine ⟨h.known, h.since, h.past, h.latest, fun n c hc => ?_, fun hall => ?_⟩
  · have hportion := h.portions n c hc
    unfold Portion at hportion ⊢
    rw [look_eq hc, look_eq hc, stamp_stamp, stamp_stamp]
    exact hportion
  · rcases h.reached hall with hstart | ⟨n, c, hc, hreaches⟩
    · exact .inl hstart
    · refine .inr ⟨n, c, hc, ?_⟩
      unfold Reaches at hreaches ⊢
      rw [look_eq hc, look_eq hc, stamp_stamp, stamp_stamp]
      exact hreaches

end Docket
end NatsFleet
