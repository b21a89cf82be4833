import NatsFleet.Proofs.Account
import NatsFleet.Proofs.Docket

/-!
Each controller of an operator has a sound account of its stop, whatever the operator does.
-/
namespace NatsFleet

def Board.Released (b : Board) : Prop :=
  ∀ (n : Nat) (c : Card), b.cards[n]? = some c → c.supervised = false

namespace Docket

/-- The account of a controller, given since when its loop was seen to have returned and somebody was
seen to wait for that. -/
def Books (d : Docket) (returned began : Nat → Option Nat) (n : Nat) (c : Card) : Prop :=
  Account d.board.now d.board.settings.grace (d.board.registry.find? c.key = some n)
    (fun state => (n, state) ∈ d.stops) c (stamp (returned n) c.done d.board.now)
    (stamp (began n) c.awaited d.board.now)

structure Sound (d : Docket) (returned began : Nat → Option Nat) : Prop where
  linked : d.board.Linked
  root : d.board.phase.isClosed = false → d.board.cancelled = false
  known : ∀ s ∈ d.stops, s.1 < d.board.cards.length
  unseen : ∀ n, d.board.cards.length ≤ n → returned n = none ∧ began n = none
  ended : d.board.phase = .stopped → d.board.cancelled = true ∧ d.board.Released
  books : ∀ n c, d.board.cards[n]? = some c → d.Books returned began n c

variable {d : Docket} {returned began : Nat → Option Nat} {n : Nat}

/-- Something happens to one controller and to the stops that ask for it. -/
theorem Sound.change (h : d.Sound returned began) {g : Card → Card} {stops : List (Nat × Stopping)}
    (hkey : ∀ c, (g c).key = c.key)
    (hreleased : ∀ c, c.supervised = false → (g c).supervised = false)
    (hknown : ∀ s ∈ stops, s.1 < d.board.cards.length)
    (hothers : ∀ m, m ≠ n → ∀ state, (m, state) ∈ stops ↔ (m, state) ∈ d.stops)
    (hn : ∀ c, d.board.cards[n]? = some c → d.Books returned began n c →
      Account d.board.now d.board.settings.grace (d.board.registry.find? c.key = some n)
        (fun state => (n, state) ∈ stops) (g c) (stamp (returned n) (g c).done d.board.now)
        (stamp (began n) (g c).awaited d.board.now)) :
    Sound ⟨d.board.change n g, stops⟩ returned began where
  linked := h.linked.change n hkey
  root := h.root
  known s hs := by
    rw [Board.change_length]
    exact hknown s hs
  unseen m hm := by
    rw [Board.change_length] at hm
    exact h.unseen m hm
  ended hstopped := by
    obtain ⟨hroot, hcards⟩ := h.ended hstopped
    exact ⟨hroot, d.board.forall_change (P := fun _ c => c.supervised = false)
      (fun c hc => hreleased c (hcards n c hc)) fun m c _ hc => hcards m c hc⟩
  books := by
    unfold Books
    dsimp only
    refine d.board.forall_change (fun c hc => ?_) fun m c hm hc => ?_
    · rw [hkey]
      exact hn c hc (h.books n c hc)
    · have hasks : (fun state => (m, state) ∈ stops) = fun state => (m, state) ∈ d.stops :=
        funext fun state => propext (hothers m (Ne.symm hm) state)
      rw [hasks]
      exact h.books m c hc

theorem mem_poll {before after : List (Nat × Stopping)} {state state' s : Stopping}
    (h : (n, s) ∈ before ++ (n, state) :: after) (hs : s ≠ state) :
    (n, s) ∈ before ++ (n, state') :: after := by
  simp only [List.mem_append, List.mem_cons, Prod.mk.injEq, true_and, hs, false_or] at h ⊢
  tauto

/-- A stop that was there is there, or it is the one that has come of going on. -/
theorem mem_poll_or {before after : List (Nat × Stopping)} {state state' s : Stopping}
    (h : (n, s) ∈ before ++ (n, state') :: after) :
    (n, s) ∈ before ++ (n, state) :: after ∨ s = state' := by
  by_cases hs : s = state'
  · exact .inr hs
  · exact .inl (mem_poll h hs)

/-- A stop that goes on is still of the same controller. -/
theorem forall_poll {P : Nat → Prop} {before after : List (Nat × Stopping)} {state : Stopping}
    (h : ∀ s ∈ before ++ (n, state) :: after, P s.1) (state' : Stopping) :
    ∀ s ∈ before ++ (n, state') :: after, P s.1 := by
  simp only [List.forall_mem_append, List.forall_mem_cons] at h ⊢
  exact h

/-- The books stay right when a stop goes on. -/
theorem Sound.poll (h : d.Sound returned began) {before after : List (Nat × Stopping)}
    {state : Stopping} (hstops : d.stops = before ++ (n, state) :: after) :
    Sound ⟨(d.board.pollStop n d.board.settings.grace state).2,
      before ++ (n, (d.board.pollStop n d.board.settings.grace state).1) :: after⟩ returned began := by
  obtain ⟨b, stops⟩ := d
  dsimp only at hstops ⊢
  subst hstops
  have hmem : (n, state) ∈ before ++ (n, state) :: after := by simp
  refine h.change (fun c => c.poll_key _ _ _) (fun c => c.poll_released _ _ _)
    (forall_poll (P := (· < b.cards.length)) h.known _) ?_ ?_
  · intro m hm s
    simp [hm]
  · intro c hc hbooks
    rw [Board.pollStop_eq hc]
    -- Of the stops that ask for this controller, one has gone on and the others have not.
    have hpoll : Account b.now b.settings.grace (b.registry.find? c.key = some n)
        (fun s => (n, s) ∈ before ++ (n, (c.poll b.now b.settings.grace state).1) :: after)
        (c.poll b.now b.settings.grace state).2 (stamp (returned n) c.done b.now)
        ((stamp (began n) c.awaited b.now).or (some b.now)) := by
      exact Account.poll hbooks hmem (by simp) (fun s hs hne => mem_poll hs hne)
        fun s hs => mem_poll_or hs
    rw [stamp_or] at hpoll
    rw [c.poll_done, c.poll_awaited _ _ (Account.awaited_of_asked hbooks hmem)]
    exact hpoll

/-- They stay right when the loop of a cancelled controller returns. -/
theorem Sound.finish (h : d.Sound returned began) (hcancelled : d.board.isCancelled n = true) :
    Sound ⟨d.board.change n Card.finish, d.stops⟩ returned began := by
  refine h.change (fun _ => rfl) (fun _ hc => hc) h.known (fun _ _ _ => Iff.rfl) fun c hc hbooks => ?_
  rw [Board.isCancelled_eq hc] at hcancelled
  have hfinish := Account.finish hbooks hcancelled
  rw [stamp_or] at hfinish
  exact hfinish

/-- What leaves the controllers as they are keeps the accounts, if the registry still holds those that
work and no stop is lost. -/
theorem Sound.keep (h : d.Sound returned began) {b : Board} {stops : List (Nat × Stopping)}
    (hsettings : b.settings = d.board.settings) (hnow : b.now = d.board.now)
    (hcards : b.cards = d.board.cards) (hlinked : b.Linked)
    (hroot : b.phase.isClosed = false → b.cancelled = false)
    (hended : b.phase = .stopped → b.cancelled = true ∧ b.Released)
    (hheld : ∀ n c, b.cards[n]? = some c → c.cancelled = false →
      d.board.registry.find? c.key = some n → b.registry.find? c.key = some n)
    (hkeep : ∀ s ∈ d.stops, s.2.isOver = false → s ∈ stops)
    (hnew : ∀ s ∈ stops, s ∈ d.stops ∨ s.2 = .unborn ∧ s.1 < d.board.cards.length) :
    Sound ⟨b, stops⟩ returned began where
  linked := hlinked
  root := hroot
  known s hs := by
    rw [hcards]
    exact (hnew s hs).elim (h.known s) And.right
  unseen n hn := h.unseen n (hcards ▸ hn)
  ended := hended
  books n c hc := by
    have hbooks := h.books n c (hcards ▸ hc)
    unfold Books
    dsimp only
    rw [hsettings, hnow]
    exact Account.arrange hbooks (hheld n c hc) (fun state hs hs' => hkeep _ hs hs')
      fun state hs => (hnew _ hs).imp_right And.left

/-- They stay right when a clean-up that is over unregisters its controller. -/
theorem Sound.unregister (h : d.Sound returned began) {outcome : StopOutcome}
    (hover : (n, .over outcome) ∈ d.stops) : Sound ⟨d.board.unregister n, d.stops⟩ returned began := by
  have hlinked := Board.unregister_linked h.linked n
  cases hc : d.board.cards[n]? with
  | none =>
    rw [Board.unregister, hc]
    exact h
  | some c =>
    have hcancelled := (h.books n c hc).cancelled_of_over hover
    rw [Board.unregister, hc] at hlinked ⊢
    refine h.keep rfl rfl rfl hlinked h.root h.ended ?_ (fun s hs _ => hs) fun s hs => .inl hs
    intro m c' hc' hworks hfind
    dsimp only at hc' ⊢
    unfold Registry.removeController
    split_ifs with hregistered
    · -- The controller that goes has been called.
      have hkey : c.key ≠ c'.key := by
        intro hkey
        rw [← hkey, hregistered, Option.some.injEq] at hfind
        subst hfind
        obtain rfl : c = c' := Option.some.inj (hc.symm.trans hc')
        rw [hcancelled] at hworks
        cases hworks
      rw [Registry.find?, KeyMap.find?_erase, if_neg hkey]
      exact hfind
    · exact hfind

theorem snapshot_lt (h : d.board.Linked) (hn : n ∈ d.board.registry.snapshot) :
    n < d.board.cards.length := by
  obtain ⟨e, he, rfl⟩ := List.mem_map.mp hn
  obtain ⟨c, hc, -⟩ := h e he
  exact (List.getElem?_eq_some_iff.mp hc).1

/-- Once nothing is left to wait for, every stop is complete. -/
theorem Sound.drained (h : d.Sound returned began) (hdrained : d.board.isDrained = true)
    (hlisted : ∀ s ∈ d.stops, s.2.isOver = false → ∃ t ∈ d.board.tasks, s.1 ∈ t.controllers) :
    d.board.Released := by
  intro n c hc
  -- A stop that is not complete would be of a registered controller, or one that a task deals with.
  by_contra hsupervised
  rw [Bool.not_eq_false] at hsupervised
  obtain ⟨hunregistered, htasks⟩ := Board.free_of_drained hdrained hc hsupervised
  rcases (h.books n c hc).referenced hsupervised with hfind | ⟨state, hstate, hover⟩
  · exact hunregistered (List.mem_map_of_mem (KeyMap.mem_of_find? _ _ hfind))
  · obtain ⟨t, ht, hn⟩ := hlisted _ hstate hover
    exact htasks t ht hn

theorem cards_stop {l : List Card} (h : ∀ c ∈ l, c.cancelled = true) : l.map Card.stop = l := by
  have hid : ∀ c ∈ l, c.stop = id c := fun c hc => by rw [Card.stop, ← h c hc]; rfl
  rw [List.map_congr_left hid, List.map_id]

/-- The end of a shutdown finds every controller cancelled already. -/
theorem Sound.shut_cards (h : d.Sound returned began) (hdrained : d.board.isDrained = true)
    (hlisted : ∀ s ∈ d.stops, s.2.isOver = false → ∃ t ∈ d.board.tasks, s.1 ∈ t.controllers) :
    d.board.shut.cards = d.board.cards := by
  refine cards_stop fun c hc => ?_
  obtain ⟨n, hn⟩ := List.mem_iff_getElem?.mp hc
  exact ((h.books n c hn).released (h.drained hdrained hlisted n c hn)).1

/-- Whatever happens to the stops, the books stay right. -/
theorem Move.sound {d' : Docket} (h : d.Move d') (hd : d.Sound returned began) :
    d'.Sound returned began := by
  cases h with
  | poll before after n state hstops => exact hd.poll hstops
  | unregister n outcome hover => exact hd.unregister hover
  | finish n hcancelled => exact hd.finish hcancelled
  | arrange tasks stops hkeep hnew =>
    exact hd.keep rfl rfl rfl hd.linked hd.root hd.ended (fun _ _ _ _ hfind => hfind) hkeep
      fun s hs => (hnew s hs).imp_right fun hs' => ⟨hs'.1, snapshot_lt hd.linked hs'.2⟩
  | close =>
    exact hd.keep rfl rfl rfl hd.linked nofun nofun (fun _ _ _ _ hfind => hfind) (fun s hs _ => hs)
      fun s hs => .inl hs
  | shut hdrained hlisted =>
    have hcards := hd.shut_cards hdrained hlisted
    have hlinked : d.board.shut.Linked := by
      rw [Board.Linked, hcards]
      exact hd.linked
    have hended : d.board.shut.Released := by
      rw [Board.Released, hcards]
      exact hd.drained hdrained hlisted
    exact hd.keep rfl rfl hcards hlinked nofun (fun _ => ⟨rfl, hended⟩) (fun _ _ _ _ hfind => hfind)
      (fun s hs _ => hs) fun s hs => .inl hs

theorem Moves.sound {d' : Docket} (h : d.Moves d') (hd : d.Sound returned began) :
    d'.Sound returned began := by
  induction h with
  | refl => exact hd
  | tail _ hmove ih => exact hmove.sound ih

/-! ## Time -/

def Seen (d : Docket) (returned began : Nat → Option Nat) : Prop :=
  ∀ (n : Nat) (c : Card), d.board.cards[n]? = some c →
    (c.done = true → (returned n).isSome = true) ∧ (c.awaited = true → (began n).isSome = true)

def Quiet (d : Docket) (moment : Nat) : Prop :=
  ∀ n state, (n, state) ∈ d.stops → state ≠ .unborn ∧ ∀ deadline, state = .waiting deadline →
    moment ≤ deadline ∧ ∀ c, d.board.cards[n]? = some c → c.done = false

/-- They stay right as time goes by, up to the moment for which a stop waits. -/
theorem Sound.elapse (h : d.Sound returned began) (hseen : d.Seen returned began) {moment : Nat}
    (hlater : d.board.now ≤ moment) (hquiet : d.Quiet moment) :
    Sound ⟨{ d.board with now := moment }, d.stops⟩ returned began := by
  refine ⟨h.linked, h.root, h.known, h.unseen, h.ended, fun n c hc => ?_⟩
  -- All that has happened so far has been seen, so a later look finds nothing new.
  obtain ⟨hdone, hawaited⟩ := hseen n c hc
  have hbooks := h.books n c hc
  unfold Books at hbooks ⊢
  rw [stamp_eq hdone, stamp_eq hawaited] at hbooks ⊢
  refine hbooks.elapse hlater (fun hunborn => (hquiet n _ hunborn).1 rfl) fun deadline hwaits => ?_
  obtain ⟨htimely, hworks⟩ := (hquiet n _ hwaits).2 deadline rfl
  exact ⟨hworks c hc, htimely⟩

def look (d : Docket) (flag : Card → Bool) (seen : Nat → Option Nat) (n : Nat) : Option Nat :=
  stamp (seen n) ((d.board.cards[n]?).any flag) d.board.now

theorem look_eq {c : Card} (hc : d.board.cards[n]? = some c) (flag : Card → Bool)
    (seen : Nat → Option Nat) : d.look flag seen n = stamp (seen n) (flag c) d.board.now := by
  rw [look, hc]
  rfl

theorem look_none (hn : d.board.cards.length ≤ n) (flag : Card → Bool) {seen : Nat → Option Nat}
    (hseen : seen n = none) : d.look flag seen n = none := by
  rw [look, List.getElem?_eq_none hn, hseen]
  rfl

/-- To look at the controllers changes no account, as what is seen is known. -/
theorem Sound.look (h : d.Sound returned began) :
    d.Sound (d.look Card.done returned) (d.look Card.awaited began) := by
  refine ⟨h.linked, h.root, h.known, fun n hn => ?_, h.ended, fun n c hc => ?_⟩
  · obtain ⟨hreturned, hbegan⟩ := h.unseen n hn
    exact ⟨look_none hn _ hreturned, look_none hn _ hbegan⟩
  · have hbooks := h.books n c hc
    unfold Books at hbooks ⊢
    rw [look_eq hc, look_eq hc, stamp_stamp, stamp_stamp]
    exact hbooks

theorem seen_look (d : Docket) (returned began : Nat → Option Nat) :
    d.Seen (d.look Card.done returned) (d.look Card.awaited began) := by
  intro n c hc
  rw [look_eq hc, look_eq hc]
  refine ⟨fun hdone => ?_, fun hawaited => ?_⟩
  · rw [hdone]
    cases returned n <;> rfl
  · rw [hawaited]
    cases began n <;> rfl

/-! ## Changes -/

variable {b : Board}

/-- A controller that has just been accepted has an empty account. -/
theorem accept_sound (h : b.docket.Sound returned began) {c : Cluster}
    (hopen : b.phase.isClosed = false) (hfree : b.registry.holds b.isCancelled c.key = false)
    {b' : Board} (hlinked : b'.Linked) (hsettings : b'.settings = b.settings) (hnow : b'.now = b.now)
    (hphase : b'.phase = b.phase)
    (hroot : b'.cancelled = b.cancelled)
    (hregistry : b'.registry = ⟨b.registry.entries.put c.key b.cards.length⟩)
    (hcards : b'.cards = b.cards ++ [Card.ofCluster c b.cancelled]) (hstops : b'.stops = b.stops) :
    b'.docket.Sound returned began := by
  have hcancelled : b.cancelled = false := h.root hopen
  have hfind (k : ClusterKey) : b'.registry.find? k =
      if c.key = k then some b.cards.length else b.registry.find? k := by
    rw [hregistry]
    exact KeyMap.find?_put _ _ _ _
  rw [Board.docket, hstops]
  refine ⟨hlinked, fun _ => hroot.trans hcancelled, fun s hs => ?_, fun n hn => ?_, fun hstopped => ?_,
    fun n card hc => ?_⟩
  · rw [hcards, List.length_append]
    exact Nat.lt_add_right _ (h.known s hs)
  · rw [hcards, List.length_append] at hn
    exact h.unseen n (Nat.le_of_add_right_le hn)
  · rw [← hphase, hstopped] at hopen
    cases hopen
  · dsimp only at hc
    unfold Books
    dsimp only
    rw [hsettings, hnow, hfind]
    by_cases hn : n < b.cards.length
    · rw [hcards, List.getElem?_append_left hn] at hc
      refine Account.arrange (h.books n card hc) (fun hworks hheld => ?_) (fun _ hs _ => hs)
        fun _ hs => .inl hs
      -- A controller at work would have kept the key.
      have hkey : c.key ≠ card.key := by
        intro hkey
        have hheld' : b.registry.find? c.key = some n := hkey ▸ hheld
        rw [Registry.holds, hheld'] at hfree
        dsimp only at hfree
        rw [Board.isCancelled_eq hc, hworks] at hfree
        cases hfree
      rw [if_neg hkey]
      exact hheld
    · -- The new controller works, is registered, and nobody has asked for it.
      have hn' : n = b.cards.length := by
        have hlt := (List.getElem?_eq_some_iff.mp hc).1
        rw [hcards, List.length_append, List.length_singleton] at hlt
        omega
      subst hn'
      rw [hcards, List.getElem?_concat_length] at hc
      obtain rfl := Option.some.inj hc
      obtain ⟨hreturned, hbegan⟩ := h.unseen b.cards.length (Nat.le_refl _)
      refine .working (if_pos rfl) hcancelled rfl rfl rfl (fun state hs => ?_) ?_ ?_
      · exact absurd (h.known _ hs) (Nat.lt_irrefl _)
      · rw [hreturned]
        rfl
      · rw [hbegan]
        rfl

/-- The books stay right when a cluster is added. -/
theorem add_sound (h : b.docket.Sound returned began) (c : Cluster) :
    (b.add c).docket.Sound returned began := by
  have hlinked : (b.add c).Linked := Board.add_linked h.linked c
  unfold Board.add at hlinked ⊢
  split_ifs at hlinked ⊢ with hrefused
  · exact h
  · rw [Bool.not_eq_true, Bool.or_eq_false_iff] at hrefused
    refine accept_sound h hrefused.1 hrefused.2 hlinked rfl rfl rfl rfl rfl rfl ?_
    simp [Board.stops, Task.stopping]

theorem update_sound (h : b.docket.Sound returned began) (c : Cluster) :
    (b.update c).docket.Sound returned began := by
  unfold Board.update
  split
  · exact add_sound h c
  · rename_i n hactive
    refine Sound.change h (fun _ => rfl) (fun _ hc => hc) h.known (fun _ _ _ => Iff.rfl)
      fun card hc hbooks => ?_
    exact Account.respec hbooks c.spec

/-- They stay right when one is deleted. -/
theorem delete_sound (h : b.docket.Sound returned began) (c : Cluster) :
    (b.delete c).docket.Sound returned began := by
  unfold Board.delete
  cases hfind : b.registry.find? c.key with
  | none => exact h
  | some n =>
    -- The clean-up asks for the controller before the controller is called.
    have harrange := Board.cleanUp_move (List.mem_map_of_mem (KeyMap.mem_of_find? _ _ hfind))
    have hcalled := harrange.sound h
    dsimp only
    rw [Board.docket, Board.cleanUp_stops]
    refine hcalled.change (fun _ => rfl) (fun _ hc => hc) hcalled.known (fun _ _ _ => Iff.rfl)
      fun card hc hbooks => ?_
    exact Account.stop hbooks (by simp)

/-- They stay right when any change is dealt with. -/
theorem handle_sound (h : b.docket.Sound returned began) (change : Watch.Change) :
    (b.handle change).docket.Sound returned began := by
  unfold Board.handle
  split_ifs
  · exact h
  · cases change with
    | added c => exact add_sound h c
    | updated old c => exact update_sound h c
    | deleted c => exact delete_sound h c

end Docket
end NatsFleet
