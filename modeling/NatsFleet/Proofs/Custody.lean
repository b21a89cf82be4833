import NatsFleet.Proofs.Dispatch
import NatsFleet.Proofs.Ledger

/-!
Every stop of a controller is in somebody's hands until it is complete, however late its tasks go on: the
controller works, somebody is about to stop it, or somebody waits for its loop.
-/
namespace NatsFleet

/-- Who minds the stop of a controller, given the states of the stops that ask for it and since when
somebody has waited for its loop. -/
structure Tended (now grace : Nat) (asks : Stopping → Prop) (c : Card) (began : Option Nat) : Prop where
  called : c.awaited = true → c.cancelled = true
  begun : began.isSome = c.awaited
  asked : ∀ state, asks state → state = .unborn ∨ c.awaited = true
  due : ∀ deadline, asks (.waiting deadline) → ∃ x, began = some x ∧ deadline = x + grace
  minded : c.supervised = true → c.cancelled = false ∨ (c.awaited = false ∧ asks .unborn) ∨
    ∃ deadline, asks (.waiting deadline)
  complete : c.supervised = false → c.awaited = true ∧
    (c.done = true ∨ ∃ x, began = some x ∧ x + grace ≤ now)

namespace Tended

variable {now grace : Nat} {asks asks' : Stopping → Prop} {c : Card} {began : Option Nat}

/-- A controller that is accepted works, and nobody asks for it. -/
theorem accepted (now grace : Nat) (hasks : ∀ state, ¬ asks state) (cluster : Cluster) :
    Tended now grace asks (Card.ofCluster cluster false) none where
  called h := by cases h
  begun := rfl
  asked state h := absurd h (hasks state)
  due deadline h := absurd h (hasks _)
  minded _ := .inl rfl
  complete h := by cases h

/-- The stop that somebody waits for goes on. -/
theorem waits {x : Nat} (hcancelled : c.cancelled = true) (hawaited : c.awaited = true)
    (hbegan : began = some x) (hcomplete : c.supervised = false → c.done = true ∨ x + grace ≤ now)
    (hnew : asks' (c.check now (x + grace)).1)
    (hdue : ∀ deadline, asks' (.waiting deadline) → deadline = x + grace) :
    Tended now grace asks' (c.check now (x + grace)).2 began := by
  have hbegun : began.isSome = true := by rw [hbegan]; rfl
  have hdue' : ∀ deadline, asks' (.waiting deadline) → ∃ x, began = some x ∧ deadline = x + grace :=
    fun deadline hd => ⟨x, hbegan, hdue deadline hd⟩
  unfold Card.check at hnew ⊢
  split_ifs at hnew ⊢ with hdone hlate
  · exact ⟨fun _ => hcancelled, hbegun.trans hawaited.symm, fun _ _ => .inr hawaited, hdue', nofun,
      fun _ => ⟨hawaited, .inl hdone⟩⟩
  · exact ⟨fun _ => hcancelled, hbegun.trans hawaited.symm, fun _ _ => .inr hawaited, hdue', nofun,
      fun _ => ⟨hawaited, .inr ⟨x, hbegan, hlate⟩⟩⟩
  · exact ⟨fun _ => hcancelled, hbegun.trans hawaited.symm, fun _ _ => .inr hawaited, hdue',
      fun _ => .inr (.inr ⟨_, hnew⟩),
      fun hreleased => ⟨hawaited, (hcomplete hreleased).imp_right fun hlate => ⟨x, hbegan, hlate⟩⟩⟩

/-- A stop that is complete has its loop returned, or has waited for the grace period. -/
theorem complete_at (h : Tended now grace asks c began) {x : Nat} (hbegan : began = some x)
    (hreleased : c.supervised = false) : c.done = true ∨ x + grace ≤ now := by
  refine (h.complete hreleased).2.imp_right ?_
  rintro ⟨y, hy, hlate⟩
  obtain rfl : y = x := Option.some.inj (hy.symm.trans hbegan)
  exact hlate

theorem stop_of_cancelled (hcancelled : c.cancelled = true) : c.stop = c := by
  cases c
  cases hcancelled
  rfl

/-- Somebody waits for the controller already, and a stop that does not is over now. -/
theorem watched (h : Tended now grace asks c began) (hawaited : c.awaited = true)
    {state : Stopping} {outcome : StopOutcome} (hstate : ∀ deadline, Stopping.waiting deadline ≠ state)
    (hkeep : ∀ s, asks s → s ≠ state → asks' s) (hback : ∀ s, asks' s → asks s ∨ s = .over outcome) :
    Tended now grace asks' c began where
  called := h.called
  begun := h.begun
  asked _ _ := .inr hawaited
  due deadline hd := h.due deadline ((hback _ hd).resolve_right Stopping.noConfusion)
  minded hsupervised := by
    rcases h.minded hsupervised with hworks | ⟨hfree, -⟩ | ⟨deadline, hd⟩
    · exact .inl hworks
    · exact absurd hawaited (by simp [hfree])
    · exact .inr (.inr ⟨deadline, hkeep _ hd (hstate deadline)⟩)
  complete := h.complete

/-- A stop that asks for the controller goes on, and the others stay as they are. -/
theorem poll (h : Tended now grace asks c began) {state : Stopping} (hstate : asks state)
    (hnew : asks' (c.poll now grace state).1) (hkeep : ∀ s, asks s → s ≠ state → asks' s)
    (hback : ∀ s, asks' s → asks s ∨ s = (c.poll now grace state).1) :
    Tended now grace asks' (c.poll now grace state).2 (began.or (some now)) := by
  cases hawaited : c.awaited with
  | false =>
    -- The first stop that goes on begins to wait.
    have hunborn (s : Stopping) (hs : asks s) : s = .unborn :=
      (h.asked s hs).resolve_right (by simp [hawaited])
    obtain rfl := hunborn state hstate
    have hnone : began = none := by
      rw [← Option.isNone_iff_eq_none, ← Option.isSome_eq_false_iff, h.begun, hawaited]
    have hpoll : c.poll now grace .unborn = c.stop.await.check now (now + grace) := by
      rw [Card.poll, hawaited]
      rfl
    rw [hpoll] at hnew hback ⊢
    refine waits rfl rfl (by rw [hnone]; rfl) (fun hreleased => ?_) hnew fun deadline hd => ?_
    · exact absurd (h.complete hreleased).1 (by simp [hawaited])
    · have hwaiting := (hback _ hd).resolve_left fun hold => by cases hunborn _ hold
      exact Card.check_waiting hwaiting.symm
  | true =>
    have hcancelled := h.called hawaited
    obtain ⟨x, hbegan⟩ : ∃ x, began = some x := by
      rw [← Option.isSome_iff_exists, h.begun, hawaited]
    have hbegan' : began.or (some now) = some x := by rw [hbegan]; rfl
    have hdue (deadline : Nat) (hd : asks (.waiting deadline)) : deadline = x + grace := by
      obtain ⟨y, hy, hdeadline⟩ := h.due deadline hd
      obtain rfl : y = x := Option.some.inj (hy.symm.trans hbegan)
      exact hdeadline
    cases state with
    | waiting deadline =>
      obtain rfl := hdue deadline hstate
      exact waits hcancelled hawaited hbegan' (h.complete_at hbegan) hnew
        fun deadline hd => (hback _ hd).elim (hdue deadline) fun hs => Card.check_waiting hs.symm
    | unborn =>
      have hpoll : c.poll now grace .unborn = (.over .alreadyStopping, c.stop) := by
        rw [Card.poll, hawaited]
        rfl
      rw [hpoll] at hback ⊢
      rw [stop_of_cancelled hcancelled, hbegan', ← hbegan]
      exact h.watched hawaited (fun deadline => Stopping.noConfusion) hkeep hback
    | «over» outcome =>
      rw [hbegan', ← hbegan]
      exact h.watched hawaited (fun deadline => Stopping.noConfusion) hkeep hback

theorem finish (h : Tended now grace asks c began) : Tended now grace asks c.finish began where
  called := h.called
  begun := h.begun
  asked := h.asked
  due := h.due
  minded := h.minded
  complete hreleased := ⟨(h.complete hreleased).1, .inl rfl⟩

theorem respec (h : Tended now grace asks c began) (spec : ClusterSpec) :
    Tended now grace asks { c with spec := spec } began where
  called := h.called
  begun := h.begun
  asked := h.asked
  due := h.due
  minded := h.minded
  complete := h.complete

/-- A controller is called by somebody who is about to stop it. -/
theorem stop (h : Tended now grace asks c began) (hasked : asks .unborn) :
    Tended now grace asks c.stop began where
  called _ := rfl
  begun := h.begun
  asked := h.asked
  due := h.due
  minded hsupervised := by
    rcases h.minded hsupervised with hworks | hminded
    · have hfree : c.awaited = false := by
        by_contra hawaited
        rw [h.called (eq_true_of_ne_false hawaited)] at hworks
        cases hworks
      exact .inr (.inl ⟨hfree, hasked⟩)
    · exact .inr hminded
  complete := h.complete

/-- Stops that are over may go, and new ones may come. -/
theorem arrange (h : Tended now grace asks c began)
    (hkeep : ∀ state, asks state → state.isOver = false → asks' state)
    (hback : ∀ state, asks' state → asks state ∨ state = .unborn) :
    Tended now grace asks' c began where
  called := h.called
  begun := h.begun
  asked state hs := (hback state hs).elim (h.asked state) .inl
  due deadline hd := h.due deadline ((hback _ hd).resolve_right nofun)
  minded hsupervised := by
    rcases h.minded hsupervised with hworks | ⟨hfree, hunborn⟩ | ⟨deadline, hd⟩
    · exact .inl hworks
    · exact .inr (.inl ⟨hfree, hkeep _ hunborn rfl⟩)
    · exact .inr (.inr ⟨deadline, hkeep _ hd rfl⟩)
  complete := h.complete

/-- A stop that is minded stays so as time goes by. -/
theorem elapse (h : Tended now grace asks c began) {moment : Nat} (hlater : now ≤ moment) :
    Tended moment grace asks c began where
  called := h.called
  begun := h.begun
  asked := h.asked
  due := h.due
  minded := h.minded
  complete hreleased := by
    refine ⟨(h.complete hreleased).1, (h.complete hreleased).2.imp_right ?_⟩
    rintro ⟨x, hbegan, hlate⟩
    exact ⟨x, hbegan, Nat.le_trans hlate hlater⟩

end Tended

def Board.bare (b : Board) : Board := { b with tasks := [] }

theorem Board.Orderly.bare {b : Board} (h : b.Orderly) : b.bare.Orderly :=
  ⟨h.linked, h.held, fun _ ht => absurd ht List.not_mem_nil⟩

namespace Docket

/-- The stops of all controllers are minded, and the scope of all controllers is cancelled only when
they are complete. -/
structure Custody (d : Docket) (began : Nat → Option Nat) : Prop where
  orderly : d.board.bare.Orderly
  root : d.board.phase.isClosed = false → d.board.cancelled = false
  ended : d.board.cancelled = true → d.board.Released
  known : ∀ s ∈ d.stops, s.1 < d.board.cards.length
  unseen : ∀ n, d.board.cards.length ≤ n → began n = none
  tended : ∀ n c, d.board.cards[n]? = some c → Tended d.board.now d.board.settings.grace
    (fun state => (n, state) ∈ d.stops) c (stamp (began n) c.awaited d.board.now)

variable {d d' : Docket} {began : Nat → Option Nat} {n : Nat}

/-- Something happens to one controller and to the stops that ask for it. -/
theorem Custody.change (h : d.Custody began) {g : Card → Card} {stops : List (Nat × Stopping)}
    (hkey : ∀ c, (g c).key = c.key)
    (hcancelled : ∀ c, c.cancelled = true → (g c).cancelled = true)
    (hreleased : ∀ c, c.supervised = false → (g c).supervised = false)
    (hknown : ∀ s ∈ stops, s.1 < d.board.cards.length)
    (hothers : ∀ m, m ≠ n → ∀ state, (m, state) ∈ stops ↔ (m, state) ∈ d.stops)
    (hn : ∀ c, d.board.cards[n]? = some c → Tended d.board.now d.board.settings.grace
      (fun state => (n, state) ∈ d.stops) c (stamp (began n) c.awaited d.board.now) →
        Tended d.board.now d.board.settings.grace (fun state => (n, state) ∈ stops) (g c)
          (stamp (began n) (g c).awaited d.board.now)) :
    Custody ⟨d.board.change n g, stops⟩ began where
  orderly := h.orderly.change n hkey hcancelled
  root := h.root
  ended hroot := d.board.forall_change (P := fun _ c => c.supervised = false)
    (fun c hc => hreleased c (h.ended hroot n c hc)) fun m c _ hc => h.ended hroot m c hc
  known s hs := by
    rw [Board.change_length]
    exact hknown s hs
  unseen m hm := by
    rw [Board.change_length] at hm
    exact h.unseen m hm
  tended := by
    refine d.board.forall_change (fun c hc => hn c hc (h.tended n c hc)) fun m c hm hc => ?_
    have hasks : (fun state => (m, state) ∈ stops) = fun state => (m, state) ∈ d.stops :=
      funext fun state => propext (hothers m (Ne.symm hm) state)
    rw [hasks]
    exact h.tended m c hc

/-- A stop that goes on is still minded, or is over. -/
theorem Custody.poll (h : d.Custody began) {before after : List (Nat × Stopping)} {state : Stopping}
    (hstops : d.stops = before ++ (n, state) :: after) :
    Custody ⟨(d.board.pollStop n d.board.settings.grace state).2,
      before ++ (n, (d.board.pollStop n d.board.settings.grace state).1) :: after⟩ began := by
  obtain ⟨b, stops⟩ := d
  dsimp only at hstops ⊢
  subst hstops
  have hmem : (n, state) ∈ before ++ (n, state) :: after := by simp
  refine h.change (fun c => c.poll_key _ _ _) (fun c => c.poll_cancelled _ _ _)
    (fun c => c.poll_released _ _ _) (forall_poll (P := (· < b.cards.length)) h.known _) ?_ ?_
  · intro m hm s
    simp [hm]
  · intro c hc htended
    rw [Board.pollStop_eq hc]
    -- Of the stops that ask for this controller, one has gone on and the others have not.
    have hpoll : Tended b.now b.settings.grace
        (fun s => (n, s) ∈ before ++ (n, (c.poll b.now b.settings.grace state).1) :: after)
        (c.poll b.now b.settings.grace state).2
        ((stamp (began n) c.awaited b.now).or (some b.now)) :=
      htended.poll hmem (by simp) (fun s hs hne => mem_poll hs hne) fun s hs => mem_poll_or hs
    rw [stamp_or] at hpoll
    rw [c.poll_awaited _ _ (htended.asked _ hmem).symm]
    exact hpoll

/-- What leaves the controllers as they are, and loses no stop. -/
theorem Custody.keep (h : d.Custody began) {b : Board} {stops : List (Nat × Stopping)}
    (horderly : b.bare.Orderly) (hsettings : b.settings = d.board.settings)
    (hnow : b.now = d.board.now) (hcards : b.cards = d.board.cards)
    (hroot : b.phase.isClosed = false → b.cancelled = false)
    (hended : b.cancelled = true → d.board.Released)
    (hkeep : ∀ s ∈ d.stops, s.2.isOver = false → s ∈ stops)
    (hnew : ∀ s ∈ stops, s ∈ d.stops ∨ s.2 = .unborn ∧ s.1 < d.board.cards.length) :
    Custody ⟨b, stops⟩ began where
  orderly := horderly
  root := hroot
  ended hcancelled := by
    rw [Board.Released, hcards]
    exact hended hcancelled
  known s hs := by
    rw [hcards]
    exact (hnew s hs).elim (h.known s) And.right
  unseen n hn := h.unseen n (hcards ▸ hn)
  tended n c hc := by
    dsimp only
    rw [hsettings, hnow]
    exact (h.tended n c (hcards ▸ hc)).arrange (fun state hs hs' => hkeep _ hs hs')
      fun state hs => (hnew _ hs).imp_right And.left

/-- A clean-up unregisters a controller only when the stop is over. -/
theorem Custody.unregister (h : d.Custody began) {outcome : StopOutcome}
    (hover : (n, .over outcome) ∈ d.stops) : Custody ⟨d.board.unregister n, d.stops⟩ began := by
  have hlt := h.known _ hover
  have hc : d.board.cards[n]? = some d.board.cards[n] := List.getElem?_eq_getElem hlt
  have htended := h.tended n _ hc
  have hhalted : d.board.bare.Halted n :=
    ⟨_, hc, htended.called ((htended.asked _ hover).resolve_left nofun)⟩
  have horderly := (Board.Act.unregister n hhalted).orderly h.orderly
  unfold Board.unregister at horderly ⊢
  have hbare : d.board.bare.cards[n]? = some d.board.cards[n] := hc
  rw [hbare] at horderly
  rw [hc]
  exact h.keep horderly rfl rfl rfl h.root h.ended (fun s hs _ => hs) fun s hs => .inl hs

/-- Once nothing is left to wait for, every stop is complete. -/
theorem Custody.drained (h : d.Custody began) (hdrained : d.board.isDrained = true)
    (hlisted : ∀ s ∈ d.stops, s.2.isOver = false → ∃ t ∈ d.board.tasks, s.1 ∈ t.controllers) :
    d.board.Released := by
  intro n c hc
  -- A stop that is not complete would be of a registered controller, or one that a task deals with.
  by_contra hsupervised
  rw [Bool.not_eq_false] at hsupervised
  obtain ⟨hunregistered, htasks⟩ := Board.free_of_drained hdrained hc hsupervised
  have hdealt {state : Stopping} (hs : (n, state) ∈ d.stops) (hover : state.isOver = false) : False := by
    obtain ⟨t, ht, hn⟩ := hlisted _ hs hover
    exact htasks t ht hn
  rcases (h.tended n c hc).minded hsupervised with hworks | ⟨-, hunborn⟩ | ⟨deadline, hwaits⟩
  · have hfind := h.orderly.held n c hc hworks
    exact hunregistered (List.mem_map_of_mem (KeyMap.mem_of_find? _ _ hfind))
  · exact hdealt hunborn rfl
  · exact hdealt hwaits rfl

/-- A shutdown cancels everything only once no stop is incomplete. -/
theorem Custody.shut (h : d.Custody began) (hdrained : d.board.isDrained = true)
    (hlisted : ∀ s ∈ d.stops, s.2.isOver = false → ∃ t ∈ d.board.tasks, s.1 ∈ t.controllers) :
    Custody ⟨d.board.shut, d.stops⟩ began := by
  have hreleased := h.drained hdrained hlisted
  -- Whoever's stop is complete has been called, so there is nothing left to cancel.
  have hcards : d.board.shut.cards = d.board.cards := by
    refine cards_stop fun c hc => ?_
    obtain ⟨n, hn⟩ := List.mem_iff_getElem?.mp hc
    have htended := h.tended n c hn
    exact htended.called (htended.complete (hreleased n c hn)).1
  have hcancel : d.board.bare.Acts d.board.shut.bare :=
    .tail (.single .cancel) (.advance .stopped d.board.phase.rank_le_stopped)
  exact h.keep (hcancel.orderly h.orderly) rfl rfl hcards nofun (fun _ => hreleased)
    (fun s hs _ => hs) fun s hs => .inl hs

/-- Whatever happens to the stops, each one is minded. -/
theorem Move.custody (hmove : d.Move d') (h : d.Custody began) : d'.Custody began := by
  cases hmove with
  | poll before after n state hstops => exact h.poll hstops
  | unregister n outcome hover => exact h.unregister hover
  | finish n hcancelled =>
    exact h.change (fun _ => rfl) (fun _ hc => hc) (fun _ hc => hc) h.known (fun _ _ _ => Iff.rfl)
      fun c hc htended => htended.finish
  | arrange tasks stops hkeep hnew =>
    exact h.keep h.orderly rfl rfl rfl h.root h.ended hkeep
      fun s hs => (hnew s hs).imp_right fun hs' => ⟨hs'.1, snapshot_lt h.orderly.linked hs'.2⟩
  | close =>
    exact h.keep ⟨h.orderly.linked, h.orderly.held, h.orderly.proper⟩ rfl rfl rfl nofun h.ended
      (fun s hs _ => hs) fun s hs => .inl hs
  | shut hdrained hlisted => exact h.shut hdrained hlisted

theorem Moves.custody (hmoves : d.Moves d') (h : d.Custody began) : d'.Custody began := by
  induction hmoves with
  | refl => exact h
  | tail _ hmove ih => exact hmove.custody ih

theorem Custody.look (h : d.Custody began) : d.Custody (d.look Card.awaited began) := by
  refine ⟨h.orderly, h.root, h.ended, h.known, fun n hn => look_none hn _ (h.unseen n hn),
    fun n c hc => ?_⟩
  rw [look_eq hc, stamp_stamp]
  exact h.tended n c hc

/-- Time goes by, whatever is due. -/
theorem Custody.elapse {returned : Nat → Option Nat} (h : d.Custody began)
    (hseen : d.Seen returned began) {moment : Nat} (hlater : d.board.now ≤ moment) :
    Custody ⟨{ d.board with now := moment }, d.stops⟩ began := by
  refine ⟨⟨h.orderly.linked, h.orderly.held, h.orderly.proper⟩, h.root, h.ended, h.known, h.unseen,
    fun n c hc => ?_⟩
  have hstamp := stamp_eq (hseen n c hc).2
  have htended := h.tended n c hc
  rw [hstamp] at htended ⊢
  exact htended.elapse hlater

end Docket

namespace Board

open Docket

variable {b : Board} {began : Nat → Option Nat} {i n : Nat} {t t' : Task}

/-! ## Tasks -/

theorem stops_setTask {b' : Board} (ht : b.tasks[i]? = some t) (htasks : b'.tasks = b.tasks)
    (hstopping : t'.stopping = t.stopping) : (b'.setTask i t').stops = b.stops := by
  obtain ⟨before, after, hstops, hset⟩ := stops_split ht
  rw [hset b' t' htasks, hstops, hstopping]

/-- A task goes on without its stops. -/
theorem custody_setTask (h : b.docket.Custody began) (ht : b.tasks[i]? = some t)
    (hstopping : t'.stopping = t.stopping) : (b.setTask i t').docket.Custody began := by
  have hmove : b.docket.Move ⟨b.setTask i t', b.stops⟩ :=
    setTask_move b.docket i t' (fun s hs _ => hs) fun s hs => hs
  rw [docket, stops_setTask ht rfl hstopping]
  exact hmove.custody h

theorem custody_spawn (h : b.docket.Custody began) (hstopping : t.stopping = []) :
    (b.spawn t).docket.Custody began := by
  have hstops : (b.spawn t).stops = b.stops := by simp [stops, spawn, hstopping]
  have hmove : b.docket.Move ⟨b.spawn t, b.stops⟩ :=
    .arrange _ _ (fun s hs _ => hs) fun s hs => .inl hs
  rw [docket, hstops]
  exact hmove.custody h

/-- The loop of a controller goes on; when it returns, its stop has no more to wait for. -/
theorem custody_afterLoop {first : Bool} {state state' : Loop} (h : b.docket.Custody began)
    (ht : b.tasks[i]? = some (.loop n first state)) :
    ((b.afterLoop n first state').setTask i (.loop n first state')).docket.Custody began := by
  refine custody_setTask (t := .loop n first state) ?_ ?_ rfl
  · unfold afterLoop
    split_ifs
    · exact h.change (fun _ => rfl) (fun _ hc => hc) (fun _ hc => hc) h.known (fun _ _ _ => Iff.rfl)
        fun c hc htended => htended.finish
    · exact h
  · rw [afterLoop_tasks]
    exact ht

/-! ## Changes -/

/-- To accept a cluster leaves no stop unattended. -/
theorem custody_add (h : b.docket.Custody began) (horderly : b.Orderly) (c : Cluster) :
    (b.add c).docket.Custody began := by
  have horderly' := ((Act.accept c).orderly horderly).bare
  unfold add at horderly' ⊢
  split_ifs at horderly' ⊢ with hrefused
  · exact h
  · rw [Bool.not_eq_true, Bool.or_eq_false_iff] at hrefused
    have hroot : b.cancelled = false := h.root hrefused.1
    have hstops (registry : Registry) (cards : List Card) : ({ b with
        registry := registry, cards := cards,
        tasks := b.tasks ++ [.loop b.cards.length true .unborn] } : Board).stops = b.stops := by
      simp [stops, Task.stopping]
    rw [docket, hstops]
    refine ⟨horderly', fun _ => hroot, fun hcancelled => ?_, fun s hs => ?_, fun n hn => ?_,
      fun n card hcard => ?_⟩
    · exact absurd hcancelled (ne_true_of_eq_false hroot)
    · rw [List.length_append]
      exact Nat.lt_add_right _ (h.known s hs)
    · rw [List.length_append] at hn
      exact h.unseen n (Nat.le_of_add_right_le hn)
    · rcases getElem?_concat hcard with hold | ⟨rfl, rfl⟩
      · exact h.tended n card hold
      · -- Nobody asks for the new controller yet.
        have hnone : stamp (began b.cards.length) false b.now = none := by
          rw [h.unseen b.cards.length (Nat.le_refl _)]
          rfl
        rw [hroot, show (Card.ofCluster c false).awaited = false from rfl, hnone]
        exact .accepted _ _ (fun state hs => absurd (h.known _ hs) (Nat.lt_irrefl _)) c

theorem custody_delete (h : b.docket.Custody began) (c : Cluster) :
    (b.delete c).docket.Custody began := by
  unfold delete
  cases hfind : b.registry.find? c.key with
  | none => exact h
  | some n =>
    -- The clean-up asks for the controller before the controller is called.
    have harrange := cleanUp_move (List.mem_map_of_mem (KeyMap.mem_of_find? _ _ hfind))
    have hasked := harrange.custody h
    dsimp only
    rw [docket, cleanUp_stops]
    exact hasked.change (fun _ => rfl) (fun _ _ => rfl) (fun _ hc => hc) hasked.known
      (fun _ _ _ => Iff.rfl) fun card hc htended => htended.stop (by simp)

theorem custody_handle (h : b.docket.Custody began) (horderly : b.Orderly) (change : Watch.Change) :
    (b.handle change).docket.Custody began := by
  unfold handle
  split_ifs
  · exact h
  · cases change with
    | added c => exact custody_add h horderly c
    | updated old c =>
      unfold update
      dsimp only
      split
      · exact custody_add h horderly c
      · rename_i n hactive
        exact h.change (fun _ => rfl) (fun _ hc => hc) (fun _ hc => hc) h.known (fun _ _ _ => Iff.rfl)
          fun card hc htended => htended.respec c.spec
    | deleted c => exact custody_delete h c

/-- A shutdown goes on, in whichever task it is. -/
theorem custody_pollClosing {state : Closing} (h : b.docket.Custody began)
    (ht : b.tasks[i]? = some t) (hold : t.stopping = state.stopping)
    (hnew : t'.stopping = (b.pollClosing state).1.stopping) :
    ((b.pollClosing state).2.setTask i t').docket.Custody began :=
  (pollClosing_moves ht hold hnew).custody h

end Board

namespace Fleet

variable {f : Fleet} {began : Nat → Option Nat} {i : Nat} {mailbox : Mailbox}

theorem custody_handleAll (h : f.board.docket.Custody began) (horderly : f.board.Orderly)
    (changes : List Watch.Change) : (f.handleAll changes).board.docket.Custody began := by
  induction changes generalizing f with
  | nil => exact h
  | cons change rest ih =>
    have hhandle := Board.custody_handle h horderly change
    have horderly' := (Board.handle_acts horderly.linked change).orderly horderly
    rw [← handle_board] at hhandle horderly'
    exact ih hhandle horderly'

theorem custody_received {state : Dispatching} (h : f.board.docket.Custody began)
    (horderly : f.board.Orderly) (ht : f.tasks[i]? = some (.dispatch mailbox state))
    (hstopping : (Task.dispatch mailbox state).stopping = []) :
    (f.received i mailbox).board.docket.Custody began := by
  have hhandled := custody_handleAll h horderly mailbox.waiting
  have ht' := (f.handleAll_joined mailbox.waiting).getElem? ht
  have hreceived := received_cases f i mailbox
  generalize (f.received i mailbox).board = b at hreceived ⊢
  cases hreceived with
  | cancelled hroot => exact Board.custody_setTask h ht hstopping.symm
  | waits hroot hopen => exact Board.custody_setTask hhandled ht' hstopping.symm
  | ends hroot hclosed hends =>
    generalize (f.handleAll mailbox.waiting).board = b' at hhandled ht' hends
    have hpolled : ((b'.pollClosing .unborn).2.setTask i (.dispatch { mailbox with waiting := [] }
        ((b'.pollClosing .unborn).1.dispatching (b'.pollClosing .unborn).2.now))).docket.Custody
          began := Board.custody_pollClosing hhandled ht' hstopping (Closing.dispatching_stopping _ _ _)
    rw [hends] at hpolled
    exact hpolled

theorem custody_begun (h : f.board.docket.Custody began) : f.begun.board.docket.Custody began := by
  rw [begun_board]
  split_ifs with hphase
  · have hopen : f.board.docket.board.phase.isClosed = false := congrArg FleetPhase.isClosed hphase
    have hroot : f.cancelled = false := h.root hopen
    exact h.keep ⟨h.orderly.linked, h.orderly.held, h.orderly.proper⟩ rfl rfl rfl (fun _ => hroot)
      h.ended (fun s hs _ => hs) fun s hs => .inl hs
  · exact h

/-- One task goes on, whichever it is. -/
theorem custody_step (h : f.board.docket.Custody began) (horderly : f.board.Orderly) (i : Nat) :
    (f.step i).board.docket.Custody began := by
  cases ht : f.tasks[i]? with
  | none =>
    rw [step_none ht]
    exact h
  | some t =>
    have hproper := horderly.proper t (List.mem_of_getElem? ht)
    cases t with
    | loop n first state =>
      rcases step_loop_cases ht with hboard | ⟨state', hboard⟩
      · rw [hboard]
        exact h
      · rw [hboard]
        exact Board.custody_afterLoop h ht
    | cleanUp n state =>
      rw [step_cleanUp_board ht]
      exact (Board.pollCleanUp_moves ht).custody h
    | shutdown state =>
      rw [step_shutdown_board ht]
      exact Board.custody_pollClosing h ht rfl rfl
    | dispatch mailbox state =>
      cases state with
      | unborn =>
        have ht' : f.begun.tasks[i]? = some (.dispatch mailbox .unborn) := by rw [begun_tasks, ht]
        rw [step_begins ht]
        exact custody_received (custody_begun h) (begun_orderly horderly) ht' rfl
      | receiving =>
        rw [step_receives ht]
        exact custody_received h horderly ht rfl
      | closing state =>
        rw [step_closing_board ht]
        exact Board.custody_pollClosing h ht rfl (Closing.dispatching_stopping _ _ _)
      | finished moment =>
        rw [step_returned ht]
        exact h
    | _ => exact hproper.elim

end Fleet
end NatsFleet
