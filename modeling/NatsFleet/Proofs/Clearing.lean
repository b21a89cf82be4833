import NatsFleet.Proofs.Entries
import NatsFleet.Proofs.Returning

/-!
How the entry of a deleted cluster leaves the registry: the clean-up after its controller takes it out, once
it has waited for the loop of the controller, or has found that somebody else waits for it.
-/
namespace NatsFleet
namespace Chronicle

variable {h h' : Chronicle} {k : ClusterKey} {n i : Nat} {timely : Bool}

/-- The loop of a controller has returned, or the grace period has gone by since somebody began to wait
for it. -/
def HasStopped (h : Chronicle) (n : Nat) : Prop :=
  (∃ c, h.fleet.controller? n = some c ∧ c.done = true) ∨
    ∃ x, h.began n = some x ∧ x + h.fleet.settings.grace ≤ h.fleet.now

inductive Deletes (k : ClusterKey) (h : Chronicle) : Chronicle → Prop
  | handle (c : Cluster) (hkey : c.key = k) (hopen : h.fleet.phase.isClosed = false) :
      Deletes k h (h.next (h.fleet.handle (.deleted c)))
  | receive {i : Nat} {mailbox : Mailbox} {state : Dispatching} {before after : List Watch.Change}
      {c : Cluster} (ht : h.fleet.tasks[i]? = some (.dispatch mailbox state))
      (hstate : state = .unborn ∨ state = .receiving) (hroot : h.fleet.cancelled = false)
      (hopen : h.fleet.phase.isClosed = false) (hkey : c.key = k)
      (hwaiting : mailbox.waiting = before ++ .deleted c :: after)
      (hafter : ∀ change ∈ after, ¬ change.Declares k) : Deletes k h (h.next (h.fleet.step i))

/-- What can happen while no cluster of a key is declared. In time, time goes by only while no task can go
on, and at most until the next moment that a task waits for. -/
inductive Undeclared (timely : Bool) (k : ClusterKey) (h : Chronicle) : Chronicle → Prop
  | progress (i : Nat) (hsilent : ∀ t, h.fleet.tasks[i]? = some t → ¬ t.Declares k) :
      Undeclared timely k h (h.next (h.fleet.step i))
  | handle (change : Watch.Change) (hsilent : ¬ change.Declares k) :
      Undeclared timely k h (h.next (h.fleet.handle change))
  | run (mailbox : Mailbox) :
      Undeclared timely k h (h.next (h.fleet.spawn (.dispatch mailbox .unborn)))
  | send (i : Nat) (change : Watch.Change) :
      Undeclared timely k h (h.next (h.fleet.send i change).2)
  | close (i : Nat) : Undeclared timely k h (h.next (h.fleet.closeMailbox i))
  | shutdown : Undeclared timely k h (h.next (h.fleet.spawn (.shutdown .unborn)))
  | elapse (moment : Nat) (hlater : h.fleet.now ≤ moment) (hdue : timely = true →
      h.fleet.readyTasks = [] ∧ ∀ due, h.fleet.nextDue? = some due → moment ≤ due) :
      Undeclared timely k h (h.next { h.fleet with now := moment })
  | outside (platforms : List (String × Platform)) :
      Undeclared timely k h (h.next { h.fleet with platforms := platforms })

theorem Undeclared.goes (hmove : h.Undeclared timely k h') : h.Goes false h' := by
  cases hmove with
  | progress i => exact .progress i
  | handle change => exact .prompt (.handle change)
  | run mailbox => exact .prompt (.run mailbox)
  | send i change => exact .prompt (.send i change)
  | close i => exact .prompt (.close i)
  | shutdown => exact .prompt .shutdown
  | elapse moment hlater => exact .prompt (.elapse moment hlater)
  | outside platforms => exact .prompt (.outside platforms)

theorem Deletes.goes (hmove : h.Deletes k h') : h.Goes false h' := by
  cases hmove with
  | handle c => exact .prompt (.handle (.deleted c))
  | receive ht => exact .progress _

theorem send_registry (f : Fleet) (i : Nat) (change : Watch.Change) :
    (f.send i change).2.registry = f.registry := by
  rcases f.send_cases i change with hsame | ⟨mailbox, mailbox', state, -, -, hsent⟩
  · rw [hsame]
  · rw [hsent]

theorem closeMailbox_registry (f : Fleet) (i : Nat) : (f.closeMailbox i).registry = f.registry := by
  rcases f.closeMailbox_cases i with hsame | ⟨mailbox, state, -, hclosed⟩
  · rw [hsame]
  · rw [hclosed]

/-- A clean-up is under way for whatever is registered under the key of a cluster that has been deleted. -/
theorem Deletes.cleanUp (hmove : h.Deletes k h') (hfind : h'.fleet.registry.find? k = some n) :
    ∃ i, h.fleet.tasks.length ≤ i ∧ h'.fleet.tasks[i]? = some (.cleanUp n .unborn) := by
  cases hmove with
  | handle c hkey hopen =>
    subst hkey
    exact ⟨_, Nat.le_refl _, Fleet.handle_deleted hopen c hfind⟩
  | receive ht hstate hroot hopen hkey hwaiting hafter =>
    subst hkey
    have hlt := (List.getElem?_eq_some_iff.mp ht).1
    rcases hstate with rfl | rfl
    · have hstep := Fleet.step_begins ht
      rw [show (h.next (h.fleet.step _)).fleet = _ from hstep] at hfind ⊢
      have hbegun := h.fleet.begun_board
      have hopen' : h.fleet.begun.phase.isClosed = false := by
        rw [show h.fleet.begun.phase = _ from congrArg Board.phase hbegun]
        split_ifs
        · rfl
        · exact hopen
      have hroot' : h.fleet.begun.cancelled = false := by
        rw [show h.fleet.begun.cancelled = _ from congrArg Board.cancelled hbegun]
        split_ifs
        · exact hroot
        · exact hroot
      rw [← h.fleet.begun_tasks] at hlt ⊢
      exact Fleet.received_deleted hopen' hroot' hlt hwaiting hafter hfind
    · have hstep := Fleet.step_receives ht
      rw [show (h.next (h.fleet.step _)).fleet = _ from hstep] at hfind ⊢
      exact Fleet.received_deleted hopen hroot hlt hwaiting hafter hfind

/-! ## What happens to an entry -/

/-- An entry stays, or a controller accepted since takes its place, or it is taken out by the clean-up after
its controller, which ends. -/
theorem Goes.entry (hgoes : h.Goes false h') (horderly : h.fleet.board.Orderly)
    (hfind : h.fleet.registry.find? k = some n) : h'.fleet.registry.find? k = some n ∨
      (∃ m, h.fleet.controllers.length ≤ m ∧ h'.fleet.registry.find? k = some m) ∨
      h'.fleet.registry.find? k = none ∧ ∃ i state, h.fleet.tasks[i]? = some (.cleanUp n state) ∧
        h' = h.next (h.fleet.step i) ∧ (h.fleet.board.pollCleanUp n state).1.isOver = true := by
  cases hgoes with
  | progress i =>
    rcases Fleet.step_find? horderly i k with hsame | ⟨t, m, -, -, hm, hnew⟩ |
      ⟨m, state, hfind', hgone, ht, hends⟩
    · exact .inl (hsame.trans hfind)
    · exact .inr (.inl ⟨m, hm, hnew⟩)
    · obtain rfl := Option.some.inj (hfind.symm.trans hfind')
      exact .inr (.inr ⟨hgone, i, state, ht, rfl, hends⟩)
  | prompt hf =>
    cases hf with
    | handle change =>
      have hhandle := h.fleet.board.enters_handle change
      rw [← Fleet.handle_board] at hhandle
      rcases hhandle.find? k with hsame | ⟨-, m, hm, hnew⟩
      · exact .inl (hsame.trans hfind)
      · exact .inr (.inl ⟨m, h.fleet.board_length ▸ hm, hnew⟩)
    | send i change => exact .inl ((congrArg (·.find? k) (send_registry _ i change)).trans hfind)
    | close i => exact .inl ((congrArg (·.find? k) (closeMailbox_registry _ i)).trans hfind)
    | cancel hmeddled => cases hmeddled
    | _ => exact .inl hfind

/-- When a clean-up ends, the stop of its controller is complete, or another task waits for that. -/
theorem hasStopped_of_ends {state : Stopping} (hguarded : (h.next (h.fleet.step i)).Guarded false)
    (ht : h.fleet.tasks[i]? = some (.cleanUp n state))
    (hends : (h.fleet.board.pollCleanUp n state).1.isOver = true) :
    (h.next (h.fleet.step i)).HasStopped n ∨ ∃ (j : Nat) (t : Task) (deadline : Nat), j ≠ i ∧
      (h.fleet.step i).tasks[j]? = some t ∧ (n, .waiting deadline) ∈ t.stopping := by
  have hself := Fleet.step_cleanUp_self ht
  have hcustody := hguarded.custody rfl
  generalize (h.fleet.board.pollCleanUp n state).1 = state' at hself hends
  have hstop : (n, state') ∈ (h.fleet.step i).board.stops :=
    List.mem_flatMap.mpr ⟨_, List.mem_of_getElem? hself, List.mem_singleton.mpr rfl⟩
  have hlt := hcustody.known _ hstop
  have hc := List.getElem?_eq_getElem hlt
  have htended := hcustody.tended n _ hc
  have hunborn : state' ≠ .unborn := by
    rintro rfl
    cases hends
  have hawaited := (htended.asked _ hstop).resolve_left hunborn
  cases hsupervised : ((h.fleet.step i).board.cards[n]).supervised with
  | false =>
    obtain ⟨c, hc', hcard⟩ := Option.map_eq_some_iff.mp (((h.fleet.step i).board_cards n).symm.trans hc)
    have hstamp := stamp_eq (hguarded.seen n _ hc).2 (h.fleet.step i).now
    refine .inl ((htended.complete hsupervised).2.imp (fun hdone => ⟨c, hc', ?_⟩) ?_)
    · have hdone' : c.card.done = true := hcard ▸ hdone
      exact hdone'
    · rintro ⟨x, hx, hlate⟩
      exact ⟨x, hstamp ▸ hx, hlate⟩
  | true =>
    have hwaits := htended.minded hsupervised
    rcases hwaits with hworks | ⟨hfree, -⟩ | ⟨deadline, hd⟩
    · exact absurd (hworks.symm.trans (htended.called hawaited)) Bool.noConfusion
    · exact absurd (hfree.symm.trans hawaited) Bool.noConfusion
    · obtain ⟨t, hmem, hstopping⟩ := List.mem_flatMap.mp hd
      obtain ⟨j, hj⟩ := List.mem_iff_getElem?.mp hmem
      refine .inr ⟨j, t, deadline, ?_, hj, hstopping⟩
      rintro rfl
      -- This clean-up does not wait any more itself.
      obtain rfl := Option.some.inj (hj.symm.trans hself)
      obtain heq := List.mem_singleton.mp hstopping
      rw [Prod.mk.injEq] at heq
      rw [← heq.2] at hends
      cases hends

/-- As long as nothing is declared under a key its entry stays or goes. -/
theorem Undeclared.find? (hmove : h.Undeclared timely k h') (horderly : h.fleet.board.Orderly) :
    h'.fleet.registry.find? k = h.fleet.registry.find? k ∨ h'.fleet.registry.find? k = none := by
  cases hmove with
  | progress i hsilent =>
    rcases Fleet.step_find? horderly i k with hsame | ⟨t, m, ht, hdeclares, -⟩ | ⟨m, state, -, hgone, -⟩
    · exact .inl hsame
    · exact absurd hdeclares (hsilent t ht)
    · exact .inr hgone
  | handle change hsilent =>
    have hhandle := h.fleet.board.enters_handle change
    rw [← Fleet.handle_board] at hhandle
    exact .inl (hhandle.of_not hsilent)
  | send i change => exact .inl (congrArg (·.find? k) (send_registry _ i change))
  | close i => exact .inl (congrArg (·.find? k) (closeMailbox_registry _ i))
  | _ => exact .inl rfl

/-- A key that nothing is registered under stays so while no cluster of that key is declared. -/
theorem Guarded.stays_away (hguarded : h.Guarded false) (hnone : h.fleet.registry.find? k = none)
    (hruns : Relation.ReflTransGen (Undeclared timely k) h h') :
    h'.Guarded false ∧ h'.fleet.registry.find? k = none := by
  induction hruns with
  | refl => exact ⟨hguarded, hnone⟩
  | tail _ hmove ih =>
    refine ⟨hmove.goes.guarded ih.1, ?_⟩
    rcases hmove.find? ih.1.orderly with hsame | hgone
    · exact hsame.trans ih.2
    · exact hgone

/-- A clean-up stands where it stood, unless it goes on itself. -/
theorem Undeclared.task {state : Stopping} (hmove : h.Undeclared timely k h')
    (horderly : h.fleet.board.Orderly) (ht : h.fleet.tasks[i]? = some (.cleanUp n state)) :
    h'.fleet.tasks[i]? = some (.cleanUp n state) ∨ h' = h.next (h.fleet.step i) := by
  have hset {j : Nat} {mailbox mailbox' : Mailbox} {state' : Dispatching}
      (hj : h.fleet.tasks[j]? = some (.dispatch mailbox state')) :
      (h.fleet.tasks.set j (.dispatch mailbox' state'))[i]? = some (.cleanUp n state) := by
    have hne : j ≠ i := by
      rintro rfl
      cases hj.symm.trans ht
    rw [List.getElem?_set_ne hne, ht]
  have happend {u : Task} : (h.fleet.tasks ++ [u])[i]? = some (.cleanUp n state) := by
    rw [List.getElem?_append_left (List.getElem?_eq_some_iff.mp ht).1, ht]
  cases hmove with
  | progress j =>
    by_cases hj : j = i
    · subst hj
      exact .inr rfl
    · exact .inl (Fleet.step_other horderly hj ht)
  | handle change =>
    have hjoined := h.fleet.board.handle_joined change
    rw [← Fleet.handle_board] at hjoined
    exact .inl (hjoined.getElem? ht)
  | send j change =>
    rcases h.fleet.send_cases j change with hsame | ⟨mailbox, mailbox', state', -, hj, hsent⟩
    · rw [hsame]
      exact .inl ht
    · rw [hsent]
      exact .inl (hset hj)
  | close j =>
    rcases h.fleet.closeMailbox_cases j with hsame | ⟨mailbox, state', hj, hclosed⟩
    · rw [hsame]
      exact .inl ht
    · rw [hclosed]
      exact .inl (hset hj)
  | run mailbox => exact .inl happend
  | shutdown => exact .inl happend
  | _ => exact .inl ht

/-- Whatever is registered under a key is the controller that a clean-up is after, and nothing is once the
clean-up is over. -/
structure Leaving (k : ClusterKey) (n i : Nat) (h : Chronicle) : Prop where
  guarded : h.Guarded false
  entry : ∀ m, h.fleet.registry.find? k = some m → m = n
  task : ∃ state, h.fleet.tasks[i]? = some (.cleanUp n state) ∧
    (state.isOver = true → h.fleet.registry.find? k = none)

/-- An entry that is on its way out stays so. -/
theorem Leaving.undeclared (hleaving : h.Leaving k n i) (hmove : h.Undeclared timely k h') :
    h'.Leaving k n i := by
  have horderly := hleaving.guarded.orderly
  have hfind := hmove.find? horderly
  obtain ⟨state, ht, hover⟩ := hleaving.task
  refine ⟨hmove.goes.guarded hleaving.guarded, fun m hm => ?_, ?_⟩
  · rcases hfind with hsame | hnone
    · exact hleaving.entry m (hsame.symm.trans hm)
    · cases hnone.symm.trans hm
  · rcases hmove.task horderly ht with hkept | rfl
    · refine ⟨state, hkept, fun hstate => ?_⟩
      rcases hfind with hsame | hnone
      · exact hsame.trans (hover hstate)
      · exact hnone
    · refine ⟨_, Fleet.step_cleanUp_self ht, fun hends => ?_⟩
      have hgone := Fleet.step_cleanUp_find? horderly ht k
      cases hstate : state.isOver with
      | true =>
        rw [hover hstate, if_neg (fun hheld => by cases hheld.2.2)] at hgone
        exact hgone
      | false =>
        cases hheld : h.fleet.registry.find? k with
        | none =>
          rw [hheld, if_neg (fun hheld' => by cases hheld'.2.2)] at hgone
          exact hgone
        | some m =>
          obtain rfl := hleaving.entry m hheld
          rw [if_pos ⟨hends, hstate, hheld⟩] at hgone
          exact hgone

/-- It stays so through any run in which its key is not declared. -/
theorem Leaving.runs (hleaving : h.Leaving k n i)
    (hruns : Relation.ReflTransGen (Undeclared timely k) h h') : h'.Leaving k n i := by
  induction hruns with
  | refl => exact hleaving
  | tail _ hmove ih => exact ih.undeclared hmove

/-- A clean-up is over, or it waits until a moment that has not gone by. -/
def Waits (n i last : Nat) (h : Chronicle) : Prop :=
  ∃ state, h.fleet.tasks[i]? = some (.cleanUp n state) ∧
    (state.isOver = true ∨ state = .waiting last ∧ h.fleet.now ≤ last)

theorem Undeclared.now (hmove : h.Undeclared timely k h') (horderly : h.fleet.board.Orderly) :
    h'.fleet.now = h.fleet.now ∨
      ∃ moment, h' = h.next { h.fleet with now := moment } ∧ (timely = true →
        h.fleet.readyTasks = [] ∧ ∀ due, h.fleet.nextDue? = some due → moment ≤ due) := by
  cases hmove with
  | progress i =>
    cases ht : h.fleet.tasks[i]? with
    | none =>
      rw [Fleet.step_none ht]
      exact .inl rfl
    | some t =>
      by_cases hcleanUp : ∃ n state, t = .cleanUp n state
      · obtain ⟨n, state, rfl⟩ := hcleanUp
        exact .inl (Fleet.step_cleanUp_now ht)
      · exact .inl (Fleet.enters_step horderly ht fun n state heq => hcleanUp ⟨n, state, heq⟩).now
  | handle change =>
    have hhandle := h.fleet.board.enters_handle change
    rw [← Fleet.handle_board] at hhandle
    exact .inl hhandle.now
  | send i change =>
    rcases h.fleet.send_cases i change with hsame | ⟨mailbox, mailbox', state, -, -, hsent⟩
    · rw [hsame]
      exact .inl rfl
    · rw [hsent]
      exact .inl rfl
  | close i =>
    rcases h.fleet.closeMailbox_cases i with hsame | ⟨mailbox, state, -, hclosed⟩
    · rw [hsame]
      exact .inl rfl
    · rw [hclosed]
      exact .inl rfl
  | elapse moment hlater hdue => exact .inr ⟨moment, rfl, hdue⟩
  | _ => exact .inl rfl

/-- A clean-up that waits is over when its time has come, however late tasks go on. -/
theorem Waits.undeclared {last : Nat} (hwaits : h.Waits n i last) (horderly : h.fleet.board.Orderly)
    (hmove : h.Undeclared true k h') : h'.Waits n i last := by
  obtain ⟨state, ht, hstate⟩ := hwaits
  rcases hmove.task horderly ht with hkept | rfl
  · refine ⟨state, hkept, hstate.imp_right fun ⟨hlast, hnow⟩ => ⟨hlast, ?_⟩⟩
    subst hlast
    rcases hmove.now horderly with hsame | ⟨moment, rfl, hdue⟩
    · rw [hsame]
      exact hnow
    · -- Nothing can go on, so the clean-up is not due yet, and is waited for.
      obtain ⟨hidle, hnext⟩ := hdue rfl
      have hmem := List.mem_of_getElem? ht
      have hready : h.fleet.isStopReady n (.waiting last) = false := Fleet.not_ready hidle hmem
      exact Fleet.le_due hnext hmem rfl ((Fleet.stop_idle hready).2 last rfl).1
  · refine ⟨_, Fleet.step_cleanUp_self ht, ?_⟩
    have hnow : (h.next (h.fleet.step i)).fleet.now = h.fleet.now := Fleet.step_cleanUp_now ht
    rw [hnow]
    rcases hstate with hover | ⟨rfl, hlate⟩
    · exact .inl (Board.pollCleanUp_over _ _ hover)
    · exact (Board.pollCleanUp_waiting _ _ _).imp_right fun hwaits => ⟨hwaits, hlate⟩

theorem Waits.runs {last : Nat} (hwaits : h.Waits n i last) (hleaving : h.Leaving k n i)
    (hruns : Relation.ReflTransGen (Undeclared true k) h h') : h'.Waits n i last := by
  induction hruns with
  | refl => exact hwaits
  | tail hruns hmove ih => exact ih.undeclared (hleaving.runs hruns).guarded.orderly hmove

/-- A clean-up that is after the controller registered under a key has taken it out by the end of the grace
period, if the tasks go on in time. -/
theorem Leaving.in_time (hleaving : h.Leaving k n i)
    (hunborn : h.fleet.tasks[i]? = some (.cleanUp n .unborn))
    (hafter : Relation.ReflTransGen (Undeclared true k) (h.next (h.fleet.step i)) h')
    (hlate : h.fleet.now + h.fleet.settings.grace < h'.fleet.now ∨
      h.fleet.now + h.fleet.settings.grace = h'.fleet.now ∧ i ∉ h'.fleet.readyTasks) :
    h'.fleet.registry.find? k = none := by
  have hsilent : ∀ t, h.fleet.tasks[i]? = some t → ¬ t.Declares k := by
    intro t ht
    rw [Option.some.inj (ht.symm.trans hunborn)]
    exact id
  have hfirst : h.Undeclared true k (h.next (h.fleet.step i)) := .progress i hsilent
  have hnow : (h.next (h.fleet.step i)).fleet.now = h.fleet.now := Fleet.step_cleanUp_now hunborn
  have hwaits : (h.next (h.fleet.step i)).Waits n i (h.fleet.now + h.fleet.settings.grace) := by
    refine ⟨_, Fleet.step_cleanUp_self hunborn, (h.fleet.board.pollCleanUp_unborn n).imp_right ?_⟩
    intro hwaiting
    exact ⟨hwaiting, hnow ▸ Nat.le_add_right _ _⟩
  have hleaving' := (hleaving.undeclared hfirst).runs hafter
  obtain ⟨state, ht, hstate⟩ := hwaits.runs (hleaving.undeclared hfirst) hafter
  obtain ⟨state', ht', hover⟩ := hleaving'.task
  obtain rfl : state' = state := by
    have heq := Option.some.inj (ht'.symm.trans ht)
    cases heq
    rfl
  rcases hstate with hover' | ⟨rfl, hnot⟩
  · exact hover hover'
  · -- It would be ready by now.
    rcases hlate with hlate | ⟨hend, hready⟩
    · exact absurd hnot (Nat.not_le_of_lt hlate)
    · refine absurd (Fleet.mem_readyTasks.mpr ⟨_, ht, ?_⟩) hready
      have hdue : decide (h.fleet.now + h.fleet.settings.grace ≤ h'.fleet.now) = true :=
        decide_eq_true (Nat.le_of_eq hend)
      show h'.fleet.isStopReady n (.waiting _) = true
      rw [Fleet.isStopReady, hdue]
      rfl

/-- Whatever happens to an operator, and however late its tasks go on, unless somebody cancels everything
from outside. An entry of the registry stays, or makes way for a controller accepted since, or is taken out by
the clean-up after its controller; and then the stop of the controller is complete, or another task is
waiting for that. Once a cluster has been deleted, and as long as it is not declared again, nothing enters
under its key, and what is registered there has gone when the grace period is over that begins as the
clean-up first goes on, provided that tasks go on in time from then. -/
theorem deleted_leaves {f : Fleet} (hfresh : f.Fresh)
    (hruns : Relation.ReflTransGen (Goes false) { fleet := f } h) (k : ClusterKey) :
    (∀ (h' : Chronicle) (n : Nat), h.Goes false h' → h.fleet.registry.find? k = some n →
      h'.fleet.registry.find? k = some n ∨
      (∃ m, h.fleet.controllers.length ≤ m ∧ h'.fleet.registry.find? k = some m) ∨
      h'.fleet.registry.find? k = none ∧ ∃ i state, h.fleet.tasks[i]? = some (.cleanUp n state) ∧
        h' = h.next (h.fleet.step i) ∧ (h'.HasStopped n ∨ ∃ (j : Nat) (t : Task) (deadline : Nat),
          j ≠ i ∧ h'.fleet.tasks[j]? = some t ∧ (n, .waiting deadline) ∈ t.stopping)) ∧
    ∀ h₁, h.Deletes k h₁ →
      (h₁.fleet.registry.find? k = none → ∀ h₂,
        Relation.ReflTransGen (Undeclared false k) h₁ h₂ → h₂.fleet.registry.find? k = none) ∧
      ∀ n, h₁.fleet.registry.find? k = some n → ∃ i, h.fleet.tasks.length ≤ i ∧
        h₁.fleet.tasks[i]? = some (.cleanUp n .unborn) ∧
        ∀ h₂ h₃, Relation.ReflTransGen (Undeclared false k) h₁ h₂ →
          h₂.fleet.tasks[i]? = some (.cleanUp n .unborn) →
          Relation.ReflTransGen (Undeclared true k) (h₂.next (h₂.fleet.step i)) h₃ →
          (h₂.fleet.now + h₂.fleet.settings.grace < h₃.fleet.now ∨
            h₂.fleet.now + h₂.fleet.settings.grace = h₃.fleet.now ∧ i ∉ h₃.fleet.readyTasks) →
          h₃.fleet.registry.find? k = none := by
  have hguarded := (guarded_of_fresh hfresh).runs hruns
  refine ⟨fun h' n hgoes hfind => ?_, fun h₁ hdeletes => ⟨fun hnone h₂ hmore => ?_, fun n hfind => ?_⟩⟩
  · rcases hgoes.entry hguarded.orderly hfind with hstays | hnew | ⟨hgone, i, state, ht, rfl, hends⟩
    · exact .inl hstays
    · exact .inr (.inl hnew)
    · exact .inr (.inr ⟨hgone, i, state, ht, rfl, hasStopped_of_ends (hgoes.guarded hguarded) ht hends⟩)
  · exact ((hdeletes.goes.guarded hguarded).stays_away hnone hmore).2
  · obtain ⟨i, hi, hunborn⟩ := hdeletes.cleanUp hfind
    refine ⟨i, hi, hunborn, fun h₂ h₃ hbefore hfirst hafter hlate => ?_⟩
    have hleaving : h₁.Leaving k n i := by
      refine ⟨hdeletes.goes.guarded hguarded, fun m hm => ?_, .unborn, hunborn, fun hover => ?_⟩
      · exact Option.some.inj (hm.symm.trans hfind)
      · cases hover
    exact (hleaving.runs hbefore).in_time hfirst hafter hlate

def engaged : Chronicle := (next { fleet := stuckFleet } declared).next stalledFleet

theorem engaged_runs : Relation.ReflTransGen (Goes false) { fleet := stuckFleet } engaged := by
  have hpass : Goes false (next { fleet := stuckFleet } declared)
      ((next { fleet := stuckFleet } declared).next stalledFleet) := declared_step ▸ .progress 0
  have hdeclared : Goes false { fleet := stuckFleet } (next { fleet := stuckFleet } declared) :=
    .prompt (.handle (.added (Tracking.sample 1)))
  exact (Relation.ReflTransGen.single hdeclared).tail hpass

def dismissed : Chronicle := engaged.next (engaged.fleet.handle (.deleted (Tracking.sample 1)))

def overdue : Chronicle :=
  let waiting := dismissed.next (dismissed.fleet.step 1)
  waiting.next { waiting.fleet with now := 10000 }

/-- A clean-up that has waited for the whole grace period takes the entry out. -/
theorem deleted_leaves_overdue : overdue.fleet.registry.find? ⟨"default", "demo"⟩ = some 0 ∧
    (overdue.next (overdue.fleet.step 1)).fleet.registry.find? ⟨"default", "demo"⟩ = none ∧
    (overdue.next (overdue.fleet.step 1)).HasStopped 0 := by
  have hfresh : Fleet.Fresh stuckFleet := ⟨rfl, rfl, rfl, rfl, rfl⟩
  have hdeletes : engaged.Deletes ⟨"default", "demo"⟩ dismissed := .handle _ rfl rfl
  have hwaits : (dismissed.next (dismissed.fleet.step 1)).Undeclared true ⟨"default", "demo"⟩ overdue := by
    refine .elapse 10000 (Nat.zero_le _) fun _ => ⟨by decide +kernel, fun due hdue => ?_⟩
    have hnext : (dismissed.next (dismissed.fleet.step 1)).fleet.nextDue? = some 10000 := by
      decide +kernel
    cases hnext.symm.trans hdue
    exact Nat.le_refl _
  have hends : overdue.Undeclared true ⟨"default", "demo"⟩ (overdue.next (overdue.fleet.step 1)) :=
    .progress 1 fun t ht => by
      cases ht
      exact id
  -- The clean-up is the second task.
  obtain ⟨-, hcleared⟩ := (deleted_leaves hfresh engaged_runs ⟨"default", "demo"⟩).2 _ hdeletes
  obtain ⟨i, hi, htask, hgone⟩ := hcleared 0 rfl
  obtain rfl : i = 1 := by
    have hlt := (List.getElem?_eq_some_iff.mp htask).1
    have hlength : engaged.fleet.tasks.length = 1 := rfl
    have hlength' : dismissed.fleet.tasks.length = 2 := rfl
    omega
  have hnone := hgone dismissed _ .refl rfl ((Relation.ReflTransGen.single hwaits).tail hends)
    (.inr ⟨rfl, by decide +kernel⟩)
  have hruns : Relation.ReflTransGen (Goes false) { fleet := stuckFleet } overdue :=
    ((engaged_runs.tail hdeletes.goes).tail (.progress 1)).tail hwaits.goes
  refine ⟨rfl, hnone, ?_⟩
  rcases (deleted_leaves hfresh hruns ⟨"default", "demo"⟩).1 _ 0 hends.goes rfl with
    hstays | ⟨m, -, hnew⟩ | ⟨-, i, state, ht, -, hcomplete | ⟨j, t, deadline, hj, ht', hwaiting⟩⟩
  · cases hstays.symm.trans hnone
  · cases hnew.symm.trans hnone
  · exact hcomplete
  · -- The only other task is the loop of the controller, which waits for no stop.
    have htasks : overdue.fleet.tasks.length = 2 := rfl
    have htasks' : (overdue.fleet.step 1).tasks.length = 2 := rfl
    have hi := (List.getElem?_eq_some_iff.mp ht).1
    have hi' : i ≠ 0 := by
      rintro rfl
      cases ht
    have hlt := (List.getElem?_eq_some_iff.mp ht').1
    obtain rfl : j = 0 := by
      rw [show (overdue.next (overdue.fleet.step 1)).fleet.tasks.length = 2 from htasks'] at hlt
      omega
    cases ht'
    cases hwaiting

def hurried : Chronicle :=
  let waiting := dismissed.next (dismissed.fleet.step 1)
  let again := waiting.next (waiting.fleet.handle (.deleted (Tracking.sample 1)))
  again.next (again.fleet.step 2)

/-- The second clean-up takes the entry out at once, while the loop of the controller is still stuck and the
grace period has hardly begun. -/
theorem hurried_unregisters : Relation.ReflTransGen (Goes false) { fleet := stuckFleet } hurried ∧
    dismissed.fleet.registry.find? ⟨"default", "demo"⟩ = some 0 ∧
    hurried.fleet.registry.find? ⟨"default", "demo"⟩ = none ∧
    hurried.fleet.tasks[1]? = some (.cleanUp 0 (.waiting 10000)) ∧ ¬ hurried.HasStopped 0 := by
  have hruns := ((engaged_runs.tail (.prompt (.handle (.deleted (Tracking.sample 1))))).tail
    (.progress 1)).tail (.prompt (.handle (.deleted (Tracking.sample 1))))
  refine ⟨hruns.tail (.progress 2), rfl, rfl, rfl, ?_⟩
  rintro (⟨c, hc, hdone⟩ | ⟨x, hx, hlate⟩)
  · cases hc
    cases hdone
  · cases hx
    exact absurd hlate (by decide +kernel)

end Chronicle
end NatsFleet
