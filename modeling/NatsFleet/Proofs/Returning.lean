import NatsFleet.Proofs.Custody
import NatsFleet.Proofs.Shutdown

/-!
When the dispatch loop of an operator returns: the scope of all controllers has been cancelled then, or
the changes came to an end while a shutdown that somebody else called was under way.
-/
namespace NatsFleet

def Task.Closes : Task → Prop
  | .shutdown state | .dispatch _ (.closing state) => state.Waits
  | _ => False

theorem Task.not_closes_of_isPlain {t : Task} (h : t.isPlain = true) : ¬ t.Closes := by
  cases t with
  | loop n first state => exact id
  | cleanUp n state => exact id
  | _ => cases h

namespace Board

variable {b b' : Board} {i : Nat} {t t' : Task} {state : Closing}

def Rules (b : Board) : Task → Prop
  | .shutdown state => state = .unborn ∨ state.Waits ∨ state.isFinished = true
  | .dispatch _ (.closing state) => state.Waits
  | .dispatch mailbox (.finished _) =>
    b.cancelled = true ∨ b.phase.isClosed = true ∧ mailbox.isOpen = false
  | _ => True

/-- While an operator shuts down a task sees to it, and in the end the scope of all controllers is
cancelled. -/
structure Ruled (b : Board) : Prop where
  rules : ∀ t ∈ b.tasks, b.Rules t
  closing : b.phase = .shuttingDown → ∃ t ∈ b.tasks, t.Closes
  stopped : b.phase = .stopped → b.cancelled = true

/-- Tasks that neither dispatch nor shut down follow the rules of every board. -/
theorem rules_of_isPlain (h : t.isPlain = true) : b.Rules t := by
  cases t with
  | loop n first state => trivial
  | cleanUp n state => trivial
  | _ => cases h

/-- A board that closes keeps its rules. -/
theorem Rules.mono (h : b.Rules t) (hcancelled : b.cancelled = true → b'.cancelled = true)
    (hclosed : b.phase.isClosed = true → b'.phase.isClosed = true) : b'.Rules t := by
  cases t with
  | dispatch mailbox state =>
    cases state with
    | finished moment => exact h.imp hcancelled (And.imp_left hclosed)
    | closing state => exact h
    | _ => trivial
  | shutdown state => exact h
  | _ => trivial

theorem mem_set_of_ne {α : Type} {l : List α} {a x y : α} (hx : l[i]? = some x) (ha : a ∈ l)
    (hne : a ≠ x) : a ∈ l.set i y := by
  obtain ⟨j, hj⟩ := List.mem_iff_getElem?.mp ha
  have hij : i ≠ j := by
    rintro rfl
    exact hne (Option.some.inj (hj.symm.trans hx))
  exact List.mem_iff_getElem?.mpr ⟨j, by rw [List.getElem?_set_ne hij, hj]⟩

/-- A task goes on, and a shutdown that was under way in it still is. -/
theorem Ruled.setTask (h : b.Ruled) (ht : b.tasks[i]? = some t) (hkeep : t.Closes → t'.Closes)
    (hrules : b.Rules t') : (b.setTask i t').Ruled := by
  have hlt := (List.getElem?_eq_some_iff.mp ht).1
  refine ⟨fun u hu => ?_, fun hphase => ?_, h.stopped⟩
  · rcases List.mem_or_eq_of_mem_set hu with hold | rfl
    · exact h.rules u hold
    · exact hrules
  · obtain ⟨u, hu, hcloses⟩ := h.closing hphase
    by_cases hne : u = t
    · subst hne
      exact ⟨t', List.mem_set hlt t', hkeep hcloses⟩
    · exact ⟨u, mem_set_of_ne ht hu hne, hcloses⟩

/-- Loops and clean-ups join the others. -/
theorem Ruled.join (h : b.Ruled) (hjoined : b.Joined b') (hphase : b'.phase = b.phase)
    (hcancelled : b'.cancelled = b.cancelled) : b'.Ruled := by
  refine ⟨fun t ht => ?_, fun hshuts => ?_, fun hstopped => ?_⟩
  · rcases hjoined.mem ht with hold | hplain
    · exact (h.rules t hold).mono (by rw [hcancelled]; exact id) (by rw [hphase]; exact id)
    · exact rules_of_isPlain hplain
  · obtain ⟨t, ht, hcloses⟩ := h.closing (hphase ▸ hshuts)
    obtain ⟨more, htasks, -⟩ := hjoined
    exact ⟨t, htasks ▸ List.mem_append_left _ ht, hcloses⟩
  · rw [hcancelled]
    exact h.stopped (hphase ▸ hstopped)

/-- A new task that follows the rules may join. -/
theorem Ruled.spawn (h : b.Ruled) (hrules : b.Rules t) : (b.spawn t).Ruled := by
  refine ⟨fun u hu => ?_, fun hphase => ?_, h.stopped⟩
  · rcases List.mem_append.mp hu with hold | hnew
    · exact h.rules u hold
    · exact List.mem_singleton.mp hnew ▸ hrules
  · obtain ⟨u, hu, hcloses⟩ := h.closing hphase
    exact ⟨u, List.mem_append_left _ hu, hcloses⟩

/-- Handling a change breaks no rule. -/
theorem Ruled.handle (h : b.Ruled) (change : Watch.Change) : (b.handle change).Ruled :=
  h.join (b.handle_joined change) (b.handle_frame change).phase (b.handle_cancelled change)

/-- A shutdown that is under way, or the first one that is called, goes on. -/
theorem Ruled.closes (h : b.Ruled) (ht : b.tasks[i]? = some t)
    (hstate : state.Waits ∨ state = .unborn ∧ b.phase.isClosed = false)
    (hwaits : (b.pollClosing state).1.Waits → t'.Closes)
    (hrules : (b.pollClosing state).1.Waits ∨ (b.pollClosing state).1.isFinished = true ∧
      (b.pollClosing state).2.cancelled = true → (b.pollClosing state).2.Rules t') :
    ((b.pollClosing state).2.setTask i t').Ruled := by
  have hlt := (List.getElem?_eq_some_iff.mp ht).1
  have htasks := b.pollClosing_tasks state
  have hresult := pollClosing_result hstate
  have hleads := b.pollClosing_leads state
  generalize b.pollClosing state = r at hwaits hrules htasks hresult hleads ⊢
  obtain ⟨state', b'⟩ := r
  dsimp only at hwaits hrules htasks hresult hleads ⊢
  have hstopped : b'.phase = .stopped → b'.cancelled = true := by
    intro hphase
    rcases hleads with ⟨hcancelled, -⟩ | ⟨hcancelled, hsame | hshuts⟩
    · exact hcancelled
    · exact hcancelled.trans (h.stopped (hsame.symm.trans hphase))
    · cases hshuts.symm.trans hphase
  have hmem : t' ∈ (b'.setTask i t').tasks := List.mem_set (htasks ▸ hlt) t'
  refine ⟨fun u hu => ?_, fun hphase => ?_, hstopped⟩
  · rcases List.mem_or_eq_of_mem_set hu with hold | rfl
    · have hold' : u ∈ b.tasks := htasks ▸ hold
      show b'.Rules u
      refine (h.rules u hold').mono (fun hcancelled => ?_) fun hclosed => ?_
      · rcases hleads with ⟨hends, -⟩ | ⟨hsame, -⟩
        · exact hends
        · exact hsame.trans hcancelled
      · rcases hleads with ⟨-, hphase⟩ | ⟨-, hphase | hphase⟩ <;> rw [hphase]
        · rfl
        · exact hclosed
        · rfl
    · rcases hresult with hw | ⟨hfinished, hphase⟩
      · exact hrules (.inl hw)
      · exact hrules (.inr ⟨by rw [hfinished]; rfl, hstopped hphase⟩)
  · -- Either it is under way itself, or everything has ended.
    rcases hresult with hw | ⟨-, hends⟩
    · exact ⟨t', hmem, hwaits hw⟩
    · cases hphase.symm.trans hends

theorem Ruled.shutdown (h : b.Ruled) (ht : b.tasks[i]? = some (.shutdown state)) :
    ((b.pollClosing state).2.setTask i (.shutdown (b.pollClosing state).1)).Ruled := by
  have hcloses (hstate : state.Waits ∨ state = .unborn ∧ b.phase.isClosed = false) :
      ((b.pollClosing state).2.setTask i (.shutdown (b.pollClosing state).1)).Ruled :=
    h.closes ht hstate id fun hresult => .inr (hresult.imp_right And.left)
  rcases h.rules _ (List.mem_of_getElem? ht) with rfl | hwaits | hfinished
  · by_cases hclosed : b.phase.isClosed = true
    · -- It is not the first one, and does nothing.
      have hpoll : b.pollClosing .unborn = (.finished b.now, b) := by
        rw [pollClosing, if_pos hclosed]
      rw [hpoll]
      exact h.setTask ht id (.inr (.inr rfl))
    · exact hcloses (.inr ⟨rfl, eq_false_of_ne_true hclosed⟩)
  · exact hcloses (.inl hwaits)
  · cases state with
    | finished moment => exact h.setTask ht id (.inr (.inr rfl))
    | _ => cases hfinished

/-- A dispatcher whose shutdown still waits sees to its end. -/
theorem dispatching_closes {mailbox : Mailbox} {now : Nat} (h : state.Waits) :
    (Task.dispatch mailbox (state.dispatching now)).Closes := by
  cases state with
  | finished moment => exact h.elim
  | _ => exact h

theorem dispatching_rules {mailbox : Mailbox} {now : Nat}
    (h : state.Waits ∨ state.isFinished = true ∧ b.cancelled = true) :
    b.Rules (.dispatch mailbox (state.dispatching now)) := by
  cases state with
  | finished moment => exact .inl (h.resolve_left id).2
  | _ => exact h.resolve_right fun hfinished => by cases hfinished.1

end Board

namespace Fleet

variable {f g : Fleet} {i : Nat} {mailbox : Mailbox}

theorem ruled_handleAll (h : f.board.Ruled) (changes : List Watch.Change) :
    (f.handleAll changes).board.Ruled := by
  induction changes generalizing f with
  | nil => exact h
  | cons change rest ih =>
    have hhandle := h.handle change
    rw [← handle_board] at hhandle
    exact ih hhandle

theorem ruled_received {state : Dispatching} (h : f.board.Ruled)
    (ht : f.tasks[i]? = some (.dispatch mailbox state))
    (hnew : ¬ (Task.dispatch mailbox state).Closes) : (f.received i mailbox).board.Ruled := by
  have hhandled := ruled_handleAll h mailbox.waiting
  have ht' := (f.handleAll_joined mailbox.waiting).getElem? ht
  have hreceived := received_cases f i mailbox
  generalize (f.received i mailbox).board = b at hreceived ⊢
  cases hreceived with
  | cancelled hroot => exact h.setTask ht (absurd · hnew) (.inl hroot)
  | waits hroot hopen => exact hhandled.setTask ht' (absurd · hnew) trivial
  | ends hroot hclosed hends =>
    generalize (f.handleAll mailbox.waiting).board = b' at hhandled ht' hends
    by_cases hshuts : b'.phase.isClosed = true
    · -- Another shutdown is under way, or over, and the loop does not wait for it.
      have hpoll : b'.pollClosing .unborn = (.finished b'.now, b') := by
        rw [Board.pollClosing, if_pos hshuts]
      rw [hpoll, Prod.mk.injEq] at hends
      obtain ⟨rfl, rfl⟩ := hends
      exact hhandled.setTask ht' (absurd · hnew) (.inr ⟨hshuts, hclosed⟩)
    · have hcloses : ((b'.pollClosing .unborn).2.setTask i (.dispatch { mailbox with waiting := [] }
          ((b'.pollClosing .unborn).1.dispatching (b'.pollClosing .unborn).2.now))).Ruled :=
        hhandled.closes ht' (.inr ⟨rfl, eq_false_of_ne_true hshuts⟩) Board.dispatching_closes
          Board.dispatching_rules
      rw [hends] at hcloses
      exact hcloses

theorem ruled_begun (h : f.board.Ruled) : f.begun.board.Ruled := by
  rw [begun_board]
  split_ifs with hphase
  · have hopen : f.board.phase.isClosed = false := congrArg FleetPhase.isClosed hphase
    refine ⟨fun t ht => (h.rules t ht).mono id fun hclosed => ?_, nofun, nofun⟩
    exact absurd (hopen.symm.trans hclosed) Bool.noConfusion
  · exact h

theorem ruled_plain (h : f.board.Ruled) {t : Task} (ht : f.tasks[i]? = some t)
    (hplain : t.isPlain = true) : (f.step i).board.Ruled := by
  obtain ⟨t', htasks, hplain'⟩ := step_tasks ht hplain
  have hset : (f.board.setTask i t').Ruled := h.setTask ht
    (fun hcloses => absurd hcloses (Task.not_closes_of_isPlain hplain)) (Board.rules_of_isPlain hplain')
  have htasks' : (f.step i).board.tasks = (f.board.setTask i t').tasks := htasks
  exact hset.join ⟨[], by rw [htasks', List.append_nil], fun _ hu => absurd hu List.not_mem_nil⟩
    (step_plain_phase ht hplain) (step_plain_cancelled ht hplain)

/-- One task goes on, whichever it is. -/
theorem ruled_step (h : f.board.Ruled) (horderly : f.board.Orderly) (i : Nat) :
    (f.step i).board.Ruled := by
  cases ht : f.tasks[i]? with
  | none =>
    rw [step_none ht]
    exact h
  | some t =>
    have hproper := horderly.proper t (List.mem_of_getElem? ht)
    cases t with
    | loop n first state => exact ruled_plain h ht rfl
    | cleanUp n state => exact ruled_plain h ht rfl
    | shutdown state =>
      rw [step_shutdown_board ht]
      exact h.shutdown ht
    | dispatch mailbox state =>
      cases state with
      | unborn =>
        have ht' : f.begun.tasks[i]? = some (.dispatch mailbox .unborn) := by rw [begun_tasks, ht]
        rw [step_begins ht]
        exact ruled_received (ruled_begun h) ht' id
      | receiving =>
        rw [step_receives ht]
        exact ruled_received h ht id
      | closing state =>
        have hwaits : state.Waits := h.rules _ (List.mem_of_getElem? ht)
        rw [step_closing_board ht]
        exact h.closes ht (.inl hwaits) Board.dispatching_closes Board.dispatching_rules
      | finished moment =>
        rw [step_returned ht]
        exact h
    | _ => exact hproper.elim

theorem ruled_setMailbox (h : f.board.Ruled) {state : Dispatching}
    (ht : f.tasks[i]? = some (.dispatch mailbox state)) {mailbox' : Mailbox}
    (hopen : mailbox.isOpen = false → mailbox'.isOpen = false) :
    Board.Ruled { f with tasks := f.tasks.set i (.dispatch mailbox' state) }.board := by
  have hrules := h.rules _ (List.mem_of_getElem? ht)
  refine h.setTask ht ?_ ?_
  · cases state with
    | closing state => exact id
    | _ => exact fun hcloses => hcloses.elim
  · cases state with
    | closing state => exact hrules
    | finished moment => exact hrules.imp_right (And.imp_right hopen)
    | _ => trivial

/-- Whatever happens at one moment, the rules stand. -/
theorem Prompt.ruled {meddled : Bool} (hprompt : f.Prompt meddled g) (h : f.board.Ruled) :
    g.board.Ruled := by
  cases hprompt with
  | handle change =>
    rw [handle_board]
    exact h.handle change
  | run mailbox => exact h.spawn trivial
  | send i change =>
    rcases f.send_cases i change with hsame | ⟨mailbox, mailbox', state, hopen, ht, hsent⟩
    · rw [hsame]
      exact h
    · rw [hsent]
      exact ruled_setMailbox h ht fun hclosed => hopen.trans hclosed
  | close i =>
    rcases f.closeMailbox_cases i with hsame | ⟨mailbox, state, ht, hclosed⟩
    · rw [hsame]
      exact h
    · rw [hclosed]
      exact ruled_setMailbox h ht fun _ => rfl
  | shutdown => exact h.spawn (.inl rfl)
  | cancel =>
    refine ⟨fun t ht => (h.rules t ht).mono (fun _ => rfl) id, h.closing, fun _ => rfl⟩
  | elapse moment => exact ⟨h.rules, h.closing, h.stopped⟩
  | outside platforms => exact h

theorem custody_setMailbox {began : Nat → Option Nat} (h : f.board.docket.Custody began)
    {state : Dispatching} (ht : f.tasks[i]? = some (.dispatch mailbox state)) (mailbox' : Mailbox) :
    Docket.Custody
      { f with tasks := f.tasks.set i (.dispatch mailbox' state) }.board.docket began := by
  refine Board.custody_setTask h ht ?_
  cases state <;> rfl

/-- Without meddling, the stops stay in custody too. -/
theorem Prompt.custody {returned began : Nat → Option Nat} (hprompt : f.Prompt false g)
    (h : f.board.docket.Custody began) (horderly : f.board.Orderly)
    (hseen : f.board.docket.Seen returned began) : g.board.docket.Custody began := by
  cases hprompt with
  | handle change =>
    rw [handle_board]
    exact Board.custody_handle h horderly change
  | run mailbox => exact Board.custody_spawn h rfl
  | send i change =>
    rcases f.send_cases i change with hsame | ⟨mailbox, mailbox', state, -, ht, hsent⟩
    · rw [hsame]
      exact h
    · rw [hsent]
      exact custody_setMailbox h ht mailbox'
  | close i =>
    rcases f.closeMailbox_cases i with hsame | ⟨mailbox, state, ht, hclosed⟩
    · rw [hsame]
      exact h
    · rw [hclosed]
      exact custody_setMailbox h ht _
  | shutdown => exact Board.custody_spawn h rfl
  | cancel hmeddled => cases hmeddled
  | elapse moment hlater => exact h.elapse hseen hlater
  | outside platforms => exact h

end Fleet

namespace Chronicle

variable {meddled : Bool} {h h' : Chronicle} {f : Fleet}

inductive Goes (meddled : Bool) (h : Chronicle) : Chronicle → Prop
  | progress (i : Nat) : Goes meddled h (h.next (h.fleet.step i))
  | prompt {f : Fleet} (hf : h.fleet.Prompt meddled f) : Goes meddled h (h.next f)

/-- Every stop is minded, unless somebody meddles, and every shutdown is seen to. -/
structure Guarded (meddled : Bool) (h : Chronicle) : Prop where
  orderly : h.fleet.board.Orderly
  ruled : h.fleet.board.Ruled
  seen : h.fleet.board.docket.Seen h.returned h.began
  custody : meddled = false → h.fleet.board.docket.Custody h.began

/-- One record more leaves all guarded. -/
theorem guarded_next (horderly : f.board.Orderly) (hruled : f.board.Ruled)
    (hcustody : meddled = false → f.board.docket.Custody h.began) : (h.next f).Guarded meddled := by
  refine ⟨horderly, hruled, ?_, fun hmeddled => ?_⟩
  · rw [next_returned, next_began]
    exact Docket.seen_look _ _ _
  · rw [next_began]
    exact (hcustody hmeddled).look

/-- Each step leaves all guarded. -/
theorem Goes.guarded (hgoes : h.Goes meddled h') (hguarded : h.Guarded meddled) :
    h'.Guarded meddled := by
  have horderly := hguarded.orderly
  cases hgoes with
  | progress i =>
    exact guarded_next ((Fleet.step_acts horderly i).orderly horderly)
      (Fleet.ruled_step hguarded.ruled horderly i)
      fun hmeddled => Fleet.custody_step (hguarded.custody hmeddled) horderly i
  | prompt hf =>
    refine guarded_next ((hf.occurs.acts horderly).orderly horderly) (hf.ruled hguarded.ruled)
      fun hmeddled => ?_
    subst hmeddled
    exact hf.custody (hguarded.custody rfl) horderly hguarded.seen

/-- At the start all is guarded. -/
theorem guarded_of_fresh (hfresh : f.Fresh) : Guarded meddled { fleet := f } := by
  have hcards : f.board.cards = [] := congrArg (List.map Controller.card) hfresh.controllers
  have htasks : f.board.tasks = [] := hfresh.tasks
  have hisOpen : f.board.phase.isClosed = false := hfresh.isOpen
  have hnone (n : Nat) (c : Card) (hc : f.board.cards[n]? = some c) : False := by
    rw [hcards] at hc
    cases hc
  have hstops : f.board.stops = [] := by rw [Board.stops, htasks]; rfl
  refine ⟨Fleet.orderly_of_fresh hfresh, ⟨fun t ht => ?_, fun hphase => ?_, fun hphase => ?_⟩,
    fun n c hc => (hnone n c hc).elim, fun _ => ⟨(Fleet.orderly_of_fresh hfresh).bare,
      fun _ => hfresh.root, fun _ n c hc => (hnone n c hc).elim, fun s hs => ?_, fun _ _ => rfl,
      fun n c hc => (hnone n c hc).elim⟩⟩
  · rw [htasks] at ht
    cases ht
  · rw [hphase] at hisOpen
    cases hisOpen
  · rw [hphase] at hisOpen
    cases hisOpen
  · have hs' : s ∈ f.board.stops := hs
    rw [hstops] at hs'
    cases hs'

/-- It stays so in every run. -/
theorem Guarded.runs (hguarded : h.Guarded meddled)
    (hruns : Relation.ReflTransGen (Goes meddled) h h') : h'.Guarded meddled := by
  induction hruns with
  | refl => exact hguarded
  | tail _ hgoes ih => exact hgoes.guarded ih

/-- Whatever happens to an operator from its start on, and however late its tasks go on: once its dispatch
loop has returned, the scope of all controllers has been cancelled, or the changes came to an end and a
shutdown that another task called is under way. And if nobody cancelled that scope from outside, it is
cancelled only when every controller ever accepted is cancelled and its stop is complete: its loop has
returned, or the grace period has gone by since somebody began to wait for it. -/
theorem run_returns {f : Fleet} (hfresh : f.Fresh)
    (hruns : Relation.ReflTransGen (Goes meddled) { fleet := f } h) {i moment : Nat} {mailbox : Mailbox}
    (hreturned : h.fleet.tasks[i]? = some (.dispatch mailbox (.finished moment))) :
    (h.fleet.cancelled = true ∨ h.fleet.phase = .shuttingDown ∧ mailbox.isOpen = false ∧
      ∃ (j : Nat) (t : Task), j ≠ i ∧ h.fleet.tasks[j]? = some t ∧ t.Closes) ∧
    (meddled = false → h.fleet.cancelled = true → ∀ (n : Nat) (c : Controller),
      h.fleet.controller? n = some c → c.cancelled = true ∧ (c.done = true ∨
        ∃ x, h.began n = some x ∧ x + h.fleet.settings.grace ≤ h.fleet.now)) := by
  have hguarded := (guarded_of_fresh hfresh).runs hruns
  refine ⟨?_, fun hmeddled hroot n c hc => ?_⟩
  · rcases hguarded.ruled.rules _ (List.mem_of_getElem? hreturned) with hroot | ⟨hclosed, hended⟩
    · exact .inl hroot
    · cases hphase : h.fleet.phase with
      | stopped => exact .inl (hguarded.ruled.stopped hphase)
      | shuttingDown =>
        obtain ⟨t, ht, hcloses⟩ := hguarded.ruled.closing hphase
        obtain ⟨j, hj⟩ := List.mem_iff_getElem?.mp ht
        refine .inr ⟨rfl, hended, j, t, ?_, hj, hcloses⟩
        rintro rfl
        rw [Option.some.inj (hj.symm.trans hreturned)] at hcloses
        exact hcloses
      | _ =>
        have hphase' : h.fleet.board.phase = h.fleet.phase := rfl
        rw [hphase', hphase] at hclosed
        cases hclosed
  · have hcustody := hguarded.custody hmeddled
    have hcard := Fleet.board_card hc
    have htended := hcustody.tended n c.card hcard
    obtain ⟨hawaited, hcomplete⟩ := htended.complete (hcustody.ended hroot n c.card hcard)
    have hstamp := stamp_eq (hguarded.seen n c.card hcard).2 h.fleet.board.docket.board.now
    rw [hstamp] at hcomplete
    exact ⟨htended.called hawaited, hcomplete⟩

def attended : Chronicle :=
  let running := (next { fleet := stuckFleet } declared).next stalledFleet
  let called := running.next (running.fleet.spawn (.dispatch {} .unborn))
  called.next (called.fleet.step 1)

theorem attended_runs (meddled : Bool) :
    Relation.ReflTransGen (Goes meddled) { fleet := stuckFleet } attended := by
  have hpass : Goes meddled (next { fleet := stuckFleet } declared)
      ((next { fleet := stuckFleet } declared).next stalledFleet) := declared_step ▸ .progress 0
  have hdeclared : Goes meddled { fleet := stuckFleet } (next { fleet := stuckFleet } declared) :=
    .prompt (.handle (.added (Tracking.sample 1)))
  exact (((Relation.ReflTransGen.single hdeclared).tail hpass).tail (.prompt (.run {}))).tail
    (.progress 1)

def ended : Chronicle :=
  let closed := attended.next (attended.fleet.closeMailbox 1)
  let waiting := closed.next (closed.fleet.step 1)
  let late := waiting.next { waiting.fleet with now := 10000 }
  late.next (late.fleet.step 1)

theorem ended_runs : Relation.ReflTransGen (Goes false) { fleet := stuckFleet } ended := by
  have hclosed := ((attended_runs false).tail (.prompt (.close 1))).tail (.progress 1)
  exact (hclosed.tail (.prompt (.elapse 10000 (by decide +kernel)))).tail (.progress 1)

theorem run_returns_ended : ended.fleet.cancelled = true ∧ ended.began 0 = some 0 ∧
    ∃ c, ended.fleet.controller? 0 = some c ∧ c.cancelled = true ∧ (c.done = true ∨
      ∃ x, ended.began 0 = some x ∧ x + ended.fleet.settings.grace ≤ ended.fleet.now) := by
  have hfresh : Fleet.Fresh stuckFleet := ⟨rfl, rfl, rfl, rfl, rfl⟩
  have hreturned : ended.fleet.tasks[1]? =
      some (.dispatch { isOpen := false } (.finished 10000)) := rfl
  exact ⟨rfl, rfl, _, rfl, (run_returns hfresh ended_runs hreturned).2 rfl rfl 0 _ rfl⟩

def deserted : Chronicle :=
  let called := attended.next (attended.fleet.spawn (.shutdown .unborn))
  let waiting := called.next (called.fleet.step 2)
  let closed := waiting.next (waiting.fleet.closeMailbox 1)
  closed.next (closed.fleet.step 1)

/-- The dispatch loop returns then while the scope of all controllers is not cancelled and the shutdown
waits still for a controller that works. -/
theorem deserted_returns : Relation.ReflTransGen (Goes false) { fleet := stuckFleet } deserted ∧
    deserted.fleet.tasks[1]? = some (.dispatch { isOpen := false } (.finished 0)) ∧
    deserted.fleet.tasks[2]? = some (.shutdown (.joining [(0, .waiting 10000)])) ∧
    deserted.fleet.cancelled = false ∧ deserted.fleet.phase = .shuttingDown ∧
    ∃ c, deserted.fleet.controller? 0 = some c ∧ c.done = false ∧ c.supervised = true :=
  ⟨(((attended_runs false).tail (.prompt .shutdown)).tail (.progress 2)).tail (.prompt (.close 1))
    |>.tail (.progress 1), rfl, rfl, rfl, rfl, _, rfl, rfl, rfl⟩

end Chronicle
end NatsFleet
