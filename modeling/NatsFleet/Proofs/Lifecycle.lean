import NatsFleet.Proofs.Classification
import NatsFleet.Proofs.Loops
import Mathlib.Logic.Relation

/-!
A controller that is not stopping is the one registered under its key, whatever an operator goes
through; and the operator's life only goes forward, up to a phase in which controllers are not accepted
and specs are not changed any more.
-/
namespace NatsFleet

def FleetPhase.rank : FleetPhase → Nat
  | .starting => 0
  | .running => 1
  | .shuttingDown => 2
  | .stopped => 3

theorem FleetPhase.isClosed_iff (phase : FleetPhase) : phase.isClosed = true ↔ 2 ≤ phase.rank := by
  cases phase <;> decide

theorem FleetPhase.rank_le_stopped (phase : FleetPhase) : phase.rank ≤ FleetPhase.stopped.rank := by
  cases phase <;> decide

namespace Board

/-- What the tasks of an operator have to do with its controllers: a clean-up is after a controller that
is stopping. -/
def Proper (b : Board) : Task → Prop
  | .loop _ _ _ | .shutdown _ | .dispatch _ _ => True
  | .cleanUp n _ => b.Halted n
  | _ => False

/-- Everything that an operator does to its controllers, its registry and its phase is made of these. -/
inductive Act (b : Board) : Board → Prop
  | accept (c : Cluster) : Act b (b.add c)
  | change (n : Nat) (g : Card → Card) (hkey : ∀ c, (g c).key = c.key)
      (hcancelled : ∀ c, c.cancelled = true → (g c).cancelled = true)
      (hspec : b.phase.isClosed = true → ∀ c, (g c).spec = c.spec) : Act b (b.change n g)
  | unregister (n : Nat) (h : b.Halted n) : Act b (b.unregister n)
  | advance (phase : FleetPhase) (h : b.phase.rank ≤ phase.rank) : Act b { b with phase := phase }
  | cancel : Act b { b with cancelled := true, cards := b.cards.map Card.stop }
  | assign (tasks : List Task) (h : ∀ t ∈ tasks, t ∈ b.tasks ∨ b.Proper t) :
      Act b { b with tasks := tasks }
  | elapse (moment : Nat) : Act b { b with now := moment }

abbrev Acts : Board → Board → Prop := Relation.ReflTransGen Act

structure Orderly (b : Board) : Prop where
  linked : b.Linked
  held : ∀ (n : Nat) (c : Card), b.cards[n]? = some c → c.cancelled = false →
    b.registry.find? c.key = some n
  proper : ∀ t ∈ b.tasks, b.Proper t

/-- What an operator never takes back. Once it is shutting down its registry only loses entries. -/
structure Onward (b b' : Board) : Prop where
  rank : b.phase.rank ≤ b'.phase.rank
  specs : b.phase.isClosed = true → b'.cards.map (·.spec) = b.cards.map (·.spec)
  entries : b.phase.isClosed = true → b'.registry.entries.Sublist b.registry.entries

variable {b b' b'' : Board} {n : Nat}

theorem Proper.of_halted {t : Task} (h : b.Proper t) (hhalted : ∀ n, b.Halted n → b'.Halted n) :
    b'.Proper t := by
  cases t with
  | cleanUp n state => exact hhalted n h
  | loop n first state => trivial
  | shutdown state => trivial
  | dispatch mailbox state => trivial
  | _ => exact h.elim

/-! ## A controller that is stopping -/

/-- A controller that is stopping stays so. -/
theorem Act.halted (h : b.Act b') (hn : b.Halted n) : b'.Halted n := by
  cases h with
  | accept c => exact add_halted hn c
  | change m g hkey hcancelled hspec => exact hn.change hcancelled m
  | unregister m _ => exact unregister_halted hn m
  | cancel =>
    obtain ⟨card, hcard, -⟩ := hn
    exact ⟨card.stop, by simp [hcard], rfl⟩
  | _ => exact hn

/-- A controller that is to start no further pass is never revived. -/
theorem Acts.halted (h : b.Acts b') (hn : b.Halted n) : b'.Halted n := by
  induction h with
  | refl => exact hn
  | tail _ hact ih => exact hact.halted ih

theorem Act.settings (h : b.Act b') : b'.settings = b.settings := by
  cases h with
  | accept c =>
    unfold add
    split_ifs <;> rfl
  | unregister m _ =>
    unfold Board.unregister
    split <;> rfl
  | _ => rfl

/-- The settings never change. -/
theorem Acts.settings (h : b.Acts b') : b'.settings = b.settings := by
  induction h with
  | refl => rfl
  | tail _ hact ih => exact hact.settings.trans ih

/-! ## The registry holds whatever is not stopping -/

theorem getElem?_concat {α : Type} {l : List α} {a x : α} (h : (l ++ [a])[n]? = some x) :
    l[n]? = some x ∨ n = l.length ∧ x = a := by
  by_cases hn : n < l.length
  · rw [List.getElem?_append_left hn] at h
    exact .inl h
  · have hlt := (List.getElem?_eq_some_iff.mp h).1
    rw [List.length_append, List.length_singleton] at hlt
    obtain rfl : n = l.length := by omega
    rw [List.getElem?_concat_length, Option.some.injEq] at h
    exact .inr ⟨rfl, h.symm⟩

/-- After a cluster is added, each controller that works holds its key. -/
theorem accept_held (h : b.Orderly) (c : Cluster) {card : Card}
    (hcard : (b.add c).cards[n]? = some card) (hworks : card.cancelled = false) :
    (b.add c).registry.find? card.key = some n := by
  unfold add at hcard ⊢
  split_ifs at hcard ⊢ with hrefused
  · exact h.held n card hcard hworks
  · simp only [Registry.find?, KeyMap.find?_put]
    rcases getElem?_concat hcard with hold | ⟨rfl, rfl⟩
    · -- A controller that was there before has another key, as it would hold this one.
      have hfind := h.held n card hold hworks
      have hne : c.key ≠ card.key := by
        intro hkey
        have hholds : b.registry.holds b.isCancelled c.key = true := by
          rw [Registry.holds, hkey, hfind]
          simp [isCancelled_eq hold, hworks]
        exact hrefused (by rw [hholds, Bool.or_true])
      rw [if_neg hne]
      exact hfind
    · exact if_pos rfl

/-- A controller that works keeps its key when one that is stopping is unregistered. -/
theorem unregister_held (h : b.Orderly) (hn : b.Halted n) {m : Nat} {card : Card}
    (hcard : (b.unregister n).cards[m]? = some card) (hworks : card.cancelled = false) :
    (b.unregister n).registry.find? card.key = some m := by
  obtain ⟨gone, hgone, hcancelled⟩ := hn
  unfold unregister at hcard ⊢
  rw [hgone] at hcard ⊢
  dsimp only at hcard ⊢
  have hfind := h.held m card hcard hworks
  unfold Registry.removeController
  split_ifs with hregistered
  · -- What goes is the entry of a controller that is stopping, so it is not this one.
    have hne : gone.key ≠ card.key := by
      intro hkey
      rw [hkey, hfind, Option.some.injEq] at hregistered
      subst hregistered
      rw [hgone, Option.some.injEq] at hcard
      rw [hcard, hworks] at hcancelled
      cases hcancelled
    simp only [Registry.find?, KeyMap.find?_erase, if_neg hne]
    exact hfind
  · exact hfind

/-- A change that cancels at most keeps everything in order. -/
theorem Orderly.change (h : b.Orderly) (n : Nat) {g : Card → Card} (hkey : ∀ c, (g c).key = c.key)
    (hcancelled : ∀ c, c.cancelled = true → (g c).cancelled = true) : (b.change n g).Orderly := by
  refine ⟨h.linked.change n hkey, ?_, fun t ht =>
    (h.proper t ht).of_halted fun m hm => hm.change hcancelled n⟩
  refine b.forall_change (fun c hc hworks => ?_) fun m c _ hc => h.held m c hc
  -- A controller that works after the change worked before.
  have hworks' : c.cancelled = false := by
    cases hc' : c.cancelled with
    | false => rfl
    | true => exact absurd hworks (by rw [hcancelled c hc']; exact Bool.noConfusion)
  rw [hkey]
  exact h.held n c hc hworks'

/-- A clean-up is always after a controller that is stopping. -/
theorem Act.proper (h : b.Act b') (hb : b.Orderly) : ∀ t ∈ b'.tasks, b'.Proper t := by
  have hkeep {t : Task} (ht : t ∈ b.tasks) : b'.Proper t :=
    (hb.proper t ht).of_halted fun _ hn => h.halted hn
  cases h with
  | accept c =>
    intro t ht
    unfold add at ht
    split_ifs at ht
    · exact hkeep ht
    · rcases List.mem_append.mp ht with ht | ht
      · exact hkeep ht
      · rw [List.mem_singleton.mp ht]
        trivial
  | unregister n hn =>
    intro t ht
    refine hkeep ?_
    unfold Board.unregister at ht
    split at ht <;> exact ht
  | assign tasks htasks =>
    intro t ht
    rcases htasks t ht with hold | hnew
    · exact hkeep hold
    · exact hnew.of_halted fun _ hn => hn
  | _ => exact fun t ht => hkeep ht

/-- Whatever an operator does, each controller that works holds its key. -/
theorem Act.orderly (h : b.Act b') (hb : b.Orderly) : b'.Orderly := by
  have hproper := h.proper hb
  cases h with
  | accept c => exact ⟨add_linked hb.linked c, fun n card => accept_held hb c, hproper⟩
  | change n g hkey hcancelled hspec => exact hb.change n hkey hcancelled
  | unregister n hn =>
    exact ⟨unregister_linked hb.linked n, fun m card => unregister_held hb hn, hproper⟩
  | advance phase hphase => exact ⟨hb.linked, hb.held, hproper⟩
  | cancel =>
    refine ⟨fun e he => ?_, fun n card hcard hworks => ?_, hproper⟩
    · obtain ⟨card, hcard, hkey⟩ := hb.linked e he
      exact ⟨card.stop, by simp [hcard], hkey⟩
    · -- None works any more.
      obtain ⟨c, -, rfl⟩ := Option.map_eq_some_iff.mp (List.getElem?_map.symm.trans hcard)
      cases hworks
  | assign tasks htasks => exact ⟨hb.linked, hb.held, hproper⟩
  | elapse moment => exact ⟨hb.linked, hb.held, hproper⟩

theorem Acts.orderly (h : b.Acts b') (hb : b.Orderly) : b'.Orderly := by
  induction h with
  | refl => exact hb
  | tail _ hact ih => exact hact.orderly ih

/-! ## Life goes on -/

theorem Onward.refl (b : Board) : b.Onward b := ⟨Nat.le_refl _, fun _ => rfl, fun _ => .refl _⟩

/-- A shutdown is not taken back. -/
theorem Onward.closed (h : b.Onward b') (hclosed : b.phase.isClosed = true) :
    b'.phase.isClosed = true := by
  rw [FleetPhase.isClosed_iff] at hclosed ⊢
  exact Nat.le_trans hclosed h.rank

theorem Onward.trans (h : b.Onward b') (h' : b'.Onward b'') : b.Onward b'' where
  rank := Nat.le_trans h.rank h'.rank
  specs hclosed := (h'.specs (h.closed hclosed)).trans (h.specs hclosed)
  entries hclosed := (h'.entries (h.closed hclosed)).trans (h.entries hclosed)

/-- No act takes anything back. -/
theorem Act.onward (h : b.Act b') : b.Onward b' := by
  cases h with
  | accept c =>
    unfold add
    split_ifs with hrefused
    · exact .refl b
    · -- A controller is accepted only before the end begins.
      have hopen : b.phase.isClosed = false := by
        cases hphase : b.phase.isClosed with
        | false => rfl
        | true => exact absurd (by rw [hphase]; rfl) hrefused
      exact ⟨Nat.le_refl _, fun hclosed => absurd hclosed (by rw [hopen]; exact Bool.noConfusion),
        fun hclosed => absurd hclosed (by rw [hopen]; exact Bool.noConfusion)⟩
  | change n g hkey hcancelled hspec =>
    exact ⟨Nat.le_refl _, fun hclosed => b.map_change n (hspec hclosed), fun _ => .refl _⟩
  | unregister n hn =>
    unfold Board.unregister
    split
    · exact .refl b
    · refine ⟨Nat.le_refl _, fun _ => rfl, fun _ => ?_⟩
      unfold Registry.removeController
      split_ifs
      · exact List.filter_sublist
      · exact .refl _
  | advance phase hphase => exact ⟨hphase, fun _ => rfl, fun _ => .refl _⟩
  | cancel => exact ⟨Nat.le_refl _, fun _ => List.map_map.trans rfl, fun _ => .refl _⟩
  | assign tasks htasks => exact ⟨Nat.le_refl _, fun _ => rfl, fun _ => .refl _⟩
  | elapse moment => exact ⟨Nat.le_refl _, fun _ => rfl, fun _ => .refl _⟩

/-- No chain of acts does. -/
theorem Acts.onward (h : b.Acts b') : b.Onward b' := by
  induction h with
  | refl => exact .refl b
  | tail _ hact ih => exact ih.trans hact.onward

/-! ## Stops, shutdowns and changes -/

/-- A stop is made of acts. -/
theorem pollStop_acts (b : Board) (n grace : Nat) (state : Stopping) :
    b.Acts (b.pollStop n grace state).2 :=
  .single (.change n _ (fun c => c.poll_key _ _ _) (fun c => c.poll_cancelled _ _ _)
    fun _ c => c.poll_spec _ _ _)

theorem pollStops_acts (b : Board) (grace : Nat) (stops : List (Nat × Stopping)) :
    b.Acts (b.pollStops grace stops).2 := by
  induction stops generalizing b with
  | nil => exact .refl
  | cons stop rest ih => exact (b.pollStop_acts stop.1 grace stop.2).trans (ih _)

theorem pollCleanUp_acts (h : b.Halted n) (state : Stopping) :
    b.Acts (b.pollCleanUp n state).2 := by
  have hpoll := b.pollStop_acts n b.settings.grace state
  rcases b.pollCleanUp_snd n state with hcases | hcases
  · rw [hcases]
    exact hpoll
  · rw [hcases]
    exact hpoll.tail (.unregister n (hpoll.halted h))

theorem drain_acts (b : Board) (controllers : List Nat) : b.Acts (b.drain controllers).2 := by
  unfold drain
  split_ifs
  · exact .head .cancel (.single (.advance .stopped b.phase.rank_le_stopped))
  · exact .refl

theorem join_acts (b : Board) (stops : List (Nat × Stopping)) : b.Acts (b.join stops).2 := by
  have hpoll := b.pollStops_acts b.settings.grace stops
  unfold join
  dsimp only
  split_ifs
  · exact hpoll.trans (drain_acts _ _)
  · exact hpoll

theorem pollClosing_acts (b : Board) (state : Closing) : b.Acts (b.pollClosing state).2 := by
  cases state with
  | unborn =>
    unfold pollClosing
    dsimp only
    split_ifs with hphase
    · exact .refl
    · -- Only an operator that is not shutting down starts to.
      rw [FleetPhase.isClosed_iff] at hphase
      exact .head (.advance .shuttingDown (Nat.le_of_not_le hphase)) (join_acts _ _)
  | joining stops => exact b.join_acts stops
  | draining controllers => exact b.drain_acts controllers
  | finished moment => exact .refl

theorem afterLoop_acts (b : Board) (n : Nat) (first : Bool) (state : Loop) :
    b.Acts (b.afterLoop n first state) := by
  unfold afterLoop
  split_ifs
  · exact .single (.change n _ (fun _ => rfl) (fun _ h => h) fun _ _ => rfl)
  · exact .refl

theorem setTask_act (i : Nat) {t : Task} (ht : b.Proper t) : b.Act (b.setTask i t) := by
  refine .assign _ fun u hu => ?_
  rcases List.mem_or_eq_of_mem_set hu with hold | rfl
  · exact .inl hold
  · exact .inr ht

theorem spawn_act {t : Task} (ht : b.Proper t) : b.Act (b.spawn t) := by
  refine .assign _ fun u hu => ?_
  rcases List.mem_append.mp hu with hold | hnew
  · exact .inl hold
  · exact .inr (List.mem_singleton.mp hnew ▸ ht)

theorem delete_acts (h : b.Linked) (c : Cluster) : b.Acts (b.delete c) := by
  unfold delete
  cases hfind : b.registry.find? c.key with
  | none => exact .refl
  | some n =>
    obtain ⟨card, hcard, -⟩ := h.find? hfind
    have hstop : b.Act (b.change n Card.stop) :=
      .change n _ (fun _ => rfl) (fun _ _ => rfl) fun _ _ => rfl
    exact .tail (.single hstop) (spawn_act (stop_halted hcard))

theorem handle_acts (h : b.Linked) (change : Watch.Change) : b.Acts (b.handle change) := by
  unfold handle
  split_ifs with hclosed
  · exact .refl
  · cases change with
    | added c => exact .single (.accept c)
    | updated old c =>
      dsimp only
      unfold update
      split
      · exact .single (.accept c)
      · exact .single (.change _ _ (fun _ => rfl) (fun _ hc => hc) fun h' => absurd h' hclosed)
    | deleted c => exact delete_acts h c

end Board

namespace Fleet

/-- What can happen to an operator, besides what its tasks do: a change is dealt with, or sent to a
dispatch loop; running and shutting down are called, any number of times; everything is cancelled from
outside; time goes by; and the platforms change. -/
inductive Occurs (f : Fleet) : Fleet → Prop
  | progress (i : Nat) : Occurs f (f.step i)
  | handle (change : Watch.Change) : Occurs f (f.handle change)
  | run (mailbox : Mailbox) : Occurs f (f.spawn (.dispatch mailbox .unborn))
  | send (i : Nat) (change : Watch.Change) : Occurs f (f.send i change).2
  | close (i : Nat) : Occurs f (f.closeMailbox i)
  | shutdown : Occurs f (f.spawn (.shutdown .unborn))
  | cancel : Occurs f f.cancel
  | elapse (moment : Nat) : Occurs f { f with now := moment }
  | outside (platforms : List (String × Platform)) : Occurs f { f with platforms := platforms }

variable {f g h : Fleet}

theorem handleAll_acts (hf : f.board.Orderly) (changes : List Watch.Change) :
    f.board.Acts (f.handleAll changes).board := by
  induction changes generalizing f with
  | nil => exact .refl
  | cons change rest ih =>
    have hhandle : f.board.Acts (f.handle change).board := by
      rw [handle_board]
      exact Board.handle_acts hf.linked change
    exact hhandle.trans (ih (hhandle.orderly hf))

theorem pollDispatchClosing_acts (f : Fleet) (state : Closing) :
    f.board.Acts (f.pollDispatchClosing state).2.board := by
  have hboard : (f.pollDispatchClosing state).2.board = (f.board.pollClosing state).2 := by
    rw [← (pollClosing_follows f state).2]
    unfold pollDispatchClosing
    split <;> rename_i heq <;> rw [heq]
  rw [hboard]
  exact Board.pollClosing_acts _ _

theorem receive_acts (hf : f.board.Orderly) (mailbox : Mailbox) :
    f.board.Acts (f.receive mailbox).2.2.board := by
  have hhandle := handleAll_acts hf mailbox.waiting
  unfold receive
  dsimp only
  split_ifs
  · exact .refl
  · exact hhandle
  · exact hhandle.trans (pollDispatchClosing_acts ((f.handleAll mailbox.waiting).note _) .unborn)

theorem pollDispatch_acts (hf : f.board.Orderly) (mailbox : Mailbox) (state : Dispatching) :
    f.board.Acts (f.pollDispatch mailbox state).2.2.board := by
  cases state with
  | unborn =>
    unfold pollDispatch
    dsimp only
    split_ifs with hphase
    · have hrun : f.board.Act { f.board with phase := .running } :=
        .advance .running (by rw [show f.board.phase = .starting from hphase]; decide)
      exact .head hrun (receive_acts (f := ({ f with phase := .running } : Fleet).note _)
        (hrun.orderly hf) mailbox)
    · exact receive_acts (f := f.note _) hf mailbox
  | receiving => exact receive_acts hf mailbox
  | closing state => exact pollDispatchClosing_acts f state
  | finished moment => exact .refl

theorem step_acts (hf : f.board.Orderly) (i : Nat) : f.board.Acts (f.step i).board := by
  cases ht : f.tasks[i]? with
  | none =>
    rw [step_none ht]
  | some t =>
    have hproper := hf.proper t (List.mem_of_getElem? ht)
    cases t with
    | loop n first state =>
      rcases step_loop_cases ht with hboard | ⟨state', hboard⟩
      · rw [hboard]
      · rw [hboard]
        exact (Board.afterLoop_acts _ _ _ _).tail (Board.setTask_act i trivial)
    | cleanUp n state =>
      have hacts := Board.pollCleanUp_acts hproper state
      rw [step_cleanUp_board ht]
      exact hacts.tail (Board.setTask_act i (hacts.halted hproper))
    | shutdown state =>
      rw [step_shutdown_board ht]
      exact (Board.pollClosing_acts _ _).tail (Board.setTask_act i trivial)
    | dispatch mailbox state =>
      rw [step_board ht]
      exact (pollDispatch_acts hf mailbox state).tail (Board.setTask_act i trivial)
    | _ => exact hproper.elim

theorem Occurs.acts (hoccurs : f.Occurs g) (hf : f.board.Orderly) : f.board.Acts g.board := by
  cases hoccurs with
  | progress i => exact step_acts hf i
  | handle change =>
    rw [handle_board]
    exact Board.handle_acts hf.linked change
  | run mailbox => exact .single (Board.spawn_act trivial)
  | send i change =>
    unfold Fleet.send
    split
    · split_ifs
      · exact .single (Board.setTask_act i trivial)
      · exact .refl
    · exact .refl
  | close i =>
    unfold closeMailbox
    split
    · exact .single (Board.setTask_act i trivial)
    · exact .refl
  | shutdown => exact .single (Board.spawn_act trivial)
  | cancel =>
    rw [show f.cancel.board = _ from board_cancel f f.phase]
    exact .single .cancel
  | elapse moment => exact .single (.elapse moment)
  | outside platforms => exact .refl

/-- Every run consists of such acts. -/
theorem runs_acts (hruns : Relation.ReflTransGen Occurs f g) (hf : f.board.Orderly) :
    f.board.Acts g.board := by
  induction hruns with
  | refl => exact .refl
  | tail _ hoccurs ih => exact ih.trans (hoccurs.acts (ih.orderly hf))

/-- A new operator has no controllers. -/
theorem orderly_of_fresh (hfresh : f.Fresh) : f.board.Orderly := by
  have hregistry : f.board.registry.entries = [] := hfresh.registry
  have hcards : f.board.cards = [] := congrArg (List.map Controller.card) hfresh.controllers
  have htasks : f.board.tasks = [] := hfresh.tasks
  refine ⟨fun e he => ?_, fun n c hc => ?_, fun t ht => ?_⟩
  · rw [hregistry] at he
    cases he
  · rw [hcards] at hc
    cases hc
  · rw [htasks] at ht
    cases ht

/-- Whatever happens to an operator from its start on, a controller that is not stopping is the one
registered under its key, and so the only one of that key. From any moment on the phase only goes
forward; once it is shutting down no controller is accepted, no spec is changed, and the registry only
loses entries. -/
theorem one_at_work (hfresh : f.Fresh) (hruns : Relation.ReflTransGen Occurs f g) :
    (∀ (n : Nat) (c : Controller), g.controller? n = some c → c.cancelled = false →
      g.registry.find? c.key = some n) ∧
    (∀ (n m : Nat) (c d : Controller), g.controller? n = some c → g.controller? m = some d →
      c.cancelled = false → d.cancelled = false → c.key = d.key → n = m) ∧
    ∀ h, Relation.ReflTransGen Occurs g h → g.phase.rank ≤ h.phase.rank ∧
      (g.phase.isClosed = true → h.controllers.map (·.spec) = g.controllers.map (·.spec) ∧
        h.registry.entries.Sublist g.registry.entries) := by
  have horderly := (runs_acts hruns (orderly_of_fresh hfresh)).orderly (orderly_of_fresh hfresh)
  have hheld : ∀ (n : Nat) (c : Controller), g.controller? n = some c → c.cancelled = false →
      g.registry.find? c.key = some n := by
    intro n c hc hworks
    exact horderly.held n c.card (board_card hc) hworks
  refine ⟨hheld, fun n m c d hc hd hworks hworks' hkey => ?_, fun h hmore => ?_⟩
  · -- One key has one entry.
    have hfind := hheld n c hc hworks
    rw [hkey, hheld m d hd hworks', Option.some.injEq] at hfind
    exact hfind.symm
  · have honward := (runs_acts hmore horderly).onward
    refine ⟨honward.rank, fun hclosed => ⟨?_, honward.entries hclosed⟩⟩
    have hspecs (f : Fleet) : f.board.cards.map (·.spec) = f.controllers.map (·.spec) :=
      List.map_map
    rw [← hspecs, ← hspecs]
    exact honward.specs hclosed

def declaredAgain : Fleet :=
  ((({ draws := ⟨id, 0⟩ } : Fleet).handle (.added (Watch.sighted "demo" 1))).handle
    (.deleted (Watch.sighted "demo" 1))).handle (.added (Watch.sighted "demo" 2))

def redeclared : Fleet := ({ declaredAgain.step 1 with now := 30000 } : Fleet).step 1

theorem redeclared_runs : Relation.ReflTransGen Occurs { draws := ⟨id, 0⟩ } redeclared := by
  have hdeclared : Relation.ReflTransGen Occurs { draws := ⟨id, 0⟩ } declaredAgain :=
    ((Relation.ReflTransGen.single (.handle _)).tail (.handle _)).tail (.handle _)
  have hwaits := hdeclared.tail (.progress 1)
  have hlate := hwaits.tail (.elapse 30000)
  exact hlate.tail (.progress 1)

def winding : Fleet := (redeclared.spawn (.shutdown .unborn)).step 3

theorem winding_runs : Relation.ReflTransGen Occurs { draws := ⟨id, 0⟩ } winding :=
  (redeclared_runs.tail .shutdown).tail (.progress 3)

/-- The second controller holds the key, and is given no spec any more once a shutdown is under way. -/
theorem one_at_work_redeclared :
    redeclared.registry.find? ⟨"default", "demo"⟩ = some 1 ∧ winding.phase = .shuttingDown ∧
      (winding.handle (.updated (Watch.sighted "demo" 2) (Watch.sighted "demo" 3))).controllers.map
        (·.spec) = winding.controllers.map (·.spec) := by
  have hfresh : Fleet.Fresh { draws := ⟨id, 0⟩ } := ⟨rfl, rfl, rfl, rfl, rfl⟩
  have hheld := (one_at_work hfresh redeclared_runs).1 1 _ rfl rfl
  have honward := (one_at_work hfresh winding_runs).2.2 _
    (.single (.handle (.updated (Watch.sighted "demo" 2) (Watch.sighted "demo" 3))))
  exact ⟨hheld, rfl, (honward.2 rfl).1⟩

end Fleet
end NatsFleet
