import NatsFleet.Proofs.Chronicle
import NatsFleet.Proofs.Dispatch
import NatsFleet.Proofs.Tracking
import Mathlib.Data.List.Forall2

/-!
What an operator decides about a change of a declared cluster. It goes by the specs of the controllers
at work, so that two operators told of the same changes keep the same controllers at work, whatever
their runtimes do and whenever their loops and clean-ups go on. A deletion alone looks at the controllers
that are stopping, too: one that comes again is another stop as long as the entry of the first is there.
-/
namespace NatsFleet

inductive Decision where
  -- A controller is accepted.
  | accepted
  -- A controller is at work for the cluster already.
  | duplicate
  -- The controller at work is given a spec, which changes this.
  | updated (diff : SpecDiff)
  -- The controller at work is stopped.
  | stopped
  -- The controller that is registered is stopping, and is stopped once more.
  | stoppedAgain
  -- None is registered that could be stopped.
  | ignored
  -- The operator shuts down.
  | dropped
  deriving DecidableEq

/-- What a decision comes to for the controllers at work: they are as little concerned by another stop of
one that is stopping as by a deletion without a controller. -/
def Decision.settled : Decision → Decision
  | .stoppedAgain => .ignored
  | d => d

structure Record where
  change : Watch.Change
  decision : Decision
  working : SpecMap

namespace Watch.Change

def cluster : Change → Cluster
  | .added c | .updated _ c | .deleted c => c

def decide (m : SpecMap) : Change → Decision
  | .added c => if (m c.key).isNone then .accepted else .duplicate
  | .updated _ c =>
    match m c.key with
    | none => .accepted
    | some spec => .updated (SpecDiff.between spec c.spec)
  | .deleted c => if (m c.key).isNone then .ignored else .stopped

def decideAll : SpecMap → List Change → List Record
  | _, [] => []
  | m, change :: rest => ⟨change, change.decide m, change.apply m⟩ :: decideAll (change.apply m) rest

/-- What comes of later changes depends on what earlier ones have left. -/
theorem decideAll_append (m : SpecMap) (changes more : List Change) :
    decideAll m (changes ++ more) = decideAll m changes ++ decideAll (changes.foldl apply m) more := by
  induction changes generalizing m with
  | nil => rfl
  | cons change rest ih => simp only [List.cons_append, decideAll, ih, List.foldl_cons]

end Watch.Change

def Task.isUntouched : Task → Bool
  | .loop _ _ _ | .cleanUp _ _ | .shutdown .unborn => true
  | .dispatch _ .unborn | .dispatch _ .receiving => true
  | _ => false

theorem Task.isUntouched_of_isPlain {t : Task} (h : t.isPlain = true) : t.isUntouched = true := by
  cases t with
  | loop n first state => rfl
  | cleanUp n state => rfl
  | _ => cases h

namespace Fleet

def working (f : Fleet) : SpecMap := fun k =>
  (f.active? k).bind fun n => (f.controller? n).map (·.spec)

/-- What is decided about a change: whether a controller is added, what the update of a spec changes,
and whether a controller is registered that can be stopped, be it for the first time or not. -/
def decision (f : Fleet) (change : Watch.Change) : Decision :=
  if f.phase.isClosed then .dropped
  else match change with
    | .added c => if (f.add c).1 then .accepted else .duplicate
    | .updated _ c =>
      match (f.active? c.key).bind f.controller? with
      | none => if (f.add c).1 then .accepted else .duplicate
      | some controller => .updated (controller.update c.spec).1
    | .deleted c =>
      match f.registry.find? c.key with
      | none => .ignored
      | some n => if f.isCancelled n then .stoppedAgain else .stopped

end Fleet

def Board.admit (b : Board) (c : Cluster) : Board :=
  { b with
    registry := ⟨b.registry.entries.put c.key b.cards.length⟩
    cards := b.cards ++ [Card.ofCluster c false]
    tasks := b.tasks ++ [.loop b.cards.length true .unborn] }

structure Handling where
  change : Watch.Change
  before : Fleet
  after : Fleet

namespace Handling

def decision (h : Handling) : Decision := h.before.decision h.change

def record (h : Handling) : Record := ⟨h.change, h.decision.settled, h.after.working⟩

/-- What has been done about a change, by what was decided about it. -/
def Done (h : Handling) : Prop :=
  let b := h.before.board
  match h.decision with
  | .accepted => b.active? h.change.key = none ∧ h.after.board = b.admit h.change.cluster
  | .duplicate => (b.active? h.change.key).isSome ∧ h.after.board = b
  | .updated diff => ∃ n card, b.active? h.change.key = some n ∧ b.cards[n]? = some card ∧
      diff = SpecDiff.between card.spec h.change.cluster.spec ∧
      h.after.board = b.change n fun card => { card with spec := h.change.cluster.spec }
  | .stopped => ∃ n, b.active? h.change.key = some n ∧
      h.after.board = (b.change n Card.stop).spawn (.cleanUp n .unborn)
  | .stoppedAgain => ∃ n, b.registry.find? h.change.key = some n ∧ b.isCancelled n = true ∧
      h.after.board = b.spawn (.cleanUp n .unborn)
  | .ignored => b.registry.find? h.change.key = none ∧ h.after.board = b
  | .dropped => False

/-- Two operators that deal with a change leave the same controllers at work. They decide the same, unless
one of them comes upon a controller that is stopping, and the other has none. -/
structure Alike (h h' : Handling) : Prop where
  change : h.change = h'.change
  working : h.after.working = h'.after.working
  decision : h.decision = h'.decision ∨
    (h.decision = .stoppedAgain ∧ h'.decision = .ignored) ∨
    (h.decision = .ignored ∧ h'.decision = .stoppedAgain)

end Handling

namespace Fleet

def handlings : Fleet → List Watch.Change → List Handling
  | _, [] => []
  | f, change :: rest => ⟨change, f, f.handle change⟩ :: handlings (f.handle change) rest

def stepHandlings (f : Fleet) (i : Nat) : List Handling :=
  match f.tasks[i]? with
  | some (.dispatch mailbox .unborn) => if f.cancelled then [] else f.begun.handlings mailbox.waiting
  | some (.dispatch mailbox .receiving) => if f.cancelled then [] else f.handlings mailbox.waiting
  | _ => []

/-- What can happen to an operator that nobody cancels, with the changes that are dealt with. -/
inductive Deals (f : Fleet) : List Handling → Fleet → Prop
  | handle (change : Watch.Change) : Deals f (f.handlings [change]) (f.handle change)
  | progress (i : Nat) : Deals f (f.stepHandlings i) (f.step i)
  | run (mailbox : Mailbox) : Deals f [] (f.spawn (.dispatch mailbox .unborn))
  | send (i : Nat) (change : Watch.Change) : Deals f [] (f.send i change).2
  | close (i : Nat) : Deals f [] (f.closeMailbox i)
  | shutdown : Deals f [] (f.spawn (.shutdown .unborn))
  | elapse (moment : Nat) : Deals f [] { f with now := moment }
  | outside (platforms : List (String × Platform)) : Deals f [] { f with platforms := platforms }

/-- A run up to the beginning of a shutdown, with the changes so far. -/
inductive Dealt (f : Fleet) : List Handling → Fleet → Prop
  | start : Dealt f [] f
  | next {g h : Fleet} {dealt more : List Handling} (hruns : Dealt f dealt g)
      (hopen : g.phase.isClosed = false) (hdeals : g.Deals more h) : Dealt f (dealt ++ more) h

structure Calm (f : Fleet) : Prop where
  orderly : f.board.Orderly
  isOpen : f.phase.isClosed = false
  root : f.cancelled = false
  untouched : ∀ t ∈ f.tasks, t.isUntouched = true

variable {f g : Fleet} {i : Nat}

/-- The specs at work are those that the board knows. -/
theorem working_eq (f : Fleet) : f.working = f.board.specs := by
  have hregistry : f.board.registry = f.registry := rfl
  funext k
  unfold working active? Board.specs
  rw [hregistry]
  cases f.registry.find? k with
  | none => rfl
  | some n =>
    dsimp only
    rw [board_cards, isCancelled]
    cases hc : f.controller? n with
    | none => rfl
    | some c =>
      cases hstops : c.cancelled <;> simp [hc, hstops, Controller.card]

theorem working_congr (h : g.board.specs = f.board.specs) : g.working = f.working := by
  rw [working_eq, working_eq, h]

/-! ## One decision -/

/-- A cluster is accepted unless the operator shuts down or a controller holds its key. -/
theorem add_accepts (f : Fleet) (c : Cluster) :
    (f.add c).1 = !(f.phase.isClosed || f.registry.holds f.isCancelled c.key) := by
  -- Making the namespace known changes nothing that is looked at.
  have hplace : (f.setPlatform c.namespaceName (f.platform c.namespaceName)).isCancelled =
      f.isCancelled := rfl
  unfold add Registry.insert
  dsimp only
  rw [hplace]
  have hphase : (f.setPlatform c.namespaceName (f.platform c.namespaceName)).phase = f.phase := rfl
  have hregistry : (f.setPlatform c.namespaceName (f.platform c.namespaceName)).registry =
      f.registry := rfl
  rw [hphase, hregistry]
  cases f.phase.isClosed <;> cases f.registry.holds f.isCancelled c.key <;> rfl

theorem active?_isNone (f : Fleet) (k : ClusterKey) :
    (f.active? k).isNone = !(f.registry.holds f.isCancelled k) := by
  unfold active? Registry.holds
  cases f.registry.find? k with
  | none => rfl
  | some n => cases hcancelled : f.isCancelled n <;> simp [hcancelled]

/-- A controller that is not stopping is there. -/
theorem active?_some {k : ClusterKey} {n : Nat} (h : f.active? k = some n) :
    ∃ c, f.controller? n = some c := by
  unfold active? at h
  split at h
  · cases h
  · split_ifs at h with hcancelled
    obtain rfl := Option.some.inj h
    rename_i m _
    cases hc : f.controller? m with
    | none => exact absurd (by rw [isCancelled, hc]; rfl) hcancelled
    | some c => exact ⟨c, rfl⟩

theorem working_isNone (f : Fleet) (k : ClusterKey) :
    (f.working k).isNone = (f.active? k).isNone := by
  unfold working
  cases hactive : f.active? k with
  | none => rfl
  | some n =>
    obtain ⟨c, hc⟩ := active?_some hactive
    simp [hc]

theorem add_accepts_working (hopen : f.phase.isClosed = false) (c : Cluster) :
    (f.add c).1 = (f.working c.key).isNone := by
  rw [add_accepts, hopen, Bool.false_or, working_isNone, active?_isNone]

/-- What is decided depends on the specs of the controllers at work, apart from a deletion under a key
whose controller is stopping. -/
theorem decision_settled (hopen : f.phase.isClosed = false) (change : Watch.Change) :
    (f.decision change).settled = change.decide f.working := by
  unfold decision Watch.Change.decide
  rw [hopen, if_neg Bool.false_ne_true]
  cases change with
  | added c =>
    dsimp only
    rw [add_accepts_working hopen]
    split_ifs <;> rfl
  | updated old c =>
    dsimp only
    rw [add_accepts_working hopen]
    unfold working
    cases hactive : f.active? c.key with
    | none => rfl
    | some n =>
      obtain ⟨controller, hc⟩ := active?_some hactive
      simp only [Option.bind_some, hc, Option.map_some]
      rfl
  | deleted c =>
    dsimp only
    rw [working_isNone]
    unfold active?
    cases f.registry.find? c.key with
    | none => rfl
    | some n => cases hstops : f.isCancelled n <;> simp [hstops, Decision.settled]

/-- A cluster is accepted if none of its key is at work. -/
theorem decision_added (hopen : f.phase.isClosed = false) (c : Cluster) :
    f.decision (.added c) = if (f.active? c.key).isNone then .accepted else .duplicate := by
  have hadded : f.decision (.added c) = if (f.add c).1 then .accepted else .duplicate := by
    rw [decision, hopen, if_neg Bool.false_ne_true]
  rw [hadded, add_accepts_working hopen, working_isNone]

/-- A controller joins the others, unless one of its key is at work. -/
theorem Calm.board_add (h : f.Calm) (c : Cluster) :
    f.board.add c = if (f.active? c.key).isNone then f.board.admit c else f.board := by
  have hphase : f.board.phase.isClosed = false := h.isOpen
  have hroot : f.board.cancelled = false := h.root
  have hholds : f.board.registry.holds f.board.isCancelled c.key = !(f.active? c.key).isNone := by
    rw [active?_isNone, Bool.not_not, show f.board.isCancelled = f.isCancelled from
      funext (board_isCancelled f)]
    rfl
  rw [Board.add, Board.admit, hphase, hroot, hholds]
  cases (f.active? c.key).isNone <;> rfl

/-- What has been done about a new cluster, by whether one of its key is at work. -/
theorem Calm.added_done (h : f.Calm) {change : Watch.Change}
    (hdecision : f.decision change = f.decision (.added change.cluster))
    (hboard : f.board.handle change = f.board.add change.cluster)
    (hkey : change.cluster.key = change.key) : Handling.Done ⟨change, f, f.handle change⟩ := by
  have hdecided : Handling.decision ⟨change, f, f.handle change⟩ =
      if (f.active? change.key).isNone then .accepted else .duplicate := by
    rw [← hkey]
    exact hdecision.trans (decision_added h.isOpen _)
  have hafter : (f.handle change).board = f.board.add change.cluster :=
    (f.handle_board change).trans hboard
  rw [h.board_add, hkey] at hafter
  unfold Handling.Done
  rw [hdecided]
  dsimp only
  rw [board_active?]
  cases hactive : f.active? change.key with
  | none =>
    rw [hactive] at hafter
    exact ⟨rfl, hafter⟩
  | some n =>
    rw [hactive] at hafter
    exact ⟨rfl, hafter⟩

/-- A controller that is stopping already is not stopped any further. -/
theorem stop_stopped {b : Board} (hlinked : b.Linked) {k : ClusterKey} {n : Nat}
    (hfind : b.registry.find? k = some n) (hstops : b.isCancelled n = true) :
    b.change n Card.stop = b := by
  obtain ⟨card, hcard, -⟩ := hlinked.find? hfind
  rw [Board.isCancelled_eq hcard] at hstops
  have hstop : card.stop = card := by rw [Card.stop, ← hstops]
  exact (Board.change_congr hcard hstop).trans (b.change_id n)

/-- A deletion goes by what is registered, be it stopping or not. -/
theorem decision_deleted (hopen : f.phase.isClosed = false) (c : Cluster) :
    f.decision (.deleted c) =
      match f.registry.find? c.key with
      | none => .ignored
      | some n => if f.isCancelled n then .stoppedAgain else .stopped := by
  rw [decision, hopen, if_neg Bool.false_ne_true]

/-- What has been done about a deletion, by what is registered. -/
theorem Calm.deleted_done (h : f.Calm) (c : Cluster) :
    Handling.Done ⟨.deleted c, f, f.handle (.deleted c)⟩ := by
  have hopen : f.board.phase.isClosed = false := h.isOpen
  have hafter : (f.handle (.deleted c)).board = f.board.delete c := by
    rw [handle_board, Board.handle, hopen, if_neg Bool.false_ne_true]
  have hdecided := decision_deleted h.isOpen c
  unfold Board.delete at hafter
  unfold Handling.Done Handling.decision
  dsimp only
  cases hfind : f.board.registry.find? c.key with
  | none =>
    rw [show f.registry.find? c.key = none from hfind] at hdecided
    rw [hfind] at hafter
    rw [hdecided]
    exact ⟨hfind, hafter⟩
  | some n =>
    rw [show f.registry.find? c.key = some n from hfind] at hdecided
    rw [hfind] at hafter
    dsimp only at hafter hdecided
    rw [hdecided]
    cases hstops : f.isCancelled n with
    | true =>
      rw [← board_isCancelled] at hstops
      rw [stop_stopped h.orderly.linked hfind hstops] at hafter
      exact ⟨n, hfind, hstops, hafter⟩
    | false =>
      have hactive : f.board.active? c.key = if f.board.isCancelled n then none else some n := by
        rw [Board.active?, hfind]
      rw [board_isCancelled, hstops] at hactive
      exact ⟨n, hactive, hafter⟩

/-- A new spec goes to the controller at work; a cluster without one is added. -/
theorem decision_updated (hopen : f.phase.isClosed = false) (old c : Cluster) :
    f.decision (.updated old c) =
      match (f.active? c.key).bind f.controller? with
      | none => f.decision (.added c)
      | some controller => .updated (controller.update c.spec).1 := by
  simp only [decision, hopen, Bool.false_eq_true, if_false]

/-- What has been done about a new spec: the controller at work is given it, and without one the cluster
is added. -/
theorem Calm.updated_done (h : f.Calm) (old c : Cluster) :
    Handling.Done ⟨.updated old c, f, f.handle (.updated old c)⟩ := by
  have hopen : f.board.phase.isClosed = false := h.isOpen
  have hafter : f.board.handle (.updated old c) = f.board.update c := by
    rw [Board.handle, hopen, if_neg Bool.false_ne_true]
  have hdecided := decision_updated h.isOpen old c
  rw [Board.update, board_active?] at hafter
  cases hactive : f.active? c.key with
  | none =>
    rw [hactive] at hdecided hafter
    exact h.added_done hdecided hafter rfl
  | some n =>
    obtain ⟨controller, hc⟩ := active?_some hactive
    rw [hactive, Option.bind_some, hc] at hdecided
    rw [hactive] at hafter
    unfold Handling.Done Handling.decision
    dsimp only
    rw [hdecided]
    exact ⟨n, controller.card, (f.board_active? c.key).trans hactive, board_card hc, rfl,
      (f.handle_board _).trans hafter⟩

/-- What is done about a change is what is decided. -/
theorem Calm.done (h : f.Calm) (change : Watch.Change) :
    Handling.Done ⟨change, f, f.handle change⟩ := by
  have hopen : f.board.phase.isClosed = false := h.isOpen
  cases change with
  | added c =>
    have hafter : f.board.handle (.added c) = f.board.add c := by
      rw [Board.handle, hopen, if_neg Bool.false_ne_true]
    exact h.added_done rfl hafter rfl
  | updated old c => exact h.updated_done old c
  | deleted c => exact h.deleted_done c

theorem Calm.handle (h : f.Calm) (change : Watch.Change) : (f.handle change).Calm := by
  have hboard := f.handle_board change
  have hframe := f.board.handle_frame change
  rw [← hboard] at hframe
  refine ⟨?_, ?_, ?_, fun t ht => ?_⟩
  · rw [hboard]
    exact (Board.handle_acts h.orderly.linked change).orderly h.orderly
  · exact (congrArg FleetPhase.isClosed hframe.phase).trans h.isOpen
  · exact (congrArg Board.cancelled hboard).trans ((f.board.handle_cancelled change).trans h.root)
  · exact (hframe.tasks t ht).elim (h.untouched t) Task.isUntouched_of_isPlain

/-- Dealing with a change makes of the specs at work what the change says. -/
theorem Calm.handle_working (h : f.Calm) (change : Watch.Change) :
    (f.handle change).working = change.apply f.working := by
  rw [working_eq, working_eq, handle_board]
  exact Board.handle_specs h.orderly.linked h.isOpen h.root change

theorem Calm.handleAll (h : f.Calm) (changes : List Watch.Change) : (f.handleAll changes).Calm := by
  induction changes generalizing f with
  | nil => exact h
  | cons change rest ih => exact ih (h.handle change)

theorem Calm.handleAll_working (h : f.Calm) (changes : List Watch.Change) :
    (f.handleAll changes).working = changes.foldl Watch.Change.apply f.working := by
  induction changes generalizing f with
  | nil => rfl
  | cons change rest ih =>
    rw [List.foldl_cons, ← h.handle_working change]
    exact ih (h.handle change)

theorem handlings_change (f : Fleet) (changes : List Watch.Change) :
    (f.handlings changes).map (·.change) = changes := by
  induction changes generalizing f with
  | nil => rfl
  | cons change rest ih => rw [handlings, List.map_cons, ih]

/-- The records of changes follow from the specs at work before them. -/
theorem Calm.handlings_record (h : f.Calm) (changes : List Watch.Change) :
    (f.handlings changes).map Handling.record = Watch.Change.decideAll f.working changes := by
  induction changes generalizing f with
  | nil => rfl
  | cons change rest ih =>
    have hrecord : Handling.record ⟨change, f, f.handle change⟩ =
        ⟨change, change.decide f.working, change.apply f.working⟩ := by
      rw [← decision_settled h.isOpen, ← h.handle_working change]
      rfl
    rw [handlings, Watch.Change.decideAll, List.map_cons, hrecord, ih (h.handle change),
      h.handle_working change]

/-- What is decided about each of several changes is what is done. -/
theorem Calm.handlings_done (h : f.Calm) (changes : List Watch.Change) :
    ∀ x ∈ f.handlings changes, x.Done := by
  induction changes generalizing f with
  | nil => exact fun x hx => absurd hx List.not_mem_nil
  | cons change rest ih => exact List.forall_mem_cons.mpr ⟨h.done change, ih (h.handle change)⟩

/-! ## One task goes on -/

structure Keeps (f : Fleet) (dealt : List Handling) (g : Fleet) : Prop where
  decided : dealt.map Handling.record = Watch.Change.decideAll f.working (dealt.map (·.change))
  done : ∀ x ∈ dealt, x.Done
  calm : g.phase.isClosed = false → g.Calm
  working : g.phase.isClosed = false →
    g.working = (dealt.map (·.change)).foldl Watch.Change.apply f.working

/-- What deals with no change and changes no spec. -/
theorem Calm.keeps_nil (hcalm : g.Calm) (hspecs : g.board.specs = f.board.specs) :
    f.Keeps [] g :=
  ⟨rfl, fun _ hx => absurd hx List.not_mem_nil, fun _ => hcalm, fun _ => working_congr hspecs⟩

theorem Calm.setTask (h : f.Calm) (i : Nat) {t : Task} (ht : t.isUntouched = true)
    (hproper : f.board.Proper t) : Calm { f with tasks := f.tasks.set i t } := by
  refine ⟨(Board.setTask_act i hproper).orderly h.orderly, h.isOpen, h.root, fun u hu => ?_⟩
  rcases List.mem_or_eq_of_mem_set hu with hold | rfl
  · exact h.untouched u hold
  · exact ht

theorem Calm.spawn (h : f.Calm) {t : Task} (ht : t.isUntouched = true)
    (hproper : f.board.Proper t) : (f.spawn t).Calm := by
  refine ⟨(Board.spawn_act hproper).orderly h.orderly, h.isOpen, h.root, fun u hu => ?_⟩
  rcases List.mem_append.mp hu with hold | hnew
  · exact h.untouched u hold
  · rw [List.mem_singleton.mp hnew]
    exact ht

theorem Calm.begun (h : f.Calm) : f.begun.Calm := by
  have horderly := begun_orderly h.orderly
  unfold Fleet.begun at horderly ⊢
  split_ifs at horderly ⊢
  · exact ⟨horderly, rfl, h.root, h.untouched⟩
  · exact ⟨horderly, h.isOpen, h.root, h.untouched⟩

theorem begun_working (f : Fleet) : f.begun.working = f.working := by
  unfold begun
  split_ifs <;> rfl

/-- A shutdown that runs for the first time closes the operator. -/
theorem pollClosing_closed (f : Fleet) : (f.pollClosing .unborn).2.phase.isClosed = true := by
  have hphase : (f.pollClosing .unborn).2.phase = (f.board.pollClosing .unborn).2.phase :=
    congrArg Board.phase (pollClosing_follows f .unborn).2
  rw [hphase]
  exact Board.pollClosing_closed (.inl rfl)

/-- A dispatch loop that goes on deals with all that waits for it, and then waits or ends everything. -/
theorem Calm.receive (h : f.Calm) (mailbox : Mailbox) :
    f.receive mailbox =
        ({ mailbox with waiting := [] }, .receiving, f.handleAll mailbox.waiting) ∨
      (f.receive mailbox).2.2.phase.isClosed = true := by
  by_cases hopen : mailbox.isOpen = true
  · exact .inl (receive_waits h.root hopen)
  · rw [receive_ends h.root (eq_false_of_ne_true hopen), pollDispatchClosing_eq]
    exact .inr (pollClosing_closed _)

/-- What a dispatch loop does to an operator with which it goes on. -/
theorem Calm.keeps_received (h : g.Calm) (hworking : g.working = f.working) (i : Nat)
    (mailbox : Mailbox) : f.Keeps (g.handlings mailbox.waiting) (g.received i mailbox) := by
  have hrecords := h.handlings_record mailbox.waiting
  have hdone := h.handlings_done mailbox.waiting
  rw [hworking] at hrecords
  rcases h.receive mailbox with hreceive | hclosed
  · have hcalm := h.handleAll mailbox.waiting
    have hworking' := h.handleAll_working mailbox.waiting
    unfold received
    rw [hreceive]
    refine ⟨by rwa [handlings_change], hdone, fun _ => hcalm.setTask i rfl trivial, fun _ => ?_⟩
    rw [handlings_change, ← hworking, ← hworking']
    rfl
  · -- Whatever follows is after the beginning of a shutdown.
    have hnever {P : Prop} (hopen : (g.receive mailbox).2.2.phase.isClosed = false) : P :=
      absurd (hclosed.symm.trans hopen) Bool.noConfusion
    exact ⟨by rwa [handlings_change], hdone, fun hopen => hnever hopen, fun hopen => hnever hopen⟩

theorem Calm.keeps_dispatch (h : f.Calm) {mailbox : Mailbox} {state : Dispatching}
    (ht : f.tasks[i]? = some (.dispatch mailbox state)) : f.Keeps (f.stepHandlings i) (f.step i) := by
  have huntouched := h.untouched _ (List.mem_of_getElem? ht)
  cases state with
  | unborn =>
    have hdealt : f.stepHandlings i = f.begun.handlings mailbox.waiting := by
      simp only [stepHandlings, ht, h.root, Bool.false_eq_true, if_false]
    rw [hdealt, step_begins ht]
    exact h.begun.keeps_received f.begun_working i mailbox
  | receiving =>
    have hdealt : f.stepHandlings i = f.handlings mailbox.waiting := by
      simp only [stepHandlings, ht, h.root, Bool.false_eq_true, if_false]
    rw [hdealt, step_receives ht]
    exact h.keeps_received rfl i mailbox
  | _ => cases huntouched

/-- Loops and clean-ups change no spec, whenever they go on. -/
theorem Calm.step_plain_specs (h : f.Calm) {t : Task} (ht : f.tasks[i]? = some t)
    (hplain : t.isPlain = true) : (f.step i).board.specs = f.board.specs := by
  have hproper := h.orderly.proper t (List.mem_of_getElem? ht)
  cases t with
  | loop n first state =>
    rcases step_loop_cases ht with hboard | ⟨state', hboard⟩
    · rw [hboard]
    · rw [hboard]
      exact Board.afterLoop_specs n first _
  | cleanUp n state =>
    rw [step_cleanUp_board ht]
    exact Board.pollCleanUp_specs hproper state
  | _ => cases hplain

/-- Loops and clean-ups decide nothing. -/
theorem Calm.keeps_plain (h : f.Calm) {t : Task} (ht : f.tasks[i]? = some t)
    (hplain : t.isPlain = true) : f.Keeps [] (f.step i) := by
  obtain ⟨t', htasks, hplain'⟩ := step_tasks ht hplain
  refine Calm.keeps_nil ⟨(step_acts h.orderly i).orderly h.orderly, ?_, ?_, fun u hu => ?_⟩
    (h.step_plain_specs ht hplain)
  · rw [step_plain_phase ht hplain]
    exact h.isOpen
  · rw [step_plain_cancelled ht hplain]
    exact h.root
  · rw [htasks] at hu
    rcases List.mem_or_eq_of_mem_set hu with hold | rfl
    · exact h.untouched u hold
    · exact Task.isUntouched_of_isPlain hplain'

/-- A shutdown that goes on closes the operator. -/
theorem keeps_shutdown (ht : f.tasks[i]? = some (.shutdown .unborn)) : f.Keeps [] (f.step i) := by
  have hclosed : (f.step i).phase.isClosed = true := by
    have hphase : (f.step i).phase = (f.pollClosing .unborn).2.phase :=
      congrArg Board.phase (step_board ht)
    rw [hphase]
    exact f.pollClosing_closed
  exact ⟨rfl, fun _ hx => absurd hx List.not_mem_nil,
    fun hopen => absurd (hclosed.symm.trans hopen) Bool.noConfusion,
    fun hopen => absurd (hclosed.symm.trans hopen) Bool.noConfusion⟩

/-- Only dispatch loops deal with changes. -/
theorem stepHandlings_other {t : Task} (ht : f.tasks[i]? = some t)
    (hother : ∀ mailbox state, t ≠ .dispatch mailbox state) : f.stepHandlings i = [] := by
  unfold stepHandlings
  rw [ht]
  cases t with
  | dispatch mailbox state => exact absurd rfl (hother mailbox state)
  | _ => rfl

/-- Whatever task goes on, it keeps to what was decided. -/
theorem Calm.keeps_step (h : f.Calm) (i : Nat) : f.Keeps (f.stepHandlings i) (f.step i) := by
  cases ht : f.tasks[i]? with
  | none =>
    have hdealt : f.stepHandlings i = [] := by simp only [stepHandlings, ht]
    rw [hdealt, step_none ht]
    exact h.keeps_nil rfl
  | some t =>
    have huntouched := h.untouched t (List.mem_of_getElem? ht)
    cases t with
    | dispatch mailbox state => exact h.keeps_dispatch ht
    | loop n first state =>
      rw [stepHandlings_other ht fun _ _ => Task.noConfusion]
      exact h.keeps_plain ht rfl
    | cleanUp n state =>
      rw [stepHandlings_other ht fun _ _ => Task.noConfusion]
      exact h.keeps_plain ht rfl
    | shutdown state =>
      rw [stepHandlings_other ht fun _ _ => Task.noConfusion]
      cases state with
      | unborn => exact keeps_shutdown ht
      | _ => cases huntouched
    | _ => cases huntouched

/-! ## Runs -/

/-- A mailbox changes, and nothing else. -/
theorem Calm.setMailbox (h : f.Calm) {mailbox : Mailbox} {state : Dispatching}
    (ht : f.tasks[i]? = some (.dispatch mailbox state)) (mailbox' : Mailbox) :
    Calm { f with tasks := f.tasks.set i (.dispatch mailbox' state) } := by
  have huntouched := h.untouched _ (List.mem_of_getElem? ht)
  refine h.setTask i ?_ trivial
  cases state with
  | unborn => rfl
  | receiving => rfl
  | _ => cases huntouched

theorem Calm.keeps_send (h : f.Calm) (i : Nat) (change : Watch.Change) :
    f.Keeps [] (f.send i change).2 := by
  rcases f.send_cases i change with hsame | ⟨mailbox, mailbox', state, -, ht, hsent⟩
  · rw [hsame]
    exact h.keeps_nil rfl
  · rw [hsent]
    exact Calm.keeps_nil (h.setMailbox ht _) rfl

theorem Calm.keeps_close (h : f.Calm) (i : Nat) : f.Keeps [] (f.closeMailbox i) := by
  rcases f.closeMailbox_cases i with hsame | ⟨mailbox, state, ht, hclosed⟩
  · rw [hsame]
    exact h.keeps_nil rfl
  · rw [hclosed]
    exact Calm.keeps_nil (h.setMailbox ht _) rfl

theorem Deals.keeps {dealt : List Handling} (hdeals : f.Deals dealt g) (h : f.Calm) :
    f.Keeps dealt g := by
  cases hdeals with
  | handle change =>
    exact ⟨h.handlings_record [change], h.handlings_done [change], fun _ => h.handle change,
      fun _ => h.handle_working change⟩
  | progress i => exact h.keeps_step i
  | run mailbox => exact Calm.keeps_nil (h.spawn rfl trivial) rfl
  | send i change => exact h.keeps_send i change
  | close i => exact h.keeps_close i
  | shutdown => exact Calm.keeps_nil (h.spawn rfl trivial) rfl
  | elapse moment =>
    have helapse : f.board.Act { f.board with now := moment } := .elapse moment
    exact Calm.keeps_nil ⟨helapse.orderly h.orderly, h.isOpen, h.root, h.untouched⟩ rfl
  | outside platforms => exact Calm.keeps_nil ⟨h.orderly, h.isOpen, h.root, h.untouched⟩ rfl

theorem Keeps.trans {h : Fleet} {dealt more : List Handling} (hfirst : f.Keeps dealt g)
    (hopen : g.phase.isClosed = false) (hnext : g.Keeps more h) : f.Keeps (dealt ++ more) h := by
  have hworking := hfirst.working hopen
  refine ⟨?_, List.forall_mem_append.mpr ⟨hfirst.done, hnext.done⟩, hnext.calm, fun hopen' => ?_⟩
  · rw [List.map_append, List.map_append, Watch.Change.decideAll_append, ← hfirst.decided,
      ← hworking, ← hnext.decided]
  · rw [List.map_append, List.foldl_append, ← hworking]
    exact hnext.working hopen'

/-- No shutdown has touched a new operator. -/
theorem calm_of_fresh (hfresh : f.Fresh) : f.Calm := by
  refine ⟨orderly_of_fresh hfresh, hfresh.isOpen, hfresh.root, fun t ht => ?_⟩
  rw [hfresh.tasks] at ht
  cases ht

theorem Dealt.keeps {dealt : List Handling} (hruns : f.Dealt dealt g) (h : f.Calm) :
    f.Keeps dealt g := by
  induction hruns with
  | start => exact h.keeps_nil rfl
  | next _ hopen hdeals ih => exact ih.trans hopen (hdeals.keeps (ih.calm hopen))

theorem working_of_fresh (hfresh : f.Fresh) : f.working = fun _ => none := by
  funext k
  have hnone : f.registry.find? k = none := by rw [Registry.find?, hfresh.registry]; rfl
  simp only [working, active?, hnone, Option.bind_none]

/-- What each change comes to follows from the changes so far alone. -/
theorem records_of_changes {dealt : List Handling} (hfresh : f.Fresh) (hruns : f.Dealt dealt g) :
    dealt.map Handling.record =
      Watch.Change.decideAll (fun _ => none) (dealt.map (·.change)) := by
  have hrecords := (hruns.keeps (calm_of_fresh hfresh)).decided
  rwa [working_of_fresh hfresh] at hrecords

/-- Only another stop is settled as something else. -/
theorem settled_of_ne {d : Decision} (h : d ≠ .stoppedAgain) : d.settled = d := by
  cases d with
  | stoppedAgain => exact absurd rfl h
  | _ => rfl

theorem eq_or_of_settled {d d' : Decision} (h : d.settled = d'.settled) :
    d = d' ∨ (d = .stoppedAgain ∧ d' = .ignored) ∨ (d = .ignored ∧ d' = .stoppedAgain) := by
  by_cases hd : d = .stoppedAgain
  · by_cases hd' : d' = .stoppedAgain
    · exact .inl (hd.trans hd'.symm)
    · rw [hd, settled_of_ne hd'] at h
      exact .inr (.inl ⟨hd, h.symm⟩)
  · rw [settled_of_ne hd] at h
    by_cases hd' : d' = .stoppedAgain
    · rw [hd'] at h
      exact .inr (.inr ⟨h, hd'⟩)
    · exact .inl (h.trans (settled_of_ne hd'))

/-- The same records are those of operators that deal alike. -/
theorem alike_of_record {h h' : Handling} (hrecord : h.record = h'.record) : h.Alike h' where
  change := congrArg Record.change hrecord
  working := congrArg Record.working hrecord
  decision := eq_or_of_settled (congrArg Record.decision hrecord)

/-- A dispatch loop with changes in its mailbox can go on at any moment, and deals with all of them when
it does. -/
theorem Calm.deals_at_once (h : f.Calm) {mailbox : Mailbox} {state : Dispatching}
    (ht : f.tasks[i]? = some (.dispatch mailbox state)) (hwaiting : mailbox.waiting ≠ []) :
    i ∈ f.readyTasks ∧ (f.stepHandlings i).map (·.change) = mailbox.waiting := by
  have huntouched := h.untouched _ (List.mem_of_getElem? ht)
  have hready : mailbox.waiting.isEmpty = false := by simpa using hwaiting
  refine ⟨mem_readyTasks.mpr ⟨_, ht, ?_⟩, ?_⟩
  · cases state with
    | unborn => rfl
    | receiving => simp [isReady, isDispatchReady, hready]
    | _ => cases huntouched
  · unfold stepHandlings
    rw [ht]
    cases state with
    | unborn => simpa only [h.root, Bool.false_eq_true, if_false] using f.begun.handlings_change _
    | receiving => simpa only [h.root, Bool.false_eq_true, if_false] using f.handlings_change _
    | _ => cases huntouched

/-- Two operators that were told of the same changes up to the beginning of a shutdown have the same
controllers at work after each of them, with the same specs. They have decided the same, and done it,
unless a cluster was deleted whose controller was stopping already: then one that has not been cleaned up
after is stopped again, and one that has is not known any more. The operators may differ in their settings,
in what their platforms do, and in the moments at which their loops, clean-ups and dispatch loops went on.
At any moment between changes the same controllers are at work, and a change that waits for a dispatch
loop is dealt with as soon as that loop goes on, which it can do at once. -/
theorem decisions_agree {f f' g g' : Fleet} {dealt dealt' : List Handling} (hfresh : f.Fresh)
    (hfresh' : f'.Fresh) (hruns : f.Dealt dealt g) (hruns' : f'.Dealt dealt' g')
    (hchanges : dealt.map (·.change) = dealt'.map (·.change)) :
    List.Forall₂ Handling.Alike dealt dealt' ∧
    (∀ h ∈ dealt, h.Done) ∧ (∀ h ∈ dealt', h.Done) ∧
    (g.phase.isClosed = false → g'.phase.isClosed = false → g.working = g'.working) ∧
    (g.phase.isClosed = false → ∀ (i : Nat) (mailbox : Mailbox) (state : Dispatching),
      g.tasks[i]? = some (.dispatch mailbox state) → mailbox.waiting ≠ [] →
        i ∈ g.readyTasks ∧ (g.stepHandlings i).map (·.change) = mailbox.waiting) := by
  have hkeeps := hruns.keeps (calm_of_fresh hfresh)
  have hkeeps' := hruns'.keeps (calm_of_fresh hfresh')
  refine ⟨?_, hkeeps.done, hkeeps'.done, fun hopen hopen' => ?_,
    fun hopen i mailbox state ht hwaiting => (hkeeps.calm hopen).deals_at_once ht hwaiting⟩
  · -- What each change comes to is the same, as it follows from the changes.
    have hrecords : dealt.map Handling.record = dealt'.map Handling.record := by
      rw [records_of_changes hfresh hruns, records_of_changes hfresh' hruns', hchanges]
    rw [← List.forall₂_eq_eq_eq, List.forall₂_map_left_iff, List.forall₂_map_right_iff] at hrecords
    exact hrecords.imp fun _ _ => alike_of_record
  · -- Either map is what the changes make of the empty one.
    rw [hkeeps.working hopen, hkeeps'.working hopen', hchanges, working_of_fresh hfresh,
      working_of_fresh hfresh']

/-- Changes that are dealt with one after the other, with nothing in between. -/
theorem Dealt.handleAll {dealt : List Handling} (hruns : f.Dealt dealt g) (hcalm : g.Calm)
    (changes : List Watch.Change) :
    f.Dealt (dealt ++ g.handlings changes) (g.handleAll changes) := by
  induction changes generalizing g dealt with
  | nil => rwa [handlings, List.append_nil]
  | cons change rest ih =>
    have hnext := hruns.next hcalm.isOpen (.handle change)
    have hmore := ih hnext (hcalm.handle change)
    rwa [List.append_assoc] at hmore

def declaredOnce : List Watch.Change :=
  [.added (Watch.sighted "demo" 1), .deleted (Watch.sighted "demo" 1)]

def cleanedUp : Fleet :=
  let deleted := Fleet.handleAll { draws := ⟨id, 0⟩ } declaredOnce
  ({ deleted.step 1 with now := 30000 } : Fleet).step 1

/-- The clean-up goes on when time is up, and deals with no change. -/
theorem cleanedUp_dealt : Fleet.Dealt { draws := ⟨id, 0⟩ }
    (Fleet.handlings { draws := ⟨id, 0⟩ } declaredOnce) cleanedUp := by
  have hfresh : Fleet.Fresh { draws := ⟨id, 0⟩ } := ⟨rfl, rfl, rfl, rfl, rfl⟩
  have hdeleted := Dealt.start.handleAll (calm_of_fresh hfresh) declaredOnce
  exact ((hdeleted.next rfl (.progress 1)).next rfl (.elapse 30000)).next rfl (.progress 1)

/-- A cluster that is declared again is accepted after the entry of its first controller has been
removed as it is while that entry is still there. -/
theorem decisions_agree_redeclared :
    let lingering := Fleet.handlings { draws := ⟨id, 0⟩ }
      (declaredOnce ++ [.added (Watch.sighted "demo" 2)])
    let cleaned := Fleet.handlings { draws := ⟨id, 0⟩ } declaredOnce ++
      cleanedUp.handlings [.added (Watch.sighted "demo" 2)]
    cleanedUp.registry.find? ⟨"default", "demo"⟩ = none ∧
      lingering.map Handling.decision = [.accepted, .stopped, .accepted] ∧
      List.Forall₂ Handling.Alike lingering cleaned ∧
      (∀ h ∈ lingering, h.Done) ∧ ∀ h ∈ cleaned, h.Done := by
  intro lingering cleaned
  have hfresh : Fleet.Fresh { draws := ⟨id, 0⟩ } := ⟨rfl, rfl, rfl, rfl, rfl⟩
  have hlingers := Dealt.start.handleAll (calm_of_fresh hfresh)
    (declaredOnce ++ [.added (Watch.sighted "demo" 2)])
  have hcleaned := cleanedUp_dealt.next rfl (.handle (.added (Watch.sighted "demo" 2)))
  obtain ⟨halike, hdone, hdone', -⟩ := decisions_agree hfresh hfresh hlingers hcleaned rfl
  exact ⟨rfl, rfl, halike, hdone, hdone'⟩

/-- A cluster that is deleted again is not known any more once the clean-up after its controller is over.
As long as that controller keeps the clean-up waiting, it is stopped again, and cleaned up after again. -/
theorem deletion_repeated :
    let lingering := Fleet.handlings { draws := ⟨id, 0⟩ }
      (declaredOnce ++ [.deleted (Watch.sighted "demo" 1)])
    let cleaned := Fleet.handlings { draws := ⟨id, 0⟩ } declaredOnce ++
      cleanedUp.handlings [.deleted (Watch.sighted "demo" 1)]
    Fleet.Fresh { draws := ⟨id, 0⟩ } ∧
      (∃ g, Fleet.Dealt { draws := ⟨id, 0⟩ } lingering g) ∧
      (∃ g, Fleet.Dealt { draws := ⟨id, 0⟩ } cleaned g) ∧
      lingering.map (·.change) = cleaned.map (·.change) ∧
      lingering.map Handling.decision = [.accepted, .stopped, .stoppedAgain] ∧
      cleaned.map Handling.decision = [.accepted, .stopped, .ignored] := by
  have hfresh : Fleet.Fresh { draws := ⟨id, 0⟩ } := ⟨rfl, rfl, rfl, rfl, rfl⟩
  have hlingers := Dealt.start.handleAll (calm_of_fresh hfresh)
    (declaredOnce ++ [.deleted (Watch.sighted "demo" 1)])
  have hcleaned := cleanedUp_dealt.next rfl (.handle (.deleted (Watch.sighted "demo" 1)))
  exact ⟨hfresh, ⟨_, hlingers⟩, ⟨_, hcleaned⟩, rfl, rfl, rfl⟩

end Fleet
end NatsFleet
