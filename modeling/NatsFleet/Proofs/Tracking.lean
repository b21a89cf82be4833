import NatsFleet.Proofs.Classification
import NatsFleet.Proofs.Incumbents
import NatsFleet.Proofs.Loops
import Mathlib.Logic.Relation

/-!
An operator that is fed with what watching reports keeps one controller at work for each object that
watching has seen, with the spec of that object.
-/
namespace NatsFleet

namespace Board

variable {b : Board}

def specs (b : Board) : SpecMap := fun k =>
  match b.registry.find? k with
  | none => none
  | some n =>
    match b.cards[n]? with
    | none => none
    | some c => if c.cancelled then none else some c.spec

/-- The specs of a board are those on the cards, under the keys of its active controllers. -/
theorem specs_eq (b : Board) : b.specs = b.under (b.cards.map (·.spec)) := by
  funext k
  unfold specs under active?
  cases b.registry.find? k with
  | none => rfl
  | some n =>
    dsimp only
    cases hc : b.cards[n]? with
    | none => simp [isCancelled, hc]
    | some c =>
      rw [isCancelled_eq hc]
      cases hcancelled : c.cancelled <;> simp [hc, hcancelled]

/-- They only depend on these controllers and their specs. -/
theorem specs_congr {b' : Board} (hactive : b'.active? = b.active?)
    (hspec : b'.cards.map (·.spec) = b.cards.map (·.spec)) : b'.specs = b.specs := by
  rw [specs_eq, specs_eq, hspec, under_congr hactive]

/-- Where no controller is active there is no spec. -/
theorem specs_isNone (h : b.Linked) (k : ClusterKey) :
    (b.specs k).isNone = (b.active? k).isNone := by
  rw [specs_eq, under_isNone h (List.length_map _)]

/-- Adding a cluster does to the specs what the change says. -/
theorem add_specs (h : b.Linked) (hopen : b.phase.isClosed = false) (hroot : b.cancelled = false)
    (c : Cluster) : (b.add c).specs = Watch.Change.apply b.specs (.added c) := by
  have hcards : (b.add c).cards.map (·.spec) = if (b.active? c.key).isNone
      then b.cards.map (·.spec) ++ [c.spec] else b.cards.map (·.spec) := by
    unfold add
    rw [active?_isNone, hopen, Bool.false_or]
    cases b.registry.holds b.isCancelled c.key <;> simp [Card.ofCluster]
  rw [specs_eq, hcards, under_add h hopen hroot (List.length_map _), Watch.Change.apply, specs_eq]

theorem update_specs (h : b.Linked) (hopen : b.phase.isClosed = false) (hroot : b.cancelled = false)
    (old c : Cluster) : (b.update c).specs = Watch.Change.apply b.specs (.updated old c) := by
  unfold update
  cases hactive : b.active? c.key with
  | none =>
    have hnone : (b.specs c.key).isNone = true := by
      rw [specs_isNone h, hactive]
      rfl
    dsimp only
    rw [add_specs h hopen hroot, Watch.Change.apply, if_pos hnone]
    rfl
  | some n =>
    -- The registered controller is at work, and so its spec is the one that counts.
    have hcards : (b.change n fun card => { card with spec := c.spec }).cards.map (·.spec) =
        (b.cards.map (·.spec)).set n c.spec := by
      rw [List.set_eq_modify]
      exact map_modify _ _ fun _ => rfl
    have hactive' : (b.change n fun card => { card with spec := c.spec }).active? = b.active? :=
      active?_change n fun _ _ => rfl
    dsimp only
    rw [specs_eq, hcards, under_congr hactive', under_set h (List.length_map _) hactive, specs_eq]
    rfl

theorem delete_specs (h : b.Linked) (c : Cluster) :
    (b.delete c).specs = Watch.Change.apply b.specs (.deleted c) := by
  unfold delete
  rw [Watch.Change.apply]
  cases hfind : b.registry.find? c.key with
  | none =>
    have hnone : b.specs c.key = none := by simp only [specs, hfind]
    exact (Function.update_eq_self_iff.mpr hnone.symm).symm
  | some n =>
    have hcards : (b.change n Card.stop).cards.map (·.spec) = b.cards.map (·.spec) :=
      b.map_change n fun _ => rfl
    have hstop : (b.change n Card.stop).specs = Function.update b.specs c.key none := by
      rw [specs_eq, hcards, under_stop h hfind, specs_eq]
    exact hstop

/-- The specs of the registry follow every change. -/
theorem handle_specs (h : b.Linked) (hopen : b.phase.isClosed = false) (hroot : b.cancelled = false)
    (change : Watch.Change) : (b.handle change).specs = change.apply b.specs := by
  unfold handle
  rw [hopen, if_neg Bool.false_ne_true]
  cases change with
  | added c => exact add_specs h hopen hroot c
  | updated old c => exact update_specs h hopen hroot old c
  | deleted c => exact delete_specs h c

/-- A clean-up changes no spec, as the controller that it stops is stopping already. -/
theorem pollCleanUp_specs {n : Nat} (hhalted : b.Halted n) (state : Stopping) :
    (b.pollCleanUp n state).2.specs = b.specs := by
  have hpoll : (b.pollStop n b.settings.grace state).2.cards.map (·.spec) = b.cards.map (·.spec) :=
    map_change _ _ fun c => c.poll_spec _ _ _
  refine specs_congr (active?_pollCleanUp hhalted state) ?_
  rcases b.pollCleanUp_snd n state with h | h
  · rw [h, hpoll]
  · rw [h, unregister_cards, hpoll]

def Ordinary (b : Board) : Task → Prop
  | .loop _ _ _ => True
  | .cleanUp n _ => b.Halted n
  | _ => False

theorem Ordinary.of_halted {b' : Board} (hhalted : ∀ n, b.Halted n → b'.Halted n) {t : Task}
    (h : b.Ordinary t) : b'.Ordinary t := by
  cases t with
  | loop n first state => trivial
  | cleanUp n state => exact hhalted n h
  | _ => exact h.elim

structure Tidy (b : Board) : Prop where
  linked : b.Linked
  isOpen : b.phase.isClosed = false
  root : b.cancelled = false
  ordinary : ∀ t ∈ b.tasks, b.Ordinary t

/-- Loops leave them alone. -/
theorem afterLoop_specs (n : Nat) (first : Bool) (state : Loop) :
    (b.afterLoop n first state).specs = b.specs := by
  refine specs_congr (active?_afterLoop n first state) ?_
  unfold afterLoop
  split_ifs
  · exact map_change _ _ fun _ => rfl
  · rfl

/-- A card may change as long as it keeps its key and stays cancelled once it is. -/
theorem Tidy.change (h : b.Tidy) (n : Nat) {g : Card → Card} (hkey : ∀ c, (g c).key = c.key)
    (hcancelled : ∀ c, c.cancelled = true → (g c).cancelled = true) : (b.change n g).Tidy where
  linked := h.linked.change n hkey
  isOpen := h.isOpen
  root := h.root
  ordinary t ht := (h.ordinary t ht).of_halted fun _ hm => hm.change hcancelled n

theorem Tidy.setTask (h : b.Tidy) (i : Nat) {t : Task} (ht : b.Ordinary t) :
    (b.setTask i t).Tidy := by
  refine ⟨h.linked, h.isOpen, h.root, fun u hu => ?_⟩
  rcases List.mem_or_eq_of_mem_set hu with hu' | rfl
  · exact h.ordinary u hu'
  · exact ht

theorem Tidy.spawn (h : b.Tidy) {t : Task} (ht : b.Ordinary t) : (b.spawn t).Tidy := by
  refine ⟨h.linked, h.isOpen, h.root, fun u hu => ?_⟩
  rcases List.mem_append.mp hu with hu' | hu'
  · exact h.ordinary u hu'
  · rw [List.mem_singleton] at hu'
    exact hu' ▸ ht

/-- Taking an entry out leaves the rest tidy. -/
theorem Tidy.unregister (h : b.Tidy) (n : Nat) : (b.unregister n).Tidy := by
  have hlinked := unregister_linked h.linked n
  unfold Board.unregister at hlinked ⊢
  split at hlinked
  · exact h
  · exact ⟨hlinked, h.isOpen, h.root, h.ordinary⟩

/-- A clean-up leaves the board tidy. -/
theorem pollCleanUp_tidy (h : b.Tidy) {n : Nat} (hhalted : b.Halted n) (state : Stopping) :
    (b.pollCleanUp n state).2.Tidy ∧ (b.pollCleanUp n state).2.Halted n := by
  have hpoll : (b.pollStop n b.settings.grace state).2.Tidy :=
    h.change n (fun c => c.poll_key _ _ _) fun c => c.poll_cancelled _ _ _
  have hhalted' := hhalted.pollStop b.settings.grace state
  rcases b.pollCleanUp_snd n state with hcases | hcases
  · rw [hcases]
    exact ⟨hpoll, hhalted'⟩
  · rw [hcases]
    exact ⟨hpoll.unregister n, unregister_halted hhalted' n⟩

theorem add_tidy (h : b.Tidy) (c : Cluster) : (b.add c).Tidy := by
  have hlinked := add_linked h.linked c
  have hhalted (n : Nat) (hn : b.Halted n) := add_halted hn c
  unfold add at hlinked hhalted ⊢
  split_ifs at hlinked hhalted ⊢
  · exact h
  · refine ⟨hlinked, h.isOpen, h.root, fun t ht => ?_⟩
    rcases List.mem_append.mp ht with ht' | ht'
    · exact (h.ordinary t ht').of_halted hhalted
    · rw [List.mem_singleton.mp ht']
      trivial

theorem update_tidy (h : b.Tidy) (c : Cluster) : (b.update c).Tidy := by
  unfold update
  split
  · exact add_tidy h c
  · exact h.change _ (fun _ => rfl) fun _ hc => hc

theorem delete_tidy (h : b.Tidy) (c : Cluster) : (b.delete c).Tidy := by
  unfold delete
  cases hfind : b.registry.find? c.key with
  | none => exact h
  | some n =>
    obtain ⟨card, hcard, -⟩ := h.linked.find? hfind
    -- The clean-up starts when its controller is stopping already.
    have htidy : (b.change n Card.stop).Tidy := h.change n (fun _ => rfl) fun _ _ => rfl
    exact htidy.spawn (stop_halted hcard)

/-- Every change leaves the board tidy. -/
theorem handle_tidy (h : b.Tidy) (change : Watch.Change) : (b.handle change).Tidy := by
  unfold handle
  rw [h.isOpen, if_neg Bool.false_ne_true]
  cases change with
  | added c => exact add_tidy h c
  | updated old c => exact update_tidy h c
  | deleted c => exact delete_tidy h c

end Board

namespace Fleet

/-- One task goes on, whichever it is: no declared spec changes. -/
theorem step_tidy {f : Fleet} (h : f.board.Tidy) (i : Nat) :
    (f.step i).board.Tidy ∧ (f.step i).board.specs = f.board.specs := by
  cases ht : f.tasks[i]? with
  | none =>
    rw [step_none ht]
    exact ⟨h, rfl⟩
  | some t =>
    have hordinary := h.ordinary t (List.mem_of_getElem? ht)
    cases t with
    | loop n first state =>
      rcases step_loop_cases ht with hboard | ⟨state', hboard⟩
      · rw [hboard]
        exact ⟨h, rfl⟩
      · rw [hboard]
        refine ⟨Board.Tidy.setTask ?_ i trivial, Board.afterLoop_specs n first _⟩
        unfold Board.afterLoop
        split_ifs
        · exact h.change n (fun _ => rfl) fun _ hc => hc
        · exact h
    | cleanUp n state =>
      obtain ⟨htidy, hhalted⟩ := Board.pollCleanUp_tidy h hordinary state
      rw [step_cleanUp_board ht]
      exact ⟨htidy.setTask i hhalted, Board.pollCleanUp_specs hordinary state⟩
    | _ => exact hordinary.elim

end Fleet

/-- An operator fed with what watching reports: the reports so far, as a classifier remembers them,
and the changes that it has not dealt with yet. -/
structure Tracking where
  classifier : Watch.Classifier := {}
  fleet : Fleet
  pending : List Watch.Change := []

namespace Tracking

/-- What can happen. The next report is classified once all changes have been dealt with; tasks go
on, time goes by and platforms change at any moment. -/
inductive Move : Tracking → Tracking → Prop
  | report (s : Tracking) (r : Watch.Report) (h : s.pending = []) :
      Move s { s with
        classifier := (s.classifier.classify r).2, pending := (s.classifier.classify r).1 }
  | deal (s : Tracking) (change : Watch.Change) (rest : List Watch.Change)
      (h : s.pending = change :: rest) :
      Move s { s with fleet := s.fleet.handle change, pending := rest }
  | progress (s : Tracking) (i : Nat) : Move s { s with fleet := s.fleet.step i }
  | elapse (s : Tracking) (moment : Nat) :
      Move s { s with fleet := { s.fleet with now := moment } }
  | outside (s : Tracking) (platforms : List (String × Platform)) :
      Move s { s with fleet := { s.fleet with platforms := platforms } }

/-- The changes that have not been dealt with are what the specs of the controllers at work lack. -/
structure Sound (s : Tracking) : Prop where
  keyed : s.classifier.Keyed
  tidy : s.fleet.board.Tidy
  agree : s.pending.foldl Watch.Change.apply s.fleet.board.specs = s.classifier.specs

/-- Each move keeps the registry and the classifier together. -/
theorem Move.sound {s s' : Tracking} (h : Move s s') (hs : s.Sound) : s'.Sound := by
  cases h with
  | report r hpending =>
    -- With nothing left to deal with, the two agree as they are.
    refine ⟨Watch.Classifier.classify_keyed hs.keyed r, hs.tidy, ?_⟩
    have hagree : s.fleet.board.specs = s.classifier.specs := by
      have h := hs.agree
      rwa [hpending] at h
    dsimp only
    rw [hagree]
    exact Watch.Classifier.classify_specs hs.keyed r
  | deal change rest hpending =>
    refine ⟨hs.keyed, ?_, ?_⟩
    · dsimp only
      rw [Fleet.handle_board]
      exact Board.handle_tidy hs.tidy change
    · have hagree := hs.agree
      rw [hpending, List.foldl_cons] at hagree
      dsimp only
      rw [Fleet.handle_board,
        Board.handle_specs hs.tidy.linked hs.tidy.isOpen hs.tidy.root change]
      exact hagree
  | progress i =>
    -- Loops and clean-ups change no spec, whenever they go on.
    obtain ⟨htidy, hspecs⟩ := Fleet.step_tidy hs.tidy i
    refine ⟨hs.keyed, htidy, ?_⟩
    dsimp only
    rw [hspecs]
    exact hs.agree
  | elapse moment => exact ⟨hs.keyed, ⟨hs.tidy.1, hs.tidy.2, hs.tidy.3, hs.tidy.4⟩, hs.agree⟩
  | outside platforms => exact ⟨hs.keyed, hs.tidy, hs.agree⟩

theorem sound_of_fresh {f : Fleet} (h : f.Fresh) : Sound { fleet := f } := by
  have hregistry : f.board.registry.entries = [] := h.registry
  have htasks : f.board.tasks = [] := h.tasks
  refine ⟨fun e he => absurd he List.not_mem_nil, ⟨fun e he => ?_, h.isOpen, h.root, fun t ht => ?_⟩,
    ?_⟩
  · rw [hregistry] at he
    exact absurd he List.not_mem_nil
  · rw [htasks] at ht
    exact absurd ht List.not_mem_nil
  · funext k
    have hnone : f.board.registry.find? k = none := by rw [Registry.find?, hregistry]; rfl
    simp only [List.foldl_nil, Board.specs, hnone]
    rfl

/-- They stay together in every run. -/
theorem runs_sound {s s' : Tracking} (h : Relation.ReflTransGen Move s s') (hs : s.Sound) :
    s'.Sound := by
  induction h with
  | refl => exact hs
  | tail _ hmove ih => exact hmove.sound ih

def AtWork (f : Fleet) (k : ClusterKey) (controller : Controller) : Prop :=
  ∃ n, f.registry.find? k = some n ∧ f.controller? n = some controller ∧
    controller.cancelled = false

/-- A spec stands under a key exactly if a controller with it is at work there. -/
theorem specs_eq_some (f : Fleet) (k : ClusterKey) (spec : ClusterSpec) :
    f.board.specs k = some spec ↔ ∃ controller, AtWork f k controller ∧ controller.spec = spec := by
  have hregistry : f.board.registry = f.registry := rfl
  unfold Board.specs AtWork
  rw [hregistry]
  cases hfind : f.registry.find? k with
  | none => simp
  | some n =>
    dsimp only
    rw [Fleet.board_cards]
    cases hc : f.controller? n with
    | none => simp [hc]
    | some controller =>
      have hcard : controller.card.cancelled = controller.cancelled := rfl
      have hspec : controller.card.spec = controller.spec := rfl
      cases hcancelled : controller.cancelled <;> simp [hc, hcard, hspec, hcancelled]

/-- Once the changes of every report so far have been dealt with, an object of a key is remembered
if and only if a controller is at work under that key, and the two have the same spec. -/
theorem registry_tracks {f : Fleet} {s : Tracking} (hfresh : f.Fresh)
    (hruns : Relation.ReflTransGen Move { fleet := f } s) (hdealt : s.pending = []) (k : ClusterKey) :
    ((∃ c, s.classifier.seen.find? k = some c) ↔ ∃ controller, AtWork s.fleet k controller) ∧
      ∀ c controller, s.classifier.seen.find? k = some c → AtWork s.fleet k controller →
        controller.spec = c.spec := by
  have hagree := (runs_sound hruns (sound_of_fresh hfresh)).agree
  rw [hdealt, List.foldl_nil] at hagree
  have hspecs : ∀ spec, (s.classifier.seen.find? k).map (·.spec) = some spec ↔
      ∃ controller, AtWork s.fleet k controller ∧ controller.spec = spec := by
    intro spec
    rw [← specs_eq_some, hagree]
    rfl
  -- Being remembered and being at work are both read off one map of specs.
  refine ⟨⟨?_, ?_⟩, ?_⟩
  · rintro ⟨c, hc⟩
    obtain ⟨controller, hwork, -⟩ := (hspecs c.spec).mp (by rw [hc]; rfl)
    exact ⟨controller, hwork⟩
  · rintro ⟨controller, hwork⟩
    obtain ⟨c, hc, -⟩ := Option.map_eq_some_iff.mp ((hspecs controller.spec).mpr ⟨_, hwork, rfl⟩)
    exact ⟨c, hc⟩
  · intro c controller hc hwork
    have hspec := (hspecs controller.spec).mpr ⟨controller, hwork, rfl⟩
    rw [hc, Option.map_some, Option.some.injEq] at hspec
    exact hspec.symm

def told (s : Tracking) (r : Watch.Report) : Tracking where
  classifier := (s.classifier.classify r).2
  fleet := s.fleet.handleAll (s.classifier.classify r).1

theorem deal_runs (classifier : Watch.Classifier) (f : Fleet) (pending : List Watch.Change) :
    Relation.ReflTransGen Move { classifier := classifier, fleet := f, pending := pending }
      { classifier := classifier, fleet := f.handleAll pending } := by
  induction pending generalizing f with
  | nil => exact .refl
  | cons change rest ih => exact .head (.deal _ change rest rfl) (ih (f.handle change))

/-- A report whose changes are dealt with one after another is a run. -/
theorem told_runs (s : Tracking) (r : Watch.Report) (h : s.pending = []) :
    Relation.ReflTransGen Move s (s.told r) :=
  .head (.report s r h) (deal_runs _ _ _)

def sample (size : UInt32) : Cluster where
  metadata := { name := some "demo", scope := some "default" }
  spec := { size := size }

def reseen : Tracking :=
  let seen : Tracking := told { fleet := { draws := ⟨id, 0⟩ } } (.applied (sample 1))
  let lost : Tracking := { seen with fleet := seen.fleet.step 0 }.told (.deleted (sample 1))
  { lost with fleet := lost.fleet.step 1 }.told (.applied (sample 2))

theorem reseen_runs : Relation.ReflTransGen Move { fleet := { draws := ⟨id, 0⟩ } } reseen :=
  (((told_runs _ (.applied (sample 1)) rfl).tail (.progress _ 0)).trans
    (told_runs _ (.deleted (sample 1)) rfl)).tail (.progress _ 1) |>.trans
    (told_runs _ (.applied (sample 2)) rfl)

theorem registry_tracks_reseen :
    ∃ controller, AtWork reseen.fleet ⟨"default", "demo"⟩ controller ∧
      controller.spec = { size := 2 } := by
  have hfresh : Fleet.Fresh { draws := ⟨id, 0⟩ } := ⟨rfl, rfl, rfl, rfl, rfl⟩
  obtain ⟨hseen, hspec⟩ := registry_tracks hfresh reseen_runs rfl ⟨"default", "demo"⟩
  have hfind : reseen.classifier.seen.find? ⟨"default", "demo"⟩ = some (sample 2) := rfl
  obtain ⟨controller, hwork⟩ := hseen.mp ⟨_, hfind⟩
  exact ⟨controller, hwork, hspec _ controller hfind hwork⟩

end Tracking
end NatsFleet
