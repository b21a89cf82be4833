import NatsFleet.Proofs.Identities
import NatsFleet.Proofs.Owners
import NatsFleet.Proofs.Tracking

/-!
The controller at work for an object has the identity of the first object that was reported under its
key since the key was last gone. An object that takes the place of another one, with a new UID, while
nothing was watched has the controller of the old one, and its objects are owned by the old one.
-/
namespace NatsFleet

abbrev IdentityMap := ClusterKey → Option Identity

/-- What a change makes of the identities at work: one that is there stays until it is deleted. -/
def Watch.Change.settle (m : IdentityMap) : Watch.Change → IdentityMap
  | .added c | .updated _ c =>
    if (m c.key).isNone then Function.update m c.key (some c.identity) else m
  | .deleted c => Function.update m c.key none

namespace Fleet

variable {f : Fleet}

def incumbents (f : Fleet) : IdentityMap := f.board.under f.identities

/-- A controller that is accepted has the identity of its cluster. -/
theorem add_identities (hopen : f.phase.isClosed = false) (c : Cluster) : (f.add c).2.identities =
    if (f.board.active? c.key).isNone then f.identities ++ [c.identity] else f.identities := by
  -- Making the namespace known changes neither side, so it can be left out.
  have hplace : (f.setPlatform c.namespaceName (f.platform c.namespaceName)).identities =
      f.identities := rfl
  have hboard : (f.setPlatform c.namespaceName (f.platform c.namespaceName)).board = f.board := rfl
  have hopen' : (f.setPlatform c.namespaceName (f.platform c.namespaceName)).phase.isClosed = false :=
    hopen
  unfold add
  rw [← hplace, ← hboard]
  dsimp only
  generalize f.setPlatform c.namespaceName (f.platform c.namespaceName) = g at hopen'
  have hcancelled : g.board.isCancelled = g.isCancelled := funext (board_isCancelled g)
  have hregistry : g.board.registry = g.registry := rfl
  rw [Board.active?_isNone, hcancelled, hregistry, hopen', if_neg Bool.false_ne_true]
  unfold Registry.insert
  cases hholds : g.registry.holds g.isCancelled c.key with
  | true => rfl
  | false =>
    rw [if_neg Bool.false_ne_true]
    refine (spawnLoop_identities _ _).trans ?_
    simp [identities, note, Controller.ofCluster]

/-- A new spec changes no identity. -/
theorem update_identities {n : Nat} {c : Cluster} (hactive : f.active? c.key = some n) :
    (f.update c).identities = f.identities := by
  unfold update
  rw [hactive]
  dsimp only
  cases hc : f.controller? n with
  | none => rfl
  | some controller =>
    have hidentity : (controller.update c.spec).2.identity = controller.identity := by
      unfold Controller.update
      dsimp only
      split_ifs <;> rfl
    exact identities_setController hc hidentity

theorem delete_identities (f : Fleet) (c : Cluster) : (f.delete c).identities = f.identities := by
  unfold delete
  split
  · rfl
  · exact stop_identities (f.note _) _

/-- A cluster that is added founds its key, unless a controller is at work there. -/
theorem add_incumbents (h : f.board.Tidy) (c : Cluster) :
    (f.add c).2.incumbents = (Watch.Change.added c).settle f.incumbents := by
  rw [incumbents, add_board, add_identities h.isOpen,
    Board.under_add h.linked h.isOpen h.root f.identities_length]
  rfl

/-- An update leaves the founder of a key in its place. -/
theorem update_incumbents (h : f.board.Tidy) (old c : Cluster) :
    (f.update c).incumbents = (Watch.Change.updated old c).settle f.incumbents := by
  cases hactive : f.board.active? c.key with
  | none =>
    have hnone : f.active? c.key = none := f.board_active? c.key ▸ hactive
    unfold update
    rw [hnone]
    exact add_incumbents (f := f.note _) h c
  | some n =>
    -- The identity of the controller at work is left alone, whatever the object is now.
    have hsome : f.active? c.key = some n := f.board_active? c.key ▸ hactive
    have hboard : (f.update c).board.active? = f.board.active? := by
      rw [update_board, Board.update, hactive]
      exact Board.active?_change n fun _ _ => rfl
    have hkept : (f.incumbents c.key).isNone = false := by
      rw [incumbents, Board.under_isNone h.linked f.identities_length, hactive]
      rfl
    rw [incumbents, update_identities hsome, Board.under_congr hboard, Watch.Change.settle, hkept]
    rfl

/-- A deletion leaves the key without one. -/
theorem delete_incumbents (h : f.board.Tidy) (c : Cluster) :
    (f.delete c).incumbents = (Watch.Change.deleted c).settle f.incumbents := by
  rw [incumbents, delete_board, delete_identities, Board.delete]
  cases hfind : f.board.registry.find? c.key with
  | none =>
    have hnone : f.incumbents c.key = none := by
      unfold incumbents Board.under Board.active?
      rw [hfind]
      rfl
    exact (Function.update_eq_self_iff.mpr hnone.symm).symm
  | some n => exact Board.under_stop h.linked hfind f.identities

/-- What dealing with a change does to the identities at work. -/
theorem handle_incumbents (h : f.board.Tidy) (change : Watch.Change) :
    (f.handle change).incumbents = change.settle f.incumbents := by
  have hopen : f.phase.isClosed = false := h.isOpen
  unfold handle
  rw [hopen, if_neg Bool.false_ne_true]
  cases change with
  | added c => exact add_incumbents h c
  | updated old c => exact update_incumbents h old c
  | deleted c => exact delete_incumbents h c

/-- A task that goes on, whichever it is, leaves the identities at work as they are. -/
theorem step_incumbents (h : f.board.Tidy) (i : Nat) : (f.step i).incumbents = f.incumbents := by
  cases ht : f.tasks[i]? with
  | none => rw [step_none ht]
  | some t =>
    have hordinary := h.ordinary t (List.mem_of_getElem? ht)
    have hrun : (f.step i).identities = (f.run t).2.identities := by
      unfold step
      rw [ht]
      rfl
    cases t with
    | loop n first state =>
      have hidentities := hrun.trans (f.pollLoop_identities n first state)
      rcases step_loop_cases ht with hboard | ⟨state', hboard⟩
      · rw [incumbents, hidentities, hboard]
        rfl
      · rw [incumbents, hidentities, hboard]
        exact Board.under_congr (Board.active?_afterLoop n first state') _
    | cleanUp n state =>
      have hidentities := hrun.trans (f.pollCleanUp_identities n state)
      rw [incumbents, hidentities, step_cleanUp_board ht]
      exact Board.under_congr (Board.active?_pollCleanUp hordinary state) _
    | _ => exact hordinary.elim

end Fleet

namespace Watch.Classifier

variable {s : Classifier} {founders : ClusterKey → Option Cluster}

def founded (s : Classifier) (founders : ClusterKey → Option Cluster) : ClusterKey → Option Cluster :=
  fun k => (s.seen.find? k).map fun c => (founders k).getD c

def Founded (s : Classifier) (founders : ClusterKey → Option Cluster) : Prop :=
  ∀ k, (founders k).isSome = (s.seen.find? k).isSome

theorem founded_self (h : s.Founded founders) : s.founded founders = founders := by
  funext k
  unfold founded
  cases hfind : s.seen.find? k with
  | none =>
    have hfounder : founders k = none := by simpa [hfind] using h k
    exact hfounder.symm
  | some c =>
    have hfounder : (founders k).isSome = true := by rw [h k, hfind]; rfl
    obtain ⟨founder, hfounder⟩ := Option.isSome_iff_exists.mp hfounder
    rw [hfounder]
    rfl

theorem founded_founded (s : Classifier) (founders : ClusterKey → Option Cluster) :
    s.Founded (s.founded founders) := by
  intro k
  unfold founded
  rw [Option.isSome_map]

def identities (founders : ClusterKey → Option Cluster) : IdentityMap :=
  fun k => (founders k).map (·.identity)

/-- What a reported object settles is who was the first of its key. -/
theorem apply_settle (h : s.Founded founders) (c : Cluster) :
    (s.apply c).1.foldl Change.settle (identities founders) =
      identities ((s.apply c).2.founded founders) := by
  have hput (k : ClusterKey) : (s.apply c).2.founded founders k =
      if c.key = k then some ((founders k).getD c) else founders k := by
    have hself := congrFun (founded_self h) k
    unfold founded at hself ⊢
    simp only [apply, KeyMap.find?_put]
    split_ifs
    · rfl
    · exact hself
  have hk := h c.key
  cases hold : s.seen.find? c.key with
  | none =>
    -- The object is the first one of its key.
    have hnone : founders c.key = none := by simpa [hold] using hk
    have hadded : (s.apply c).1 = [.added c] := by simp [apply, hold]
    have hfree : (identities founders c.key).isNone = true := by rw [identities, hnone]; rfl
    rw [hadded, List.foldl_cons, List.foldl_nil, Change.settle, if_pos hfree]
    funext k
    rw [Function.update_apply, identities, identities, hput]
    by_cases hck : c.key = k
    · subst hck
      simp [hnone]
    · simp [hck, Ne.symm hck]
  | some old =>
    -- The key has its first object already, so that this one changes nothing.
    obtain ⟨founder, hfounder⟩ := Option.isSome_iff_exists.mp (hk.trans (by rw [hold]; rfl))
    have htaken : (identities founders c.key).isNone = false := by rw [identities, hfounder]; rfl
    have hfounders : (s.apply c).2.founded founders = founders := by
      funext k
      rw [hput]
      split_ifs with hck
      · rw [← hck, hfounder]
        rfl
      · rfl
    rw [hfounders]
    simp only [apply, hold]
    split_ifs
    · rw [List.foldl_cons, List.foldl_nil, Change.settle, htaken]
      rfl
    · rfl

/-- The changes that a report amounts to turn the identities of the first objects before it into those
of the first objects after it. -/
theorem classify_settle (hkeyed : s.Keyed) (h : s.Founded founders) (r : Report) :
    (s.classify r).1.foldl Change.settle (identities founders) =
      identities ((s.classify r).2.founded founders) := by
  cases r with
  | listing => exact congrArg identities (founded_self h).symm
  | listed c =>
    exact apply_settle (s := { s with relisted := s.relisted.map (c.key :: ·) }) h c
  | complete =>
    unfold classify
    dsimp only
    split
    · exact congrArg identities (founded_self h).symm
    · rename_i relisted hrelisted
      have hnone : ∀ k, s.seen.find? k = none → identities founders k = none := by
        intro k hfind
        have hfounder : founders k = none := by simpa [hfind] using h k
        rw [identities, hfounder]
        rfl
      funext k
      have hfilter := KeyMap.find?_filter s.seen k fun k' => decide (k' ∈ relisted)
      simp only [decide_eq_true_eq] at hfilter
      rw [List.foldl_map]
      refine (erase_gone hkeyed relisted hnone k).trans ?_
      have hself := congrFun (founded_self h) k
      unfold founded at hself
      simp only [identities, founded, hfilter]
      split_ifs
      · rw [hself]
      · rfl
  | applied c => exact apply_settle h c
  | deleted c =>
    funext k
    have hself := congrFun (founded_self h) k
    unfold founded at hself
    simp only [classify, List.foldl_cons, List.foldl_nil, Change.settle, identities, founded,
      KeyMap.find?_erase, Function.update_apply, eq_comm]
    split_ifs
    · rfl
    · rw [hself]

end Watch.Classifier

/-- The identity under a key is that of the controller at work there. -/
theorem Fleet.incumbents_eq_some (f : Fleet) (k : ClusterKey) (id : Identity) :
    f.incumbents k = some id ↔
      ∃ controller, Tracking.AtWork f k controller ∧ controller.identity = id := by
  have hregistry : f.board.registry = f.registry := rfl
  unfold incumbents Board.under Board.active? Tracking.AtWork
  rw [hregistry]
  cases hfind : f.registry.find? k with
  | none => simp
  | some n =>
    dsimp only
    rw [board_isCancelled, isCancelled]
    cases hc : f.controller? n with
    | none => simp [hc]
    | some controller =>
      cases hcancelled : controller.cancelled <;> simp [hc, hcancelled, identities_getElem?]

/-- An operator fed with what watching reports, and of each key that is remembered the first object that
was reported since it was last gone. -/
structure Lineage where
  tracking : Tracking
  founders : ClusterKey → Option Cluster := fun _ => none

namespace Lineage

def next (s : Lineage) (t : Tracking) : Lineage := ⟨t, t.classifier.founded s.founders⟩

inductive Move (s : Lineage) : Lineage → Prop
  | mk {t : Tracking} (h : s.tracking.Move t) : Move s (s.next t)

/-- The changes that have not been dealt with are what the identities at work lack. -/
structure Sound (s : Lineage) : Prop where
  tracking : s.tracking.Sound
  founded : s.tracking.classifier.Founded s.founders
  named : ∀ k c, s.founders k = some c → c.key = k
  agree : s.tracking.pending.foldl Watch.Change.settle s.tracking.fleet.incumbents =
    Watch.Classifier.identities s.founders

/-- The first object of a key has this key. -/
theorem founded_named {classifier : Watch.Classifier} (hkeyed : classifier.Keyed)
    {founders : ClusterKey → Option Cluster} (h : ∀ k c, founders k = some c → c.key = k)
    {k : ClusterKey} {c : Cluster} (hc : classifier.founded founders k = some c) : c.key = k := by
  obtain ⟨seen, hseen, rfl⟩ := Option.map_eq_some_iff.mp hc
  cases hfounder : founders k with
  | none => exact hkeyed _ (KeyMap.mem_of_find? _ _ hseen)
  | some founder => exact h k founder hfounder

/-- Whatever happens, the identities at work lack only the changes that have not been dealt with. -/
theorem Move.sound {s s' : Lineage} (h : s.Move s') (hs : s.Sound) : s'.Sound := by
  obtain ⟨hmove⟩ := h
  have htracking := hmove.sound hs.tracking
  have hself := Watch.Classifier.founded_self hs.founded
  have hagree := hs.agree
  refine ⟨htracking, Watch.Classifier.founded_founded _ _,
    fun k c => founded_named htracking.keyed hs.named, ?_⟩
  cases hmove with
  | report r hpending =>
    rw [hpending, List.foldl_nil] at hagree
    dsimp only [next]
    rw [hagree]
    exact Watch.Classifier.classify_settle hs.tracking.keyed hs.founded r
  | deal change rest hpending =>
    rw [hpending, List.foldl_cons] at hagree
    dsimp only [next]
    rw [hself, Fleet.handle_incumbents hs.tracking.tidy change]
    exact hagree
  | progress i =>
    -- What is remembered stays, and so do those at work.
    dsimp only [next]
    rw [hself, Fleet.step_incumbents hs.tracking.tidy i]
    exact hagree
  | elapse moment =>
    dsimp only [next]
    rw [hself]
    exact hagree
  | outside platforms =>
    dsimp only [next]
    rw [hself]
    exact hagree

theorem sound_of_fresh {f : Fleet} (h : f.Fresh) : Sound { tracking := { fleet := f } } := by
  refine ⟨Tracking.sound_of_fresh h, fun _ => rfl, (fun _ _ hc => by cases hc), ?_⟩
  have hregistry : f.board.registry.entries = [] := h.registry
  funext k
  have hnone : f.board.registry.find? k = none := by rw [Registry.find?, hregistry]; rfl
  simp only [List.foldl_nil, Fleet.incumbents, Board.under, Board.active?, hnone]
  rfl

theorem runs_sound {s s' : Lineage} (h : Relation.ReflTransGen Move s s') (hs : s.Sound) :
    s'.Sound := by
  induction h with
  | refl => exact hs
  | tail _ hmove ih => exact hmove.sound ih

/-- Two objects of one key differ as owners by their uid only. -/
theorem ownerReference_eq_iff {c d : Cluster} (hkey : c.key = d.key) :
    c.ownerReference = d.ownerReference ↔ c.metadata.uid = d.metadata.uid := by
  have hname : c.name = d.name := congrArg ClusterKey.name hkey
  unfold Cluster.ownerReference
  rw [hname]
  cases c.metadata.uid <;> cases d.metadata.uid <;> simp

/-- Once the changes of every report have been dealt with, a controller is at work for each object that
is remembered, and whatever its passes ask for is owned by the first object that was reported under its
key. That is the object that is remembered now if and only if the two have the same UID. -/
theorem owner_of_founder {f : Fleet} {s : Lineage} (hfresh : f.Fresh)
    (hruns : Relation.ReflTransGen Move { tracking := { fleet := f } } s)
    (hdealt : s.tracking.pending = []) {k : ClusterKey} {c : Cluster}
    (hseen : s.tracking.classifier.seen.find? k = some c) :
    ∃ founder controller, s.founders k = some founder ∧
      Tracking.AtWork s.tracking.fleet k controller ∧
      controller.identity.owner = founder.ownerReference ∧
      (∀ stage request m, Pass.Reached controller.identity stage →
        stage.request? controller.identity = some request → request.metadata? = some m →
          m.ownerReferences = founder.ownerReference.map fun o => [o]) ∧
      (founder.ownerReference = c.ownerReference ↔ founder.metadata.uid = c.metadata.uid) := by
  have hsound := runs_sound hruns (sound_of_fresh hfresh)
  have hagree := hsound.agree
  rw [hdealt, List.foldl_nil] at hagree
  obtain ⟨founder, hfounder⟩ := Option.isSome_iff_exists.mp
    ((hsound.founded k).trans (by rw [hseen]; rfl))
  have hincumbent : s.tracking.fleet.incumbents k = some founder.identity := by
    rw [hagree, Watch.Classifier.identities, hfounder]
    rfl
  obtain ⟨controller, hwork, hidentity⟩ := (Fleet.incumbents_eq_some _ _ _).mp hincumbent
  have howner : controller.identity.owner = founder.ownerReference := by
    rw [hidentity]
    rfl
  refine ⟨founder, controller, hfounder, hwork, howner, ?_, ?_⟩
  · intro stage request m hreached hrequest hm
    have howned : m.OwnedBy controller.identity := hreached.ownedBy hrequest hm
    rw [← howner]
    exact howned
  · have hcached : c.key = k := hsound.tracking.keyed _ (KeyMap.mem_of_find? _ _ hseen)
    exact ownerReference_eq_iff ((hsound.named k founder hfounder).trans hcached.symm)

def report (s : Lineage) (r : Watch.Report) : Lineage :=
  s.next { s.tracking with
    classifier := (s.tracking.classifier.classify r).2
    pending := (s.tracking.classifier.classify r).1 }

def deal (s : Lineage) : Lineage :=
  match s.tracking.pending with
  | [] => s
  | change :: rest =>
    s.next { s.tracking with fleet := s.tracking.fleet.handle change, pending := rest }

theorem report_move {s : Lineage} (h : s.tracking.pending = []) (r : Watch.Report) :
    s.Move (s.report r) := .mk (.report _ r h)

theorem deal_runs (s : Lineage) : Relation.ReflTransGen Move s s.deal := by
  unfold deal
  split
  · exact .refl
  · rename_i change rest hpending
    exact .single (.mk (.deal _ change rest hpending))

def born (uid : String) (size : UInt32) : Cluster where
  metadata := { name := some "demo", scope := some "default", uid := some uid }
  spec := { size := size }

def founding : Lineage :=
  ((report { tracking := { fleet := { draws := ⟨id, 0⟩ } } } .listing).report
    (.listed (born "uid-1" 1))).deal

def recreated : Lineage :=
  ((((founding.report .complete).report .listing).report (.listed (born "uid-2" 2))).deal).report
    .complete

/-- The end of a listing that has every object tells of no deletion. -/
theorem report_complete {s : Lineage} {relisted : List ClusterKey}
    (h : s.tracking.classifier.relisted = some relisted)
    (hall : ∀ e ∈ s.tracking.classifier.seen, e.1 ∈ relisted) :
    (s.report .complete).tracking.pending = [] := by
  have hgone := Watch.Classifier.gone_eq_nil hall
  have hclassify : (s.tracking.classifier.classify .complete).1 =
      (s.tracking.classifier.gone relisted).map Watch.Change.deleted := by
    unfold Watch.Classifier.classify
    rw [h]
  rw [report, next, hclassify, hgone]
  rfl

theorem recreated_runs :
    Relation.ReflTransGen Move { tracking := { fleet := { draws := ⟨id, 0⟩ } } } recreated := by
  have hlisting := Relation.ReflTransGen.single
    (report_move (s := { tracking := { fleet := { draws := ⟨id, 0⟩ } } }) rfl .listing)
  have hfounding := (hlisting.tail (report_move rfl (.listed (born "uid-1" 1)))).trans (deal_runs _)
  have hsettled := hfounding.tail (report_move rfl .complete)
  have hrelisted : founding.tracking.classifier.relisted = some [⟨"default", "demo"⟩] := rfl
  have hdealt := report_complete hrelisted (by decide)
  have hagain := (hsettled.tail (report_move hdealt .listing)).tail
    (report_move rfl (.listed (born "uid-2" 2)))
  exact (hagain.trans (deal_runs _)).tail (report_move rfl .complete)

theorem recreated_dealt : recreated.tracking.pending = [] := by
  have hrelisted : (((founding.report .complete).report .listing).report
      (.listed (born "uid-2" 2))).deal.tracking.classifier.relisted =
        some [⟨"default", "demo"⟩] := rfl
  exact report_complete hrelisted (by decide)

/-- The controller has the spec of the second object, and works for the first one. -/
theorem owner_of_founder_recreated :
    ∃ controller, Tracking.AtWork recreated.tracking.fleet ⟨"default", "demo"⟩ controller ∧
      controller.spec = { size := 2 } ∧
      ∀ stage request m, Pass.Reached controller.identity stage →
        stage.request? controller.identity = some request → request.metadata? = some m →
          m.ownerReferences = (born "uid-1" 1).ownerReference.map fun o => [o] := by
  have hfresh : Fleet.Fresh { draws := ⟨id, 0⟩ } := ⟨rfl, rfl, rfl, rfl, rfl⟩
  have hseen : recreated.tracking.classifier.seen.find? ⟨"default", "demo"⟩ =
      some (born "uid-2" 2) := rfl
  obtain ⟨founder, controller, hfounder, ⟨n, hfind, hc, hworks⟩, -, howned, -⟩ :=
    owner_of_founder hfresh recreated_runs recreated_dealt hseen
  have hfirst : recreated.founders ⟨"default", "demo"⟩ = some (born "uid-1" 1) := rfl
  obtain rfl : founder = born "uid-1" 1 := Option.some.inj (hfounder.symm.trans hfirst)
  obtain rfl : 0 = n := Option.some.inj hfind
  have hspec : (recreated.tracking.fleet.controller? 0).map (·.spec) = some { size := 2 } := rfl
  rw [hc] at hspec
  exact ⟨controller, ⟨0, hfind, hc, hworks⟩, Option.some.inj hspec, howned⟩

/-- The objects that the controller asks for are not owned by the object that is remembered, though its
spec has arrived. -/
theorem recreated_disowned : ∃ controller stage request m,
    Relation.ReflTransGen Move { tracking := { fleet := { draws := ⟨id, 0⟩ } } } recreated ∧
    recreated.tracking.pending = [] ∧
    recreated.tracking.classifier.seen.find? ⟨"default", "demo"⟩ = some (born "uid-2" 2) ∧
    Tracking.AtWork recreated.tracking.fleet ⟨"default", "demo"⟩ controller ∧
    controller.spec = (born "uid-2" 2).spec ∧ Pass.Reached controller.identity stage ∧
    stage.request? controller.identity = some request ∧ request.metadata? = some m ∧
    m.ownerReferences ≠ (born "uid-2" 2).ownerReference.map fun o => [o] := by
  refine ⟨_, _, _, _, recreated_runs, recreated_dealt, rfl, ⟨0, rfl, rfl, rfl⟩, rfl,
    .start { size := 2 }, rfl, rfl, ?_⟩
  decide

end Lineage
end NatsFleet
