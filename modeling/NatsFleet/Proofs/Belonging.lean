import NatsFleet.Proofs.Partition
import NatsFleet.Proofs.Selection

/-!
What belongs to a cluster. The names and the labels of a pod tell which cluster it was built for, and a
pass that lists only pods of its own cluster asks for nothing that belongs to another one.
-/
namespace NatsFleet

namespace Naming

theorem letters_length (n : Nat) (d : Draws) : (letters n d).1.length = n := by
  induction n generalizing d with
  | zero => rfl
  | succ n ih =>
    have hrest := ih d.next.2
    simp only [letters, List.length_cons, hrest]

def Generates (cluster name : String) : Prop := ∃ d, (generate cluster d).1 = name

/-- A generated name is that of its cluster, a dash and five letters, so the cluster can be read off
from the right, whatever its own name looks like. -/
theorem cluster_eq_of_generates {a b name : String} (ha : Generates a name)
    (hb : Generates b name) : a = b := by
  obtain ⟨d, rfl⟩ := ha
  obtain ⟨e, he⟩ := hb
  have hsuffix : (letters suffixLength d).1.length = (letters suffixLength e).1.length := by
    rw [letters_length, letters_length]
  have hchars := congrArg String.toList he
  simp only [generate, withSuffix, String.toList_append, String.toList_ofList] at hchars
  have hlead := (List.append_inj' hchars hsuffix.symm).1
  exact (String.toList_inj.mp (List.append_inj_left' hlead rfl)).symm

/-- Every planned name is a generated one. -/
theorem plan_generates {cluster : String} {fuel : Nat} {taken : List String} {count : Nat}
    {d d' : Draws} {names : List String} (h : plan cluster fuel taken count d = some (names, d')) :
    ∀ name ∈ names, Generates cluster name := by
  -- Each attempt finds one of the names or takes a name that is in use.
  fun_induction plan cluster fuel taken count d generalizing names d' with
  | case1 =>
    obtain ⟨rfl, -⟩ := Prod.mk.inj (Option.some.inj h)
    intro name hname
    cases hname
  | case2 => cases h
  | case3 fuel taken count d name d'' hname htaken ih => exact ih h
  | case4 fuel taken count d name d'' hname htaken ih =>
    simp only [Option.bind_eq_bind, Option.bind_eq_some_iff, Prod.exists, Option.some.injEq,
      Prod.mk.injEq] at h
    obtain ⟨more, d''', hmore, rfl, -⟩ := h
    intro other hother
    rcases List.mem_cons.mp hother with rfl | hother
    · exact ⟨d, congrArg Prod.fst hname⟩
    · exact ih hmore other hother

end Naming

/-- What the builder of a pod lays down about it; all else is up to the platform. -/
def Pod.declared (pod : Pod) : Pod where
  metadata := {
    name := pod.metadata.name
    scope := pod.metadata.scope
    labels := pod.metadata.labels
    ownerReferences := pod.metadata.ownerReferences }
  spec := pod.spec

def Pod.BuiltFor (cluster : String) (pod : Pod) : Prop :=
  ∃ id spec draws, id.name = cluster ∧
    pod.declared = Manifest.pod id spec (Naming.generate cluster draws).1

namespace Pod.BuiltFor

variable {a b cluster : String} {pod pod' : Pod}

/-- A pod is built for the cluster by whose name it is generated. -/
theorem manifest (id : Identity) (spec : ClusterSpec) (d : Draws) :
    (Manifest.pod id spec (Naming.generate id.name d).1).BuiltFor id.name := ⟨id, spec, d, rfl, rfl⟩

/-- What the platform adds to a pod does not matter. -/
theorem congr (h : pod.BuiltFor cluster) (hdeclared : pod'.declared = pod.declared) :
    pod'.BuiltFor cluster := by
  obtain ⟨id, spec, d, hid, hpod⟩ := h
  exact ⟨id, spec, d, hid, hdeclared.trans hpod⟩

theorem generates (h : pod.BuiltFor cluster) : Naming.Generates cluster pod.name := by
  obtain ⟨id, spec, d, -, hpod⟩ := h
  have hname : pod.metadata.name = some (Naming.generate cluster d).1 :=
    congrArg (fun p => p.metadata.name) hpod
  refine ⟨d, ?_⟩
  rw [Pod.name, ObjectMeta.anyName, hname]
  rfl

/-- A pod is built for one cluster only. -/
theorem cluster_eq (ha : pod.BuiltFor a) (hb : pod.BuiltFor b) : a = b :=
  Naming.cluster_eq_of_generates ha.generates hb.generates

/-- The labels of a pod tell which cluster it was built for. -/
theorem label_cluster (h : pod.BuiltFor cluster) :
    pod.metadata.label? Layout.appLabel = some Layout.appValue ∧
      pod.metadata.label? Layout.clusterLabel = some cluster := by
  obtain ⟨id, spec, d, rfl, hpod⟩ := h
  have hlabel (name : String) : pod.metadata.label? name =
      (Manifest.pod id spec (Naming.generate id.name d).1).metadata.label? name :=
    congrArg (fun p => p.metadata.label? name) hpod
  rw [hlabel, hlabel, Platform.label?_pod, Platform.label?_pod]
  simp [Manifest.podSelector, Layout.appLabel, Layout.clusterLabel, Layout.revisionLabel,
    Layout.versionLabel, List.lookup_cons]

/-- A selector picks the pods that were built for its cluster, and no pods of other clusters. -/
theorem selects_iff (h : pod.BuiltFor a) (hcomma : ',' ∉ b.toList) :
    Platform.selects (Manifest.labelSelector b) pod = true ↔ b = a := by
  obtain ⟨happ, hcluster⟩ := h.label_cluster
  rw [Platform.selects_labelSelector b hcomma]
  simp only [Platform.carries, Manifest.podSelector, List.all_cons, List.all_nil, happ, hcluster,
    beq_self_eq_true, Bool.true_and, Bool.and_true, beq_iff_eq, Option.some.injEq]
  exact eq_comm

end Pod.BuiltFor

/-- A request that is about pods is about those of the controller's own cluster. -/
def Request.Concerns (id : Identity) : Request → Prop
  | .createPod pod => ∃ spec d, pod = Manifest.pod id spec (Naming.generate id.name d).1
  | .listPods selector => selector = Manifest.labelSelector id.name
  | .deletePod name => Naming.Generates id.name name
  | _ => True

namespace Pass

variable {id : Identity} {stage : Stage} {fuel : Nat} {d : Desk}

def Stage.Concerns (id : Identity) : Stage → Prop
  | .removing _ _ todo => ∀ r ∈ todo, Naming.Generates id.name r.name
  | .configuring w => ∀ name ∈ w.planned, Naming.Generates id.name name
  | .creating _ todo _ => ∀ name ∈ todo, Naming.Generates id.name name
  | _ => True

theorem Stage.Concerns.request (h : stage.Concerns id) {request : Request}
    (hrequest : stage.request? id = some request) : request.Concerns id := by
  cases stage with
  | services todo =>
    cases todo with
    | nil => cases hrequest
    | cons service rest =>
      cases hrequest
      trivial
  | listing spec =>
    cases hrequest
    rfl
  | removing spec plan todo =>
    cases todo with
    | nil => cases hrequest
    | cons r rest =>
      cases hrequest
      exact h r List.mem_cons_self
  | creating w todo records =>
    cases todo with
    | nil => cases hrequest
    | cons name rest =>
      cases hrequest
      obtain ⟨d, rfl⟩ := h name List.mem_cons_self
      exact ⟨w.spec, d, rfl⟩
  | configuring w => cases hrequest; trivial
  | publishing status => cases hrequest; trivial
  | naming => cases hrequest
  | finished => cases hrequest

theorem conclude_concerns (w : Work) (records : List PodRecord) (d : Desk) :
    (conclude w records d).1.Concerns id := by
  unfold conclude
  dsimp only
  split <;> trivial

theorem create_concerns {w : Work} {todo : List String} (records : List PodRecord) (d : Desk)
    (h : ∀ name ∈ todo, Naming.Generates id.name name) :
    (create w todo records d).1.Concerns id := by
  cases todo with
  | nil => exact conclude_concerns w records d
  | cons name rest => exact h

theorem configure_concerns {w : Work} (d : Desk)
    (h : ∀ name ∈ w.planned, Naming.Generates id.name name) :
    (configure id w d).1.Concerns id := by
  unfold configure
  split
  · exact create_concerns _ d h
  · exact h

/-- The names that a pass plans are generated for its own cluster. -/
theorem name_concerns (fuel : Nat) (spec : ClusterSpec) (plan : Plan) (d : Desk) :
    (name id fuel spec plan d).1.Concerns id := by
  unfold name
  split
  · trivial
  · rename_i planned draws hplanned
    exact configure_concerns _ (Naming.plan_generates hplanned)

/-- From its removals on a pass is about pods of its own cluster. -/
theorem remove_concerns (fuel : Nat) (spec : ClusterSpec) (plan : Plan) {todo : List Removal} (d : Desk)
    (h : ∀ r ∈ todo, Naming.Generates id.name r.name) :
    (remove id fuel spec plan todo d).1.Concerns id := by
  cases todo with
  | nil => exact name_concerns fuel spec plan d
  | cons r rest => exact h

/-- The removals of a plan name pods of its listing. -/
theorem removal_listed (spec : ClusterSpec) {listed : List Pod} {r : Removal}
    (hr : r ∈ (Plan.ofListing id spec listed).removals) : ∃ pod ∈ listed, pod.name = r.name := by
  have hperm := Plan.removals_append_kept_names id spec listed
  have hname : r.name ∈ (Plan.present listed).map Pod.name :=
    hperm.subset (List.mem_append_left _ (List.mem_map_of_mem hr))
  obtain ⟨pod, hpod, hpodname⟩ := List.mem_map.mp hname
  exact ⟨pod, List.mem_of_mem_filter hpod, hpodname⟩

/-- A pass goes on with its own cluster, if what it lists are pods of its own cluster. -/
theorem resume_concerns (h : stage.Concerns id) (fuel : Nat) (reply : Reply) (d : Desk)
    (hlisted : ∀ spec listed, stage = .listing spec → reply = .ok listed →
      ∀ pod ∈ listed, Naming.Generates id.name pod.name) :
    (resume id fuel stage reply d).1.Concerns id := by
  cases stage with
  | services todo =>
    cases todo with
    | nil => trivial
    | cons service rest =>
      unfold resume
      dsimp only
      split <;> trivial
  | listing spec =>
    cases reply with
    | error e => trivial
    | ok listed =>
      apply remove_concerns
      intro r hr
      obtain ⟨pod, hpod, hname⟩ := removal_listed spec hr
      exact hname ▸ hlisted spec listed rfl rfl pod hpod
  | removing spec plan todo =>
    cases todo with
    | nil => exact name_concerns _ _ _ _
    | cons r rest => exact remove_concerns _ _ _ _ fun r' hr' => h r' (List.mem_cons_of_mem _ hr')
  | naming => trivial
  | configuring w => exact create_concerns _ _ h
  | creating w todo records =>
    cases todo with
    | nil => exact conclude_concerns _ _ _
    | cons name rest =>
      have hrest : ∀ n ∈ rest, Naming.Generates id.name n := by
        intro n hn
        exact h n (List.mem_cons_of_mem _ hn)
      cases reply with
      | ok _ => exact create_concerns _ _ hrest
      | error e => cases e <;> exact create_concerns _ _ hrest
  | publishing s => cases reply <;> trivial
  | finished => trivial

end Pass

end NatsFleet
