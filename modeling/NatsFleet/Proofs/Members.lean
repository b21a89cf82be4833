import NatsFleet.Proofs.Selection
import Mathlib.Data.List.Perm.Basic
import Mathlib.Data.List.Nodup

/-!
What requests do to the members of a cluster, which are its pods that are not on their way out, and
to the text in its config map.
-/
namespace NatsFleet

namespace Platform

def members (p : Platform) (cluster : String) : List Pod :=
  p.pods.filter fun pod => !pod.isDeleting && carries cluster pod

def memberNames (p : Platform) (cluster : String) : List String :=
  (p.members cluster).map Pod.name

def NamesDistinct (p : Platform) : Prop := (p.pods.map Pod.name).Nodup

end Platform

def Call.written? (name : String) (c : Call) : Option String :=
  match c.request, c.reply with
  | .applyConfigMap m, some (.ok _) =>
    if m.metadata.anyName = name then m.data.lookup Layout.configFile else none
  | _, _ => none

namespace Platform

/-- The text that the last successful write left in the config map of a name. -/
def document? (p : Platform) (name : String) : Option String :=
  (p.calls.filterMap (Call.written? name)).getLast?

/-- A new write hides those before it. -/
theorem document?_note (p : Platform) (name : String) (moment : Nat) (request : Request)
    (reply : Option Reply) : (p.note moment request reply).document? name =
      (Call.written? name ⟨moment, request, reply⟩).or (p.document? name) := by
  simp only [document?, note, List.filterMap_append, List.getLast?_append]
  congr 1
  cases h : Call.written? name ⟨moment, request, reply⟩ <;> simp [h]

theorem members_sublist (p : Platform) (cluster : String) :
    (p.memberNames cluster).Sublist (p.pods.map Pod.name) :=
  List.filter_sublist.map _

/-- The selector of a cluster selects its members, if no comma in its name splits it. -/
theorem present_eq_members (p : Platform) (cluster : String) (hcomma : ',' ∉ cluster.toList) :
    Plan.present (p.pods.filter (selects (Manifest.labelSelector cluster))) =
      p.members cluster := by
  have hselects : selects (Manifest.labelSelector cluster) = carries cluster :=
    funext (selects_labelSelector cluster hcomma)
  rw [hselects, Plan.present, List.filter_filter]
  rfl

theorem present_names (p : Platform) (cluster : String) (hcomma : ',' ∉ cluster.toList) :
    (Plan.present (p.pods.filter (selects (Manifest.labelSelector cluster)))).map Pod.name =
      p.memberNames cluster := by
  rw [present_eq_members p cluster hcomma]
  rfl

/-- Members have different names, as all pods have. -/
theorem memberNames_nodup {p : Platform} (h : p.NamesDistinct) (cluster : String) :
    (p.memberNames cluster).Nodup := h.sublist (p.members_sublist cluster)

@[simp] theorem marked_name (pod : Pod) : (marked pod).name = pod.name := rfl

@[simp] theorem marked_isDeleting (pod : Pod) : (marked pod).isDeleting = true := rfl

@[simp] theorem carries_marked (cluster : String) (pod : Pod) :
    carries cluster (marked pod) = carries cluster pod := rfl

theorem members_congr {p p' : Platform} (cluster : String) (h : p'.pods = p.pods) :
    p'.members cluster = p.members cluster := by
  rw [members, members, h]

theorem memberNames_congr {p p' : Platform} (cluster : String) (h : p'.pods = p.pods) :
    p'.memberNames cluster = p.memberNames cluster := by
  rw [memberNames, memberNames, members_congr cluster h]

/-- A deleted pod is no longer a member, be it gone or on its way out. -/
theorem members_delete (p : Platform) (cluster name : String) :
    (p.delete name).members cluster =
      (p.members cluster).filter fun pod => pod.name ≠ name := by
  unfold delete members
  split
  · -- Pods go slowly: one of this name is marked, and then it is no longer a member.
    induction p.pods with
    | nil => rfl
    | cons pod pods ih =>
      by_cases hname : pod.name = name
      · cases hkeep : (!pod.isDeleting && carries cluster pod) <;>
          simpa [List.filter_cons, hname, hkeep] using ih
      · cases hkeep : (!pod.isDeleting && carries cluster pod) <;>
          simpa [List.filter_cons, hname, hkeep] using ih
  · -- Pods go at once.
    rw [List.filter_filter, List.filter_filter]
    apply List.filter_congr
    intro pod _
    exact Bool.and_comm _ _

theorem memberNames_delete (p : Platform) (cluster name : String) :
    (p.delete name).memberNames cluster = (p.memberNames cluster).filter (· ≠ name) := by
  rw [memberNames, members_delete, memberNames, List.filter_map]
  rfl

def newcomer (p : Platform) (pod : Pod) : Pod :=
  { pod with
    metadata := { pod.metadata with creationTimestamp := some ⟨p.clock, 0⟩ }
    status := p.initialStatus }

theorem addNew_pods (p : Platform) (pod : Pod) :
    (p.addNew pod).pods = p.pods ++ [p.newcomer pod] := rfl

/-- A new pod with the labels of a cluster is a member. -/
theorem members_addNew (p : Platform) (cluster : String) (pod : Pod)
    (hdeleting : pod.isDeleting = false) (hcarries : carries cluster pod = true) :
    (p.addNew pod).members cluster = p.members cluster ++ [p.newcomer pod] := by
  have hkeep : (!(p.newcomer pod).isDeleting && carries cluster (p.newcomer pod)) = true := by
    have h : (!pod.isDeleting && carries cluster pod) = true := by simp [hdeleting, hcarries]
    exact h
  simp only [members, addNew_pods, List.filter_append]
  rw [List.filter_cons_of_pos (by exact hkeep)]
  rfl

def podsAfter (p : Platform) : Request → List Pod
  | .createPod pod =>
    if p.pods.any fun q => q.name = pod.name then p.pods else p.pods ++ [p.newcomer pod]
  | .deletePod name => (p.delete name).pods
  | _ => p.pods

/-- What a request that works does to the pods. -/
theorem serve_pods (p : Platform) (request : Request) :
    (p.serve request).2.pods = p.podsAfter request := by
  cases request with
  | createService s =>
    simp only [serve, podsAfter]
    split <;> rfl
  | createPod pod =>
    simp only [serve, podsAfter]
    split <;> rfl
  | _ => rfl

theorem delete_calls (p : Platform) (name : String) : (p.delete name).calls = p.calls := by
  unfold delete
  split <;> rfl

/-- Requests are noted when they come back, not while they are served. -/
theorem serve_calls (p : Platform) (request : Request) :
    (p.serve request).2.calls = p.calls := by
  cases request with
  | createService s =>
    simp only [serve]
    split <;> rfl
  | createPod pod =>
    simp only [serve]
    split <;> rfl
  | deletePod name => exact p.delete_calls name
  | _ => rfl

theorem delete_names_sublist (p : Platform) (name : String) :
    ((p.delete name).pods.map Pod.name).Sublist (p.pods.map Pod.name) := by
  unfold delete
  split
  -- A mark does not change the name of a pod.
  · have hname : (Pod.name ∘ fun pod => if pod.name = name then marked pod else pod) = Pod.name := by
      funext pod
      dsimp only [Function.comp]
      split <;> rfl
    rw [List.map_map, hname]
  · exact List.filter_sublist.map _

/-- Requests that work keep the names of pods distinct. -/
theorem podsAfter_names_nodup (p : Platform) (request : Request) (h : p.NamesDistinct) :
    ((p.podsAfter request).map Pod.name).Nodup := by
  cases request with
  | createPod pod =>
    simp only [podsAfter]
    split
    · exact h
    · rename_i hfree
      have hnotin : pod.name ∉ p.pods.map Pod.name := by simpa using hfree
      have hnew : (p.newcomer pod).name = pod.name := rfl
      rw [List.map_append, List.map_singleton, hnew]
      exact h.append (List.nodup_singleton _) (by simpa using hnotin)
  | deletePod name => exact h.sublist (p.delete_names_sublist name)
  | _ => exact h

/-- A request that works and is refused changes nothing. -/
theorem serve_error (p : Platform) (request : Request) (e : Failure)
    (h : (p.serve request).1 = .error e) : (p.serve request).2 = p := by
  cases request with
  | createService s =>
    simp only [serve] at h ⊢
    split at h
    · rw [if_pos (by assumption)]
    · simp at h
  | createPod pod =>
    simp only [serve] at h ⊢
    split at h
    · rw [if_pos (by assumption)]
    · simp at h
  | _ => simp [serve] at h

variable {p p' : Platform} {moment : Nat} {request : Request} {ending : Ending} {reply : Reply}

/-- What a request that came back has written. -/
theorem conclude_document (name : String)
    (h : p.conclude moment request ending = (some reply, p')) :
    p'.document? name =
      (Call.written? name ⟨moment, request, some reply⟩).or (p.document? name) := by
  have hserve : (p.serve request).2.document? name = p.document? name := by
    simp only [document?, serve_calls]
  cases ending with
  | works =>
    simp only [conclude, Prod.mk.injEq, Option.some.injEq] at h
    obtain ⟨rfl, rfl⟩ := h
    rw [document?_note, hserve]
  | fails f =>
    simp only [conclude, Prod.mk.injEq, Option.some.injEq] at h
    obtain ⟨rfl, rfl⟩ := h
    rw [document?_note]
  | stalls => simp [conclude] at h

/-- A success comes only from a request that works. -/
theorem conclude_ok {listed : List Pod}
    (h : p.conclude moment request ending = (some (.ok listed), p')) :
    (p.serve request).1 = .ok listed ∧ p'.pods = p.podsAfter request := by
  cases ending with
  | works =>
    simp only [conclude, Prod.mk.injEq, Option.some.injEq] at h
    exact ⟨h.1, by rw [← h.2, ← serve_pods]; rfl⟩
  | fails f => simp [conclude] at h
  | stalls => simp [conclude] at h

/-- A pod that has been created is a member of the cluster whose labels it carries. -/
theorem members_created {cluster : String} {pod : Pod} {listed : List Pod}
    (hreply : (p.serve (.createPod pod)).1 = .ok listed)
    (hpods : p'.pods = p.podsAfter (.createPod pod)) (hdeleting : pod.isDeleting = false)
    (hcarries : carries cluster pod = true) :
    p'.members cluster = p.members cluster ++ [p.newcomer pod] := by
  have hfree : (p.pods.any fun q => q.name = pod.name) = false := by
    by_contra htaken
    rw [Bool.not_eq_false] at htaken
    simp only [serve, if_pos htaken] at hreply
    cases hreply
  have hadded : p'.pods = (p.addNew pod).pods := by
    rw [hpods, podsAfter, hfree, addNew_pods]
    rfl
  rw [members_congr cluster hadded, members_addNew p cluster pod hdeleting hcarries]

theorem memberNames_created {cluster : String} {pod : Pod} {listed : List Pod}
    (hreply : (p.serve (.createPod pod)).1 = .ok listed)
    (hpods : p'.pods = p.podsAfter (.createPod pod)) (hdeleting : pod.isDeleting = false)
    (hcarries : carries cluster pod = true) :
    p'.memberNames cluster = p.memberNames cluster ++ [pod.name] := by
  rw [memberNames, members_created hreply hpods hdeleting hcarries, List.map_append]
  rfl

/-- A failure leaves the pods as they are. -/
theorem conclude_error {e : Failure}
    (h : p.conclude moment request ending = (some (.error e), p')) : p'.pods = p.pods := by
  cases ending with
  | works =>
    simp only [conclude, Prod.mk.injEq, Option.some.injEq] at h
    have hpods := congrArg Platform.pods (serve_error p request e h.1)
    rw [← h.2]
    exact hpods
  | fails f =>
    simp only [conclude, Prod.mk.injEq, Option.some.injEq] at h
    rw [← h.2]
    rfl
  | stalls => simp [conclude] at h

/-- No reply leaves two pods of one name. -/
theorem conclude_namesDistinct (h : p.conclude moment request ending = (some reply, p'))
    (hnames : p.NamesDistinct) : p'.NamesDistinct := by
  cases reply with
  | ok listed =>
    rw [NamesDistinct, (conclude_ok h).2]
    exact p.podsAfter_names_nodup request hnames
  | error e =>
    rw [NamesDistinct, conclude_error h]
    exact hnames

end Platform
end NatsFleet
