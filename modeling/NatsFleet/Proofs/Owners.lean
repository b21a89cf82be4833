import NatsFleet.Controller.Progress
import Mathlib.Tactic.SplitIfs

/-!
The services, the config map and the pods that the passes of a controller ask for are owned by what its
identity names, and by nothing else.
-/
namespace NatsFleet

def Request.metadata? : Request → Option ObjectMeta
  | .createService service => some service.metadata
  | .applyConfigMap config => some config.metadata
  | .createPod pod => some pod.metadata
  | _ => none

def ObjectMeta.OwnedBy (m : ObjectMeta) (id : Identity) : Prop :=
  m.ownerReferences = id.owner.map fun o => [o]

/-- The metadata of each object names the owner. -/
theorem Manifest.metadata_ownedBy (id : Identity) (name : String) (labels : Labels) :
    (Manifest.metadata id name labels).OwnedBy id := rfl

namespace Pass

variable {id : Identity} {stage : Stage}

/-- The stages of the passes of a controller, whatever it is told, remembers and is answered. -/
inductive Reached (id : Identity) : Stage → Prop
  | start (spec : ClusterSpec) : Reached id (start id spec)
  | resume (fuel : Nat) (stage : Stage) (reply : Reply) (d : Desk) (h : Reached id stage) :
      Reached id (resume id fuel stage reply d).1

def Stage.Owned (id : Identity) : Stage → Prop
  | .services todo => ∀ s ∈ todo, s.metadata.OwnedBy id
  | _ => True

theorem start_owned (id : Identity) (spec : ClusterSpec) : (start id spec).Owned id := by
  intro s hs
  simp only [services, List.mem_cons, List.not_mem_nil, or_false] at hs
  rcases hs with rfl | rfl
  · exact Manifest.metadata_ownedBy id _ _
  · exact Manifest.metadata_ownedBy id _ _

/-- Later on in a pass no service is left. -/
theorem Stage.owned_of_rank (h : stage.rank.1 < 6) : stage.Owned id := by
  cases stage with
  | services todo => exact absurd h (Nat.lt_irrefl 6)
  | _ => trivial

theorem create_owned (w : Work) (todo : List String) (records : List PodRecord) (d : Desk) :
    (create w todo records d).1.Owned id := by
  have hrank := create_rank_lt w todo records d
  exact Stage.owned_of_rank (by omega)

theorem name_owned (fuel : Nat) (spec : ClusterSpec) (plan : Plan) (d : Desk) :
    (name id fuel spec plan d).1.Owned id := by
  have hrank := name_rank_lt id fuel spec plan d
  exact Stage.owned_of_rank (by omega)

/-- From its listing on a pass creates no service. -/
theorem remove_owned (fuel : Nat) (spec : ClusterSpec) (plan : Plan) (todo : List Removal)
    (d : Desk) : (remove id fuel spec plan todo d).1.Owned id := by
  apply Stage.owned_of_rank
  rcases remove_rank id fuel spec plan todo d with hrank | hrank
  · omega
  · rw [hrank]
    show 4 < 6
    decide

/-- After a reply only the services that were left are still to be created. -/
theorem resume_owned (h : stage.Owned id) (fuel : Nat) (reply : Reply) (d : Desk) :
    (resume id fuel stage reply d).1.Owned id := by
  cases stage with
  | services todo =>
    cases todo with
    | nil => trivial
    | cons s rest =>
      have hrest : ∀ s' ∈ rest, s'.metadata.OwnedBy id := fun s' hs' => h s' (List.mem_cons_of_mem _ hs')
      unfold resume
      dsimp only
      split_ifs
      · trivial
      · exact hrest
  | listing spec =>
    cases reply with
    | error e => trivial
    | ok listed => exact remove_owned _ _ _ _ _
  | removing spec plan todo =>
    cases todo with
    | nil => exact name_owned _ _ _ _
    | cons r rest => exact remove_owned _ _ _ _ _
  | naming => trivial
  | configuring w => exact create_owned _ _ _ _
  | creating w todo records =>
    cases todo with
    | nil => exact create_owned w [] records d
    | cons name rest =>
      cases reply with
      | ok _ => exact create_owned _ _ _ _
      | error e => cases e <;> exact create_owned _ _ _ _
  | publishing status => cases reply <;> trivial
  | finished => trivial

/-- At any stage the services to create have the owner of the controller. -/
theorem Reached.owned (h : Reached id stage) : stage.Owned id := by
  induction h with
  | start spec => exact start_owned id spec
  | resume fuel stage reply d _ ih => exact resume_owned ih fuel reply d

/-- Each object that a pass asks for has the owner of the controller. -/
theorem Reached.ownedBy (h : Reached id stage) {request : Request} {m : ObjectMeta}
    (hrequest : stage.request? id = some request) (hm : request.metadata? = some m) :
    m.OwnedBy id := by
  have howned := h.owned
  cases stage with
  | services todo =>
    cases todo with
    | nil => cases hrequest
    | cons s rest =>
      cases hrequest
      cases hm
      exact howned s List.mem_cons_self
  | configuring w =>
    cases hrequest
    cases hm
    exact Manifest.metadata_ownedBy id _ _
  | creating w todo records =>
    cases todo with
    | nil => cases hrequest
    | cons name rest =>
      cases hrequest
      cases hm
      exact Manifest.metadata_ownedBy id _ _
  | removing spec plan todo =>
    cases todo <;> cases hrequest
    cases hm
  | _ => cases hrequest <;> cases hm

end Pass
end NatsFleet
