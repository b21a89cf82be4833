import NatsFleet.Controller.Pass

/-!
What a controller remembers of the configuration in place: only the reply to a write changes it.
-/
namespace NatsFleet.Pass

/-- The end of a pass leaves the memo alone. -/
theorem conclude_config (w : Work) (records : List PodRecord) (d : Desk) :
    (conclude w records d).2.memory.config = d.memory.config := by
  unfold conclude
  dsimp only
  split <;> rfl

theorem create_config (w : Work) (todo : List String) (records : List PodRecord) (d : Desk) :
    (create w todo records d).2.memory.config = d.memory.config := by
  unfold create
  split
  · exact conclude_config w records d
  · rfl

/-- A pass goes to its write without touching the memo. -/
theorem configure_config (id : Identity) (w : Work) (d : Desk) :
    (configure id w d).2.memory.config = d.memory.config := by
  unfold configure
  split
  · exact create_config _ _ _ _
  · rfl

theorem name_config (id : Identity) (fuel : Nat) (spec : ClusterSpec) (plan : Plan) (d : Desk) :
    (name id fuel spec plan d).2.memory.config = d.memory.config := by
  unfold name
  split
  · rfl
  · exact configure_config _ _ _

theorem remove_config (id : Identity) (fuel : Nat) (spec : ClusterSpec) (plan : Plan)
    (todo : List Removal) (d : Desk) :
    (remove id fuel spec plan todo d).2.memory.config = d.memory.config := by
  unfold remove
  split
  · exact name_config _ _ _ _ _
  · rfl

/-- What the controller remembers as the configuration in place after a reply: only the reply to a
write changes it. -/
def configAfter (id : Identity) (config : Option String) : Stage → Reply → Option String
  | .configuring w, .ok _ => some (Pass.config id w).render
  | .configuring _, .error _ => none
  | _, _ => config

/-- After any reply the memo is what the reply to a write makes of it. -/
theorem resume_config (id : Identity) (fuel : Nat) (stage : Stage) (reply : Reply) (d : Desk) :
    (resume id fuel stage reply d).2.memory.config =
      configAfter id d.memory.config stage reply := by
  -- After the change that the reply itself makes, all that follows leaves the memo as it is.
  cases stage with
  | services todo => cases todo <;> rfl
  | listing spec =>
    cases reply with
    | error e => rfl
    | ok listed => exact remove_config _ _ _ _ _ _
  | removing spec plan todo =>
    cases todo with
    | nil => exact name_config _ _ _ _ _
    | cons r rest => cases reply <;> exact remove_config _ _ _ _ _ _
  | naming => rfl
  | configuring w => cases reply <;> exact create_config _ _ _ _
  | creating w todo records =>
    cases todo with
    | nil => exact conclude_config _ _ _
    | cons name rest =>
      unfold resume
      dsimp only
      split <;> exact create_config _ _ _ _
  | publishing s => cases reply <;> rfl
  | finished => rfl

end NatsFleet.Pass
