import NatsFleet.Proofs.Upkeep

/-!
A controller that has its pods to itself comes to rest. After two clean passes the members of its
cluster are settled, whatever they were before, and no further pass deletes or creates any pod.
-/
namespace NatsFleet

namespace Pass

/-- A pass stands where it will neither delete nor create pods, if it lists settled ones. -/
def Stage.AtRest (spec : ClusterSpec) : Stage → Prop
  | .services _ | .publishing _ | .finished => True
  | .listing s => s = spec
  | .configuring w => w.planned = []
  | .removing .. | .naming | .creating .. => False

variable {id : Identity} {fuel : Nat} {spec : ClusterSpec}

/-- A pass at rest asks for nothing that concerns the pods. -/
theorem Stage.AtRest.sparesPods {stage : Stage} (h : stage.AtRest spec) {request : Request}
    (hrequest : stage.request? id = some request) : request.SparesPods := by
  cases stage with
  | services todo => cases todo <;> cases hrequest; exact ⟨rfl, rfl⟩
  | listing s => cases hrequest; exact ⟨rfl, rfl⟩
  | configuring w => cases hrequest; exact ⟨rfl, rfl⟩
  | publishing s => cases hrequest; exact ⟨rfl, rfl⟩
  | finished => cases hrequest
  | removing s plan todo => exact h.elim
  | naming => exact h.elim
  | creating w todo records => exact h.elim

theorem conclude_atRest (w : Work) (records : List PodRecord) (d : Desk) :
    (conclude w records d).1.AtRest spec := by
  rw [conclude_eq]
  dsimp only
  split <;> trivial

/-- A pass with no pod to create comes to rest. -/
theorem configure_atRest (w : Work) (hplanned : w.planned = []) (d : Desk) :
    (configure id w d).1.AtRest spec := by
  unfold configure
  split
  · rw [hplanned]
    exact conclude_atRest w _ d
  · exact hplanned

/-- With nothing to remove and nothing to create a pass goes straight to its configuration. -/
theorem remove_atRest {plan : Plan} (hremovals : plan.removals = [])
    (hshortfall : plan.shortfall spec = 0) (d : Desk) :
    (remove id fuel spec plan plan.removals d).1.AtRest spec := by
  rw [hremovals]
  unfold remove name
  rw [hshortfall, Naming.plan_zero]
  exact configure_atRest _ rfl _

/-- A pass that is at rest stays there, if the pods that it lists are settled. -/
theorem Stage.AtRest.resume {stage : Stage} (h : stage.AtRest spec) (reply : Reply) (d : Desk)
    (hspec : d.spec = spec)
    (hlisted : ∀ s listed, stage = .listing s → reply = .ok listed →
      Plan.Settled spec (Plan.present listed)) :
    (Pass.resume id fuel stage reply d).1.AtRest spec := by
  cases stage with
  | services todo =>
    cases todo with
    | nil => exact hspec
    | cons s rest =>
      unfold Pass.resume
      dsimp only
      split
      · exact hspec
      · trivial
  | listing s =>
    obtain rfl : s = spec := h
    cases reply with
    | error e => trivial
    | ok listed =>
      obtain ⟨hremovals, hshortfall⟩ := (hlisted s listed rfl rfl).plan id
      exact remove_atRest hremovals hshortfall d
  | configuring w =>
    have hplanned : w.planned = [] := h
    unfold Pass.resume
    dsimp only
    rw [hplanned]
    exact conclude_atRest w _ _
  | publishing s => cases reply <;> trivial
  | finished => trivial
  | removing s plan todo => exact h.elim
  | naming => exact h.elim
  | creating w todo records => exact h.elim

end Pass

namespace Bench

/-- The members are settled, and the pass under way leaves them alone. -/
structure Resting (b : Bench) : Prop where
  settled : Plan.Settled b.controller.spec b.members
  stage : b.stage.AtRest b.controller.spec

variable {fuel : Nat} {b b₀ b₁ b₂ b' : Bench} {answers first second later : List Pass.Answered}

/-- A pass that begins on settled pods is at rest. -/
theorem Resting.start (h : b.Resting) : b.start.Resting := ⟨h.settled, trivial⟩

/-- Whatever comes back, a controller at rest has not touched any pod and stays at rest. -/
theorem Resting.alone (h : Alone fuel b answers b') (hb : b.Resting)
    (hcomma : ',' ∉ b.identity.name.toList) :
    b'.Resting ∧ ∀ a ∈ answers, a.request.SparesPods := by
  induction h with
  | nil b => exact ⟨hb, fun a ha => absurd ha List.not_mem_nil⟩
  | @outside b b' answers p draws hpods hstatus hrest ih =>
    have hmembers : p.members b.identity.name = b.members := Platform.members_congr _ hpods
    refine ih ⟨?_, hb.stage⟩ hcomma
    have hsettled := hb.settled
    rw [← hmembers] at hsettled
    exact hsettled
  | @call b b' answers request reply moment clock ending p hrequest hreply hrest ih =>
    -- The request on its way spares the pods, so the members are the same when it comes back.
    have hspares := hb.stage.sparesPods hrequest
    have hcall : Alone fuel b [⟨request, reply, b.controller.desk b.draws clock⟩]
        (b.resume fuel clock reply p) := .call moment clock ending p hrequest hreply (.nil _)
    have hmembers := hcall.members_eq (List.forall_mem_singleton.mpr hspares)
    have hnext : (b.resume fuel clock reply p).Resting := by
      refine ⟨?_, hb.stage.resume reply _ rfl fun s listed hstage hlisted => ?_⟩
      · rw [hmembers]
        exact hb.settled
      · -- What is listed are the members, and besides pods that are on their way out.
        rw [hstage] at hrequest
        have hselected := hcall.listed (Option.some.inj hrequest).symm hlisted
        rw [hselected, b.platform.present_eq_members _ hcomma]
        exact hb.settled
    obtain ⟨hresting, hspares'⟩ := ih hnext hcomma
    exact ⟨hresting, List.forall_mem_cons.mpr ⟨hspares, hspares'⟩⟩

/-- Passes of a controller that has its pods to itself, one after the other. The last of them may be
under way. -/
inductive Onward (fuel : Nat) : Bench → List Pass.Answered → Bench → Prop
  | nil (b : Bench) : Onward fuel b [] b
  | pass {b b₁ b₂ : Bench} {answers later : List Pass.Answered} (hidle : b.stage = .finished)
      (hpass : Alone fuel b.start answers b₁) (hlater : Onward fuel b₁ later b₂) :
      Onward fuel b (answers ++ later) b₂

/-- A cluster at rest stays so through any number of passes, and all they ask for spares the pods. -/
theorem Resting.onward (h : Onward fuel b answers b') (hb : b.Resting)
    (hcomma : ',' ∉ b.identity.name.toList) :
    b'.Resting ∧ ∀ a ∈ answers, a.request.SparesPods := by
  induction h with
  | nil b => exact ⟨hb, fun a ha => absurd ha List.not_mem_nil⟩
  | @pass b b₁ b₂ answers later hidle hpass hlater ih =>
    obtain ⟨hresting, hspares⟩ := hb.start.alone hpass hcomma
    have hid : b₁.identity = b.identity := hpass.identity_eq
    obtain ⟨hresting', hspares'⟩ := ih hresting (hid ▸ hcomma)
    exact ⟨hresting', List.forall_mem_append.mpr ⟨hspares, hspares'⟩⟩

/-- A clean pass leaves a full cluster, whatever it has found. -/
theorem Turned.full {planned : List String} {new : List Pod} (h : b.Turned answers b' planned new)
    (hnames : b.platform.NamesDistinct) (hstatus : b.platform.initialStatus = none) :
    Plan.Full b.controller.spec b'.members := by
  rw [h.members_remaining]
  have hunfinished : ∀ pod ∈ new, pod.isFinished = false := fun pod hpod =>
    ((h.newborn pod hpod).of_none hstatus).1
  exact Plan.full_next (present_names_nodup hnames) h.new_length hunfinished

/-- A clean pass that finds a full cluster leaves settled members. -/
theorem Turned.settled {planned : List String} {new : List Pod} (h : b.Turned answers b' planned new)
    (hnames : b.platform.NamesDistinct) (hstatus : b.platform.initialStatus = none)
    (hfull : Plan.Full b.controller.spec b.members) :
    Plan.Settled b.controller.spec b'.members := by
  rw [← present_members] at hfull
  rw [h.members_remaining]
  exact hfull.settled_next (present_names_nodup hnames) h.new_length
    (fun pod hpod => ((h.newborn pod hpod).of_none hstatus).1)
    (fun pod hpod => ((h.newborn pod hpod).of_none hstatus).2)
    (fun pod hpod => (h.newborn pod hpod).isOutdated)

/-- From the third pass on, no pod is deleted or created, and no such request is on its way. The first
two passes are clean; it does not matter how the requests of later ones come out. -/
theorem passes_quiesce (hcomma : ',' ∉ b₀.identity.name.toList)
    (hnames : b₀.platform.NamesDistinct) (hstatus : b₀.platform.initialStatus = none)
    (hfirst : b₀.CleanPass fuel first b₁) (hsecond : b₁.CleanPass fuel second b₂)
    (hlater : Onward fuel b₂ later b') :
    (∀ a ∈ later, a.request.SparesPods) ∧
      ∀ request, b'.stage.request? b'.identity = some request → request.SparesPods := by
  obtain ⟨planned₁, new₁, hturned₁⟩ := hfirst.turned hcomma hnames
  have hid₁ : b₁.identity = b₀.identity := hturned₁.identity
  obtain ⟨planned₂, new₂, hturned₂⟩ := hsecond.turned (hid₁ ▸ hcomma) hturned₁.names
  have hid₂ : b₂.identity = b₁.identity := hturned₂.identity
  have hstatus₁ : b₁.platform.initialStatus = none := hfirst.alone.initialStatus_eq.trans hstatus
  -- One pass makes the cluster full, and one more settles it.
  have hfull : Plan.Full b₁.controller.spec b₁.members := by
    rw [hturned₁.spec]
    exact hturned₁.full hnames hstatus
  have hsettled := hturned₂.settled hturned₁.names hstatus₁ hfull
  have hresting : b₂.Resting := by
    refine ⟨?_, ?_⟩
    · rw [hturned₂.spec]
      exact hsettled
    · rw [hsecond.done]
      trivial
  obtain ⟨hresting', hspares⟩ := hresting.onward hlater (hid₂ ▸ hid₁ ▸ hcomma)
  exact ⟨hspares, fun request hrequest => hresting'.stage.sparesPods hrequest⟩

def mixed : Bench where
  controller := Controller.ofCluster
    { metadata := { name := some "demo", scope := some "default" }, spec := { size := 1 } }
  platform := {
    graceful := true
    pods := [
      { metadata := {
          name := some "demo-a"
          labels := some [("app", "nats"), ("nats_cluster", "demo")] }
        status := some { phase := some "Failed" } },
      { metadata := {
          name := some "demo-b"
          labels := some [("app", "nats"), ("nats_cluster", "demo")]
          deletionTimestamp := some ⟨0, 0⟩ } },
      { metadata := {
          name := some "demo-c"
          labels := some [("app", "nats"), ("nats_cluster", "demo")] }
        status := some { phase := some "Pending" } }] }
  draws := ⟨id, 0⟩

/-- The first pass deletes two pods and creates one; the third one leaves the pods alone. -/
theorem passes_quiesce_mixed :
    let second := (work 9)^[8] mixed.start
    let third := (work 9)^[4] second.start
    Pass.deletions (mixed.start.replies 9 8) = ["demo-a", "demo-c"] ∧
      (Pass.creations (mixed.start.replies 9 8)).length = 1 ∧
      ∀ a ∈ third.start.replies 9 3, a.request.SparesPods := by
  intro second third
  have hfirst := work_cleanPass 9 8 mixed rfl (by decide +kernel) (by decide +kernel)
  have hsecond := work_cleanPass 9 4 second (Pass.Stage.eq_finished (by decide +kernel))
    (by decide +kernel) (by decide +kernel)
  have hthird : Onward 9 third (third.start.replies 9 3 ++ []) ((work 9)^[3] third.start) :=
    .pass (Pass.Stage.eq_finished (by decide +kernel)) (work_alone 9 3 third.start) (.nil _)
  rw [List.append_nil] at hthird
  have hcomma : ',' ∉ mixed.identity.name.toList := by decide +kernel
  have hnames : mixed.platform.NamesDistinct := by
    unfold Platform.NamesDistinct
    decide +kernel
  obtain ⟨hspares, -⟩ := passes_quiesce hcomma hnames rfl hfirst hsecond hthird
  exact ⟨by decide +kernel, by decide +kernel, hspares⟩

end Bench
end NatsFleet
