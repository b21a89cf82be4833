import NatsFleet.Proofs.Upkeep

/-!
A rolling upgrade, round by round. In each round a clean pass replaces one outdated pod, and then all
pods of the cluster come to serve. So the upgrade takes as many rounds as there are outdated pods.
-/
namespace NatsFleet.Bench

structure Serving (b : Bench) : Prop where
  names : b.platform.NamesDistinct
  size : b.members.length = b.controller.spec.size.toNat
  serves : ∀ pod ∈ b.members, pod.serves = true

def outdated (b : Bench) : Nat := b.members.countP (Pod.isOutdated b.controller.spec)

def bare (pod : Pod) : Pod := { pod with status := none }

/-- After a pass all pods of the cluster come to serve, and nothing else about them changes. Other
pods of the namespace, and those that are on their way out, may come and go. -/
inductive Settles (b : Bench) : Bench → Prop
  | intro (p : Platform) (draws : Draws) (hnames : p.NamesDistinct)
      (hmembers : ((p.members b.identity.name).map bare).Perm (b.members.map bare))
      (hserves : ∀ pod ∈ p.members b.identity.name, pod.serves = true) :
      Settles b { b with platform := p, draws := draws }

/-- Rounds of a controller that has its pods to itself during its passes. Each round is recorded
with the bench at which it began and what came back in its pass. -/
inductive Rounds (fuel : Nat) : Bench → List (Bench × List Pass.Answered) → Bench → Prop
  | nil (b : Bench) : Rounds fuel b [] b
  | cons {b b₁ b₂ b₃ : Bench} {answers : List Pass.Answered}
      {later : List (Bench × List Pass.Answered)} (hpass : b.CleanPass fuel answers b₁)
      (hsettles : b₁.Settles b₂) (hlater : Rounds fuel b₂ later b₃) :
      Rounds fuel b ((b, answers) :: later) b₃

def Replaces (b : Bench) (answers : List Pass.Answered) : Prop :=
  (∃ pod ∈ b.members, pod.isOutdated b.controller.spec = true ∧ Pass.deletions answers = [pod.name]) ∧
    ∃ pod, pod.isOutdated b.controller.spec = false ∧ Pass.creations answers = [pod]

variable {fuel : Nat} {b b₁ b₂ b' : Bench} {answers : List Pass.Answered}

/-- Settling changes neither the number of pods nor how many are outdated. -/
theorem Settles.counts (h : b₁.Settles b₂) :
    b₂.members.length = b₁.members.length ∧ b₂.outdated = b₁.outdated := by
  obtain ⟨p, draws, -, hmembers, -⟩ := h
  have hlength := hmembers.length_eq
  rw [List.length_map, List.length_map] at hlength
  -- The status of a pod has no say in whether it is outdated.
  have hcount (pods : List Pod) : (pods.map bare).countP (Pod.isOutdated b₁.controller.spec) =
      pods.countP (Pod.isOutdated b₁.controller.spec) := List.countP_map
  have houtdated := hmembers.countP_eq (Pod.isOutdated b₁.controller.spec)
  rw [hcount, hcount] at houtdated
  exact ⟨hlength, houtdated⟩

/-- New pods are up to date, so the outdated ones are those that the plan leaves. -/
theorem Turned.outdated_eq {planned : List String} {new : List Pod}
    (h : b.Turned answers b₁ planned new) :
    b₁.outdated = (Plan.remaining b.identity b.controller.spec b.members).countP
      (Pod.isOutdated b.controller.spec) := by
  have hcurrent : new.countP (Pod.isOutdated b.controller.spec) = 0 := by
    rw [List.countP_eq_zero]
    intro pod hpod
    rw [(h.newborn pod hpod).isOutdated]
    exact Bool.false_ne_true
  rw [outdated, h.spec, h.members_remaining, List.countP_append, hcurrent, Nat.add_zero]

/-- A cluster that serves has all its pods. -/
theorem Serving.full (hb : b.Serving) :
    Plan.Full b.controller.spec (Plan.present b.members) := by
  rw [present_members]
  exact ⟨hb.size, fun pod hpod => Pod.isFinished_of_serves (hb.serves pod hpod)⟩

/-- While all pods serve, a clean pass replaces an outdated pod, or does nothing if there is none. -/
theorem Serving.turned (hb : b.Serving) {planned : List String} {new : List Pod}
    (hturned : b.Turned answers b₁ planned new) :
    b.outdated = 0 ∧ b₁.outdated = 0 ∧ Pass.deletions answers = [] ∧ Pass.creations answers = [] ∨
      b₁.outdated + 1 = b.outdated ∧ b.Replaces answers := by
  have hplan := hb.full.replacement b.identity (present_names_nodup hb.names) fun pod hpod =>
    hb.serves pod (b.present_members ▸ hpod)
  have hlength := hturned.planned_length
  rw [hturned.outdated_eq, hturned.deletions, hturned.creations]
  rw [present_members] at hplan
  rcases hplan with ⟨hnone, hremovals, hshortfall⟩ | ⟨pod, hpod, hout, hremoval, hshortfall, hcount⟩
  · obtain rfl := List.eq_nil_of_length_eq_zero (hlength.trans hshortfall)
    refine .inl ⟨hnone, ?_, ?_, rfl⟩
    · rw [Plan.remaining_eq hremovals, present_members, hnone]
    · rw [plan, hremovals]
      rfl
  · obtain ⟨name, rfl⟩ := List.length_eq_one_iff.mp (hlength.trans hshortfall)
    refine .inr ⟨hcount, ⟨pod, hpod, hout, hturned.deletions.trans hremoval⟩,
      Manifest.pod b.identity b.controller.spec name, Pod.isOutdated_built _ _ _, hturned.creations⟩

/-- One round replaces an outdated pod, or does nothing if there is none, and leaves the cluster
serving. -/
theorem Serving.round (hb : b.Serving) (hcomma : ',' ∉ b.identity.name.toList)
    (hpass : b.CleanPass fuel answers b₁) (hsettles : b₁.Settles b₂) :
    b₂.identity = b.identity ∧ b₂.controller.spec = b.controller.spec ∧ b₂.Serving ∧
      (b.outdated = 0 ∧ b₂.outdated = 0 ∧ Pass.deletions answers = [] ∧ Pass.creations answers = [] ∨
        b₂.outdated + 1 = b.outdated ∧ b.Replaces answers) := by
  obtain ⟨planned, new, hturned⟩ := hpass.turned hcomma hb.names
  obtain ⟨hlength, houtdated⟩ := hsettles.counts
  have hsize : b₁.members.length = b.controller.spec.size.toNat := by
    rw [hturned.members_remaining]
    exact Plan.length_next (present_names_nodup hb.names) hturned.new_length
  rw [houtdated]
  obtain ⟨p, draws, hnames, -, hserves⟩ := hsettles
  refine ⟨hturned.identity, hturned.spec, ⟨hnames, ?_, hserves⟩, hb.turned hturned⟩
  exact (hlength.trans hsize).trans (congrArg (·.size.toNat) hturned.spec.symm)

/-- A rolling upgrade takes as many rounds as there are outdated pods: each of these replaces exactly
one of them, and later ones delete and create nothing. The cluster is at its size after each round. -/
theorem upgrade_completes {tour : List (Bench × List Pass.Answered)} (hb : b.Serving)
    (hcomma : ',' ∉ b.identity.name.toList) (h : Rounds fuel b tour b') :
    b'.members.length = b.controller.spec.size.toNat ∧ b'.controller.spec = b.controller.spec ∧
      b'.outdated = b.outdated - tour.length ∧
      ∀ front b₁ answers back, tour = front ++ (b₁, answers) :: back →
        (front.length < b.outdated → b₁.Replaces answers) ∧
        (b.outdated ≤ front.length →
          Pass.deletions answers = [] ∧ Pass.creations answers = []) := by
  -- The first round replaces a pod, if there is one; the others are about one pod less.
  induction h with
  | nil b =>
    refine ⟨hb.size, rfl, rfl, fun front b₁ answers back hnil => ?_⟩
    cases front <;> cases hnil
  | @cons b b₁ b₂ b₃ answers later hpass hsettles hlater ih =>
    obtain ⟨hid, hspec, hserving, hround⟩ := hb.round hcomma hpass hsettles
    obtain ⟨hsize, hspec', houtdated, hrounds⟩ := ih hserving (hid ▸ hcomma)
    rw [hspec] at hsize hspec'
    refine ⟨hsize, hspec', ?_, fun front b' answers' back htour => ?_⟩
    · rw [houtdated, List.length_cons]
      rcases hround with ⟨hnone, hnone', -⟩ | ⟨hcount, -⟩ <;> omega
    · cases front with
      | nil =>
        obtain ⟨hentry, -⟩ := List.cons.inj htour
        obtain ⟨rfl, rfl⟩ := Prod.mk.inj hentry
        rw [List.length_nil]
        rcases hround with ⟨hnone, -, hidle⟩ | ⟨hcount, hreplaces⟩
        · exact ⟨fun hsome => absurd hsome (by omega), fun _ => hidle⟩
        · exact ⟨fun _ => hreplaces, fun hnone => absurd hnone (by omega)⟩
      | cons entry front =>
        obtain ⟨-, hlater'⟩ := List.cons.inj htour
        obtain ⟨hreplaces, hidle⟩ := hrounds front b' answers' back hlater'
        rw [List.length_cons]
        refine ⟨fun hfew => hreplaces ?_, fun hmany => hidle ?_⟩ <;> omega

def running : PodStatus := { phase := some "Running", conditions := some [⟨"Ready", "True"⟩] }

def settled (b : Bench) : Bench :=
  let pods := b.platform.pods.map fun pod => { pod with status := some running }
  { b with platform := { b.platform with pods := pods } }

/-- When the platform has worked, the bench has settled. -/
theorem settles_settled (b : Bench) (hnames : b.platform.NamesDistinct) : b.Settles b.settled := by
  have hmembers : b.settled.members = b.members.map fun pod => { pod with status := some running } :=
    List.filter_map
  have hnames' : b.settled.platform.NamesDistinct := by
    have hsame : b.settled.platform.pods.map Pod.name = b.platform.pods.map Pod.name := List.map_map
    rw [Platform.NamesDistinct, hsame]
    exact hnames
  have hbare : b.settled.members.map bare = b.members.map bare := by
    rw [hmembers]
    exact List.map_map
  have hserves : ∀ pod ∈ b.settled.members, pod.serves = true := by
    intro pod hpod
    rw [hmembers] at hpod
    obtain ⟨other, -, rfl⟩ := List.mem_map.mp hpod
    rfl
  exact .intro b.settled.platform b.draws hnames' (.of_eq hbare) hserves

def aged : Bench where
  controller := Controller.ofCluster
    { metadata := { name := some "demo", scope := some "default" }, spec := { size := 1 } }
  platform := { pods := [{
    metadata := {
      name := some "demo-old"
      labels := some [("app", "nats"), ("nats_cluster", "demo"), ("nats_revision", "old")] }
    status := some running }] }
  draws := ⟨id, 0⟩

def renewed : Bench := ((work 9)^[7] aged.start).settled

theorem aged_rounds : Rounds 9 aged
    [(aged, aged.start.replies 9 7), (renewed, renewed.start.replies 9 4)]
    ((work 9)^[4] renewed.start).settled := by
  have hfirst := work_cleanPass 9 7 aged rfl (by decide +kernel) (by decide +kernel)
  have hsecond := work_cleanPass 9 4 renewed (Pass.Stage.eq_finished (by decide +kernel))
    (by decide +kernel) (by decide +kernel)
  have hnames₁ := hfirst.alone.namesDistinct (List.nodup_singleton _)
  have hsettles₁ : ((work 9)^[7] aged.start).Settles renewed := settles_settled _ hnames₁
  have hnames₂ : renewed.start.platform.NamesDistinct := by
    obtain ⟨p, draws, hnames, -, -⟩ := hsettles₁
    exact hnames
  exact .cons hfirst hsettles₁
    (.cons hsecond (settles_settled _ (hsecond.alone.namesDistinct hnames₂)) (.nil _))

theorem upgrade_completes_aged :
    aged.Replaces (aged.start.replies 9 7) ∧
      Pass.deletions (renewed.start.replies 9 4) = [] ∧
      Pass.creations (renewed.start.replies 9 4) = [] := by
  have hserving : aged.Serving :=
    ⟨List.nodup_singleton _, by decide +kernel, by decide +kernel⟩
  have hcomma : ',' ∉ aged.identity.name.toList := by decide +kernel
  have houtdated : aged.outdated = 1 := by decide +kernel
  obtain ⟨-, -, -, hrounds⟩ := upgrade_completes hserving hcomma aged_rounds
  rw [houtdated] at hrounds
  obtain ⟨hreplaces, -⟩ := hrounds [] _ _ _ rfl
  obtain ⟨-, hidle⟩ := hrounds [(aged, aged.start.replies 9 7)] _ _ _ rfl
  exact ⟨hreplaces Nat.one_pos, hidle (Nat.le_refl 1)⟩

end NatsFleet.Bench
