import NatsFleet.Proofs.Alone
import NatsFleet.Proofs.Belonging

/-!
Controllers of several clusters at work in one namespace. Their requests are answered in any order and
with any outcome, and still each of them sees and touches the pods of its own cluster only.
-/
namespace NatsFleet

namespace Platform

variable {p : Platform} {id : Identity} {request : Request}

def AllBuilt (p : Platform) : Prop := ∀ pod ∈ p.pods, ∃ cluster, pod.BuiltFor cluster

/-- A deletion changes nothing that was declared of the pods. -/
theorem delete_declared (p : Platform) (name : String) :
    ∀ pod' ∈ (p.delete name).pods, ∃ pod ∈ p.pods, pod'.declared = pod.declared := by
  intro pod' hpod'
  unfold delete at hpod'
  split at hpod'
  · -- A mark leaves what was declared.
    obtain ⟨pod, hpod, rfl⟩ := List.mem_map.mp hpod'
    refine ⟨pod, hpod, ?_⟩
    split <;> rfl
  · exact ⟨pod', List.mem_of_mem_filter hpod', rfl⟩

/-- A deletion leaves pods of another name alone. -/
theorem mem_delete_iff (p : Platform) {name : String} {pod : Pod} (h : pod.name ≠ name) :
    pod ∈ (p.delete name).pods ↔ pod ∈ p.pods := by
  unfold delete
  split
  · dsimp only
    rw [List.mem_map]
    constructor
    · rintro ⟨q, hq, rfl⟩
      split at h
      · rename_i hname
        exact absurd hname h
      · rename_i hname
        rw [if_neg hname]
        exact hq
    · intro hpod
      exact ⟨pod, hpod, if_neg h⟩
  · simp [h]

/-- A controller's request leaves every pod one that was built for a cluster. -/
theorem podsAfter_built (hrequest : request.Concerns id) (h : p.AllBuilt) :
    ∀ pod ∈ p.podsAfter request, ∃ cluster, pod.BuiltFor cluster := by
  intro pod hpod
  cases request with
  | createPod new =>
    obtain ⟨spec, d, rfl⟩ := hrequest
    simp only [podsAfter] at hpod
    split at hpod
    · exact h pod hpod
    · rcases List.mem_append.mp hpod with hpod | hpod
      · exact h pod hpod
      · rw [List.mem_singleton.mp hpod]
        exact ⟨id.name, (Pod.BuiltFor.manifest id spec d).congr rfl⟩
  | deletePod name =>
    obtain ⟨old, hold, hdeclared⟩ := p.delete_declared name pod hpod
    obtain ⟨cluster, hbuilt⟩ := h old hold
    exact ⟨cluster, hbuilt.congr hdeclared⟩
  | _ => exact h pod hpod

/-- A controller's request leaves the pods of other clusters alone. -/
theorem mem_podsAfter_iff (hrequest : request.Concerns id) {cluster : String}
    (hother : cluster ≠ id.name) {pod : Pod} (hbuilt : pod.BuiltFor cluster) :
    pod ∈ p.podsAfter request ↔ pod ∈ p.pods := by
  cases request with
  | createPod new =>
    obtain ⟨spec, d, rfl⟩ := hrequest
    have hnew : pod ≠ p.newcomer (Manifest.pod id spec (Naming.generate id.name d).1) := by
      rintro rfl
      exact hother (hbuilt.cluster_eq ((Pod.BuiltFor.manifest id spec d).congr rfl))
    simp only [podsAfter]
    split
    · rfl
    · simp [hnew]
  | deletePod name =>
    have hname : pod.name ≠ name := by
      rintro rfl
      exact hother (Naming.cluster_eq_of_generates hbuilt.generates hrequest)
    exact p.mem_delete_iff hname
  | _ => rfl

end Platform

namespace Bench

variable {fuel : Nat} {b b' : Bench} {request : Request} {reply : Reply}

/-- The request at which the pass stands is settled: it comes back, or it has its effect and is reported
as failed all the same. -/
inductive Settled (fuel : Nat) (b : Bench) (request : Request) : Reply → Bench → Prop
  | answered {reply : Reply} {b' : Bench} (h : Answer fuel b request reply b') :
      Settled fuel b request reply b'
  | lost (moment : Nat) (clock : Timestamp) (failure : Failure)
      (hrequest : b.stage.request? b.identity = some request) :
      Settled fuel b request (.error failure) (b.resume fuel clock (.error failure)
        ((b.platform.serve request).2.note moment request (some (.error failure))))

/-- What a settled request does: the pass goes on from its reply, and the platform is what the request
makes of it, or what it was. -/
structure Settlement (fuel : Nat) (b : Bench) (request : Request) (reply : Reply) (b' : Bench)
    (clock : Timestamp) : Prop where
  asked : b.stage.request? b.identity = some request
  resumed : b' = b.resume fuel clock reply b'.platform
  pods : b'.platform.pods = b.platform.pods ∨ b'.platform.pods = b.platform.podsAfter request
  listed : ∀ listed, reply = .ok listed → (b.platform.serve request).1 = .ok listed
  services : b'.platform.services = b.platform.services ∨
    b'.platform.services = (b.platform.serve request).2.services
  calls : ∃ moment, b'.platform.calls = b.platform.calls ++ [⟨moment, request, some reply⟩]

/-- Whether it comes back in time or not, a request is settled in the same way. -/
theorem Settled.settlement (h : b.Settled fuel request reply b') :
    ∃ clock, b.Settlement fuel request reply b' clock := by
  cases h with
  | answered h =>
    obtain ⟨moment, clock, ending, p, hrequest, hreply⟩ := h
    refine ⟨clock, hrequest, rfl, ?_, ?_, ?_, ?_⟩
    · cases reply with
      | ok listed => exact .inr (Platform.conclude_ok hreply).2
      | error e => exact .inl (Platform.conclude_error hreply)
    · rintro listed rfl
      exact (Platform.conclude_ok hreply).1
    · cases ending with
      | works =>
        simp only [Platform.conclude, Prod.mk.injEq, Option.some.injEq] at hreply
        exact .inr (by rw [← hreply.2]; rfl)
      | fails f =>
        simp only [Platform.conclude, Prod.mk.injEq, Option.some.injEq] at hreply
        exact .inl (by rw [← hreply.2]; rfl)
      | stalls => simp [Platform.conclude] at hreply
    · refine ⟨moment, ?_⟩
      cases ending with
      | works =>
        simp only [Platform.conclude, Prod.mk.injEq, Option.some.injEq] at hreply
        obtain ⟨rfl, rfl⟩ := hreply
        rw [← Platform.serve_calls b.platform request]
        rfl
      | fails f =>
        simp only [Platform.conclude, Prod.mk.injEq, Option.some.injEq] at hreply
        obtain ⟨rfl, rfl⟩ := hreply
        rfl
      | stalls => simp [Platform.conclude] at hreply
  | lost moment clock failure hrequest =>
    refine ⟨clock, hrequest, rfl, .inr (Platform.serve_pods _ _), ?_, .inr rfl, moment, ?_⟩
    · rintro listed ⟨⟩
    · rw [← Platform.serve_calls b.platform request]
      rfl

end Bench

structure Neighbours (ι : Type) where
  hand : ι → Controller × Pass.Stage
  platform : Platform
  draws : Draws

namespace Neighbours

variable {ι : Type} {fuel : Nat} {s₀ s s' : Neighbours ι} {i j : ι} {request : Request}
  {reply : Reply} {b : Bench}

def bench (s : Neighbours ι) (i : ι) : Bench where
  controller := (s.hand i).1
  stage := (s.hand i).2
  platform := s.platform
  draws := s.draws

def identity (s : Neighbours ι) (i : ι) : Identity := (s.hand i).1.identity

def cluster (s : Neighbours ι) (i : ι) : String := (s.identity i).name

structure Sound (s : Neighbours ι) : Prop where
  stages : ∀ i, (s.hand i).2.Concerns (s.identity i)
  pods : s.platform.AllBuilt

/-- A controller that lists pods sees just those that were built for its cluster. -/
theorem Sound.listed (hs : s.Sound) (hcomma : ',' ∉ (s.cluster i).toList) {selector : String}
    {listed : List Pod} (hselector : selector = Manifest.labelSelector (s.cluster i))
    (hlisted : (s.platform.serve (.listPods selector)).1 = .ok listed) :
    listed.Sublist s.platform.pods ∧
      ∀ pod, pod ∈ listed ↔ pod ∈ s.platform.pods ∧ pod.BuiltFor (s.cluster i) := by
  have heq : s.platform.pods.filter (Platform.selects selector) = listed := Except.ok.inj hlisted
  rw [← heq, hselector]
  refine ⟨List.filter_sublist, fun pod => ?_⟩
  rw [List.mem_filter]
  constructor
  · rintro ⟨hpod, hselects⟩
    obtain ⟨cluster, hbuilt⟩ := hs.pods pod hpod
    rw [(hbuilt.selects_iff hcomma).mp hselects]
    exact ⟨hpod, hbuilt⟩
  · rintro ⟨hpod, hbuilt⟩
    exact ⟨hpod, (hbuilt.selects_iff hcomma).mpr rfl⟩

/-- A request of a controller is confined to its own cluster; `before` are the pods when it takes effect,
and `after` those that it leaves. -/
structure Confined (cluster : ι → String) (i : ι) (request : Request) (reply : Reply)
    (before after : List Pod) : Prop where
  listed : ∀ selector listed, request = .listPods selector → reply = .ok listed →
    listed.Sublist before ∧ ∀ pod, pod ∈ listed ↔ pod ∈ before ∧ pod.BuiltFor (cluster i)
  created : ∀ pod, request = .createPod pod → pod.BuiltFor (cluster i) ∧
    ∀ j, Platform.selects (Manifest.labelSelector (cluster j)) pod = true ↔ j = i
  deleted : ∀ name, request = .deletePod name → ∀ pod ∈ before, pod.name = name →
    pod.BuiltFor (cluster i) ∧ ∀ j, pod.BuiltFor (cluster j) → j = i
  -- Pods of the other clusters neither come nor go nor change.
  others : ∀ j, j ≠ i → ∀ pod, pod.BuiltFor (cluster j) → (pod ∈ after ↔ pod ∈ before)

/-- A request of a sound pass reaches the pods of its own cluster only. -/
theorem Sound.confined (hs : s.Sound) (hnames : Function.Injective s.cluster)
    (hcomma : ∀ i, ',' ∉ (s.cluster i).toList) (h : (s.bench i).Settled fuel request reply b) :
    Confined s.cluster i request reply s.platform.pods b.platform.pods := by
  obtain ⟨clock, hsettled⟩ := h.settlement
  have hconcerns : request.Concerns (s.identity i) := (hs.stages i).request hsettled.asked
  constructor
  · rintro selector listed rfl rfl
    exact hs.listed (hcomma i) hconcerns (hsettled.listed listed rfl)
  · rintro pod rfl
    obtain ⟨spec, d, rfl⟩ := hconcerns
    have hbuilt := Pod.BuiltFor.manifest (s.identity i) spec d
    refine ⟨hbuilt, fun j => ?_⟩
    rw [hbuilt.selects_iff (hcomma j)]
    exact hnames.eq_iff
  · rintro name rfl pod hpod rfl
    obtain ⟨cluster, hbuilt⟩ := hs.pods pod hpod
    have hown : cluster = s.cluster i := Naming.cluster_eq_of_generates hbuilt.generates hconcerns
    subst hown
    exact ⟨hbuilt, fun j hj => hnames (hj.cluster_eq hbuilt)⟩
  · intro j hj pod hbuilt
    have hother : s.cluster j ≠ (s.identity i).name := fun h => hj (hnames h)
    rcases hsettled.pods with hpods | hpods
    · rw [hpods]
      rfl
    · rw [hpods]
      exact Platform.mem_podsAfter_iff hconcerns hother hbuilt

variable [DecidableEq ι]

def put (s : Neighbours ι) (i : ι) (b : Bench) : Neighbours ι where
  hand := Function.update s.hand i (b.controller, b.stage)
  platform := b.platform
  draws := b.draws

theorem put_bench (s : Neighbours ι) (i : ι) : s.put i (s.bench i) = s := by
  have hhand : Function.update s.hand i (s.hand i) = s.hand := Function.update_eq_self i s.hand
  simp only [put, bench, hhand]

/-- What can happen in the namespace. Passes start, requests are settled and specs change in any order.
From outside, pods may be changed as long as what was declared stays, and pods and services may go. -/
inductive Move (fuel : Nat) : Neighbours ι → Neighbours ι → Prop
  | call {s : Neighbours ι} {i : ι} {request : Request} {reply : Reply} {b : Bench}
      (h : (s.bench i).Settled fuel request reply b) : Move fuel s (s.put i b)
  | start (s : Neighbours ι) (i : ι) (h : (s.bench i).stage = .finished) :
      Move fuel s (s.put i (s.bench i).start)
  | update (s : Neighbours ι) (i : ι) (spec : ClusterSpec) :
      Move fuel s (s.put i ((s.bench i).update spec))
  | outside (s : Neighbours ι) (p : Platform) (draws : Draws)
      (hpods : ∀ pod' ∈ p.pods, ∃ pod ∈ s.platform.pods, pod'.declared = pod.declared)
      (hservices : p.services ⊆ s.platform.services) (hcalls : p.calls = s.platform.calls) :
      Move fuel s { s with platform := p, draws := draws }

/-- What holds of every hand still does if it holds of the hand that did something. -/
theorem forall_put {P : ι → Controller × Pass.Stage → Prop} (hi : P i (b.controller, b.stage))
    (h : ∀ j, P j (s.hand j)) : ∀ j, P j ((s.put i b).hand j) := by
  intro j
  have hhand : (s.put i b).hand = Function.update s.hand i (b.controller, b.stage) := rfl
  by_cases hj : j = i
  · subst hj
    rw [hhand, Function.update_self]
    exact hi
  · rw [hhand, Function.update_of_ne hj]
    exact h j

theorem identity_put (h : b.identity = s.identity i) (j : ι) :
    (s.put i b).identity j = s.identity j :=
  forall_put (P := fun j hand => hand.1.identity = s.identity j) h (fun _ => rfl) j

/-- What holds of the pass of every controller under its identity still does if it holds of the pass that
went on. -/
theorem stages_put {P : Identity → Pass.Stage → Prop} (hid : b.identity = s.identity i)
    (hi : P (s.identity i) b.stage) (h : ∀ j, P (s.identity j) (s.hand j).2) :
    ∀ j, P ((s.put i b).identity j) ((s.put i b).hand j).2 := by
  intro j
  rw [identity_put hid j]
  exact forall_put (P := fun j hand => P (s.identity j) hand.2) hi h j

/-- No controller ever works for another cluster. -/
theorem Move.identity_eq (h : Move fuel s s') (j : ι) : s'.identity j = s.identity j := by
  cases h with
  | call h =>
    obtain ⟨clock, hsettled⟩ := h.settlement
    exact identity_put (by rw [hsettled.resumed]; rfl) j
  | start i h => exact identity_put rfl j
  | update i spec => exact identity_put ((s.bench i).update_identity spec) j
  | outside => rfl

/-- A settled request leaves each pass with its own cluster. -/
theorem Sound.call (hs : s.Sound) (hcomma : ',' ∉ (s.cluster i).toList)
    (h : (s.bench i).Settled fuel request reply b) : (s.put i b).Sound := by
  obtain ⟨clock, hsettled⟩ := h.settlement
  have hconcerns : request.Concerns (s.identity i) := (hs.stages i).request hsettled.asked
  have hid : b.identity = s.identity i := by rw [hsettled.resumed]; rfl
  constructor
  · -- The pass goes on with its own cluster, since it lists no pods of other clusters.
    refine stages_put hid ?_ hs.stages
    rw [hsettled.resumed]
    apply Pass.resume_concerns (hs.stages i)
    rintro spec listed hstage rfl pod hpod
    have hrequest : request = .listPods (Manifest.labelSelector (s.cluster i)) := by
      have hasked : (s.hand i).2.request? (s.identity i) = some request := hsettled.asked
      rw [hstage] at hasked
      exact (Option.some.inj hasked).symm
    have hserved := hsettled.listed listed rfl
    rw [hrequest] at hserved
    exact (((hs.listed hcomma rfl hserved).2 pod).mp hpod).2.generates
  · intro pod hpod
    rcases hsettled.pods with hpods | hpods
    · exact hs.pods pod (hpods ▸ hpod)
    · exact Platform.podsAfter_built hconcerns hs.pods pod (hpods ▸ hpod)

theorem Move.sound (h : Move fuel s s') (hcomma : ∀ i, ',' ∉ (s.cluster i).toList) (hs : s.Sound) :
    s'.Sound := by
  cases h with
  | @call i request reply b h => exact hs.call (hcomma i) h
  | start i h => exact ⟨stages_put rfl trivial hs.stages, hs.pods⟩
  | update i spec =>
    exact ⟨stages_put ((s.bench i).update_identity spec) (hs.stages i) hs.stages, hs.pods⟩
  | outside p draws hpods hservices hcalls =>
    refine ⟨hs.stages, fun pod' hpod' => ?_⟩
    obtain ⟨pod, hpod, hdeclared⟩ := hpods pod' hpod'
    obtain ⟨cluster, hbuilt⟩ := hs.pods pod hpod
    exact ⟨cluster, hbuilt.congr hdeclared⟩

theorem runs_identity (h : Relation.ReflTransGen (Move fuel) s₀ s) : s.identity = s₀.identity := by
  induction h with
  | refl => rfl
  | tail _ hmove ih => exact (funext hmove.identity_eq).trans ih

theorem runs_cluster (h : Relation.ReflTransGen (Move fuel) s₀ s) : s.cluster = s₀.cluster :=
  funext fun i => congrArg Identity.name (congrFun (runs_identity h) i)

/-- In any run the controllers keep to their clusters. -/
theorem runs_sound (h : Relation.ReflTransGen (Move fuel) s₀ s)
    (hcomma : ∀ i, ',' ∉ (s₀.cluster i).toList) (hs : s₀.Sound) : s.Sound := by
  induction h with
  | refl => exact hs
  | tail hruns hmove ih =>
    rw [← runs_cluster hruns] at hcomma
    exact hmove.sound hcomma ih

/-- Controllers of different clusters in one namespace do not touch each other's pods. In any run from a
namespace whose pods were all built for clusters, whatever the order of the requests and the outcome of
each of them, a controller lists exactly the pods of its own cluster, creates pods that only its own
selector picks, deletes no pod of another cluster, and leaves all of those as they are. -/
theorem clusters_confined (hnames : Function.Injective s₀.cluster)
    (hcomma : ∀ i, ',' ∉ (s₀.cluster i).toList) (hidle : ∀ i, (s₀.bench i).stage = .finished)
    (hpods : s₀.platform.AllBuilt) (hruns : Relation.ReflTransGen (Move fuel) s₀ s)
    (hcall : (s.bench i).Settled fuel request reply b) :
    Confined s₀.cluster i request reply s.platform.pods b.platform.pods := by
  have hfresh : s₀.Sound := by
    refine ⟨fun j => ?_, hpods⟩
    have hstage : (s₀.hand j).2 = .finished := hidle j
    rw [hstage]
    trivial
  have hsound := runs_sound hruns hcomma hfresh
  rw [← runs_cluster hruns] at hnames hcomma ⊢
  exact hsound.confined hnames hcomma hcall

def act (fuel : Nat) (s : Neighbours ι) (i : ι) : Neighbours ι := s.put i ((s.bench i).work fuel)

theorem act_runs (fuel : Nat) (s : Neighbours ι) (i : ι) :
    Relation.ReflTransGen (Move fuel) s (s.act fuel i) := by
  cases hrequest : (s.bench i).stage.request? (s.bench i).identity with
  | none =>
    have hidle : (s.bench i).work fuel = s.bench i := by simp only [Bench.work, hrequest]
    rw [act, hidle, put_bench]
  | some request => exact .single (.call (.answered ((s.bench i).work_answer fuel hrequest)))

/-- Requests that work at once, in any order of the controllers, are a run. -/
theorem acts_run (fuel : Nat) (order : List ι) (s : Neighbours ι) :
    Relation.ReflTransGen (Move fuel) s (order.foldl (act fuel) s) := by
  induction order generalizing s with
  | nil => exact .refl
  | cons i rest ih => exact (act_runs fuel s i).trans (ih _)

def fresh (name : String) : Controller × Pass.Stage :=
  (Controller.ofCluster
    { metadata := { name := some name, scope := some "default" }, spec := { size := 1 } }, .finished)

def firstPod (name : String) (phase : String) : Pod :=
  { Manifest.pod ⟨name, "default", none⟩ {} (Naming.generate name ⟨id, 0⟩).1 with
    status := some { phase := some phase } }

def lookalikes : Neighbours Bool where
  hand second := fresh (if second then "demo-bcdfg" else "demo")
  platform := { pods := [firstPod "demo" "Failed", firstPod "demo-bcdfg" "Running"] }
  draws := ⟨id, 0⟩

def crossing : Neighbours Bool :=
  let begun := lookalikes.put false (lookalikes.bench false).start
  [true, false, true, false, true, false].foldl (act 9) (begun.put true (begun.bench true).start)

theorem crossing_runs : Relation.ReflTransGen (Move 9) lookalikes crossing :=
  .head (.start lookalikes false rfl) (.head (.start _ true rfl) (acts_run 9 _ _))

theorem lookalikes_built : lookalikes.platform.AllBuilt := by
  intro pod hpod
  rcases List.mem_cons.mp hpod with rfl | hpod
  · exact ⟨"demo", ⟨"demo", "default", none⟩, {}, ⟨id, 0⟩, rfl, rfl⟩
  · rw [List.mem_singleton.mp hpod]
    exact ⟨"demo-bcdfg", ⟨"demo-bcdfg", "default", none⟩, {}, ⟨id, 0⟩, rfl, rfl⟩

theorem crossing_removes :
    (crossing.bench false).stage.request? (crossing.bench false).identity =
      some (.deletePod "demo-bcdfg") := by
  have hname : ((crossing.bench false).stage.request? (crossing.bench false).identity).bind
      Request.deletes? = some "demo-bcdfg" := by decide +kernel
  obtain ⟨request, hrequest, hdeletes⟩ := Option.bind_eq_some_iff.mp hname
  rw [hrequest]
  cases request with
  | deletePod name => rw [Option.some.inj hdeletes]
  | _ => cases hdeletes

/-- The first controller removes its own failed pod, although the other cluster has its name. -/
theorem clusters_confined_lookalikes :
    Confined lookalikes.cluster false (.deletePod "demo-bcdfg") (.ok []) crossing.platform.pods
      ((crossing.bench false).work 9).platform.pods := by
  have hnames : Function.Injective lookalikes.cluster := by
    intro i j
    cases i <;> cases j <;> decide
  have hcomma : ∀ i, ',' ∉ (lookalikes.cluster i).toList := by
    intro i
    cases i <;> decide
  have hanswer := (crossing.bench false).work_answer 9 crossing_removes
  exact clusters_confined hnames hcomma (fun _ => rfl) lookalikes_built crossing_runs
    (.answered hanswer)

end Neighbours

end NatsFleet
