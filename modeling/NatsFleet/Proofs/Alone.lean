import NatsFleet.Proofs.Convergence
import NatsFleet.Proofs.Minutes

/-!
Passes of a controller that has its pods to itself. A pass all of whose requests succeed removes from
the members of its cluster what its plan says, and adds as many new ones as are missing.
-/
namespace NatsFleet

def Request.deletes? : Request → Option String
  | .deletePod name => some name
  | _ => none

def Request.creates? : Request → Option Pod
  | .createPod pod => some pod
  | _ => none

def Request.writes? : Request → Option ConfigMap
  | .applyConfigMap config => some config
  | _ => none

def Request.SparesPods (request : Request) : Prop :=
  request.deletes? = none ∧ request.creates? = none

namespace Pass

def deletions (answers : List Answered) : List String :=
  (answers.map (·.request)).filterMap Request.deletes?

def creations (answers : List Answered) : List Pod :=
  (answers.map (·.request)).filterMap Request.creates?

def writings (answers : List Answered) : List ConfigMap :=
  (answers.map (·.request)).filterMap Request.writes?

variable {id : Identity} {fuel : Nat} {m : Memory} {spec spec₀ : ClusterSpec}
  {answers : List Answered} {x y : Answered}

theorem Answered.isOk_of_accepts {a : Answered} (h : a.request.accepts a.reply = true)
    (hmethod : a.request.method ≠ .createService) : a.isOk = true := by
  obtain ⟨listed, hlisted⟩ := Request.ok_of_accepts h hmethod
  exact isOk_ok hlisted

theorem spares_of_requests {requests : List Request} (h : answers.map (·.request) = requests)
    (hspares : ∀ q ∈ requests, q.SparesPods) : ∀ a ∈ answers, a.request.SparesPods :=
  fun _ ha => hspares _ (h ▸ List.mem_map_of_mem ha)

/-- Services are no pods. -/
theorem spares_services (h : [x.request, y.request] = (services id spec).map .createService) :
    ∀ a ∈ [x, y], a.request.SparesPods := by
  have hrequests : [x, y].map (·.request) = (services id spec).map .createService := h
  refine spares_of_requests hrequests fun q hq => ?_
  obtain ⟨s, -, rfl⟩ := List.mem_map.mp hq
  exact ⟨rfl, rfl⟩

namespace Minutes.Sound

variable {r : Minutes id m spec}

theorem spares_listing (h : r.Sound fuel) : r.listing.request.SparesPods := by
  rw [h.listing]
  exact ⟨rfl, rfl⟩

theorem spares_written (h : r.Sound fuel) : ∀ a ∈ r.written, a.request.SparesPods := by
  refine spares_of_requests h.written fun q hq => ?_
  split at hq
  · cases hq
  · rw [List.mem_singleton.mp hq]
    exact ⟨rfl, rfl⟩

theorem spares_published (h : r.Sound fuel) : ∀ a ∈ r.published, a.request.SparesPods := by
  refine spares_of_requests h.published fun q hq => ?_
  split at hq
  · cases hq
  · rw [List.mem_singleton.mp hq]
    exact ⟨rfl, rfl⟩

theorem written_method (h : r.Sound fuel) : ∀ a ∈ r.written, a.request.method ≠ .createService := by
  intro a ha
  have hrequest : a.request ∈ r.written.map (·.request) := List.mem_map_of_mem ha
  rw [h.written] at hrequest
  split at hrequest
  · cases hrequest
  · rw [List.mem_singleton.mp hrequest]
    rintro ⟨⟩

theorem removed_eq (h : r.Sound fuel) :
    r.removed.map (·.request) = (r.plan.removals.map Removal.name).map .deletePod := by
  rw [h.removed, List.map_map]
  rfl

/-- What is of interest in the requests of a pass, apart from services, listings and statuses. -/
theorem filterMap_requests {α : Type} (f : Request → Option α) (h : r.Sound fuel)
    (hservices : [x.request, y.request] = (services id spec₀).map .createService)
    (hservice : ∀ s, f (.createService s) = none) (hlist : ∀ s, f (.listPods s) = none)
    (hpatch : ∀ name s, f (.patchStatus name s) = none) :
    ((x :: y :: r.answered).map (·.request)).filterMap f =
      r.plan.removals.filterMap (fun q => f (.deletePod q.name)) ++
        ((if m.config = some r.text then []
          else (f (.applyConfigMap (Manifest.configMap id spec (config id r.work)))).toList) ++
        r.planned.filterMap fun name => f (.createPod (Manifest.pod id spec name))) := by
  have hrequests : (x :: y :: r.answered).map (·.request) =
      (services id spec₀).map .createService ++
        (.listPods (Manifest.labelSelector id.name) ::
          (r.plan.removals.map (fun q => .deletePod q.name) ++
          ((if m.config = some r.text then []
              else [.applyConfigMap (Manifest.configMap id spec (config id r.work))]) ++
          (r.planned.map (fun name => .createPod (Manifest.pod id spec name)) ++
          (if unchanged m.status r.status then [] else [.patchStatus id.name r.status]))))) := by
    rw [← hservices, ← h.listing, ← h.removed, ← h.written, ← h.created, ← h.published]
    simp only [Minutes.answered, List.map_cons, List.map_append, List.cons_append, List.nil_append]
  -- There is at most one write, and at most one publication.
  have hmaybe (p : Prop) [Decidable p] (q : Request) :
      (if p then [] else [q]).filterMap f = if p then [] else (f q).toList := by
    split
    · rfl
    · cases hq : f q <;> simp [hq]
  rw [hrequests]
  simp only [services, List.map_cons, List.map_nil, List.cons_append, List.nil_append,
    List.filterMap_cons, List.filterMap_append, List.filterMap_map, hservice, hlist, hmaybe, hpatch,
    Option.toList_none, ite_self, List.append_nil]
  rfl

/-- A pass deletes the pods that its plan removes, creates those that it planned, and writes the
configuration unless it is remembered. -/
theorem asks (h : r.Sound fuel)
    (hservices : [x.request, y.request] = (services id spec₀).map .createService) :
    deletions (x :: y :: r.answered) = r.plan.removals.map Removal.name ∧
      creations (x :: y :: r.answered) = r.planned.map (Manifest.pod id spec) ∧
      writings (x :: y :: r.answered) = if m.config = some r.text then []
        else [Manifest.configMap id spec (config id r.work)] := by
  refine ⟨(h.filterMap_requests _ hservices ?_ ?_ ?_).trans ?_,
    (h.filterMap_requests _ hservices ?_ ?_ ?_).trans ?_,
    (h.filterMap_requests _ hservices ?_ ?_ ?_).trans ?_⟩
  all_goals simp [Request.deletes?, Request.creates?, Request.writes?]

end Minutes.Sound

end Pass

namespace Platform

/-- A request that spares the pods leaves them as they are, even if it works. -/
theorem podsAfter_of_sparesPods (p : Platform) {request : Request} (h : request.SparesPods) :
    p.podsAfter request = p.pods := by
  cases request with
  | createPod pod => cases h.2
  | deletePod name => cases h.1
  | _ => rfl

/-- What new pods start with is not changed by any request. -/
theorem serve_initialStatus (p : Platform) (request : Request) :
    (p.serve request).2.initialStatus = p.initialStatus := by
  cases request with
  | createService s =>
    simp only [serve]
    split <;> rfl
  | createPod pod =>
    simp only [serve]
    split <;> rfl
  | deletePod name =>
    simp only [serve, delete]
    split <;> rfl
  | _ => rfl

theorem conclude_initialStatus {p p' : Platform} {moment : Nat} {request : Request}
    {ending : Ending} {reply : Option Reply}
    (h : p.conclude moment request ending = (reply, p')) :
    p'.initialStatus = p.initialStatus := by
  have hp' : p' = (p.conclude moment request ending).2 := by rw [h]
  rw [hp']
  cases ending with
  | works => exact p.serve_initialStatus request
  | _ => rfl

end Platform

namespace Bench

/-- What happens to a controller that has its pods to itself, and what comes back on the way. Outside
of it the pods and the status that new ones start with stay as they are; others draw from the random
source, too. -/
inductive Alone (fuel : Nat) : Bench → List Pass.Answered → Bench → Prop
  | nil (b : Bench) : Alone fuel b [] b
  | outside {b b' : Bench} {answers : List Pass.Answered} (p : Platform) (draws : Draws)
      (hpods : p.pods = b.platform.pods) (hstatus : p.initialStatus = b.platform.initialStatus)
      (hrest : Alone fuel { b with platform := p, draws := draws } answers b') :
      Alone fuel b answers b'
  | call {b b' : Bench} {answers : List Pass.Answered} {request : Request} {reply : Reply}
      (moment : Nat) (clock : Timestamp) (ending : Ending) (p : Platform)
      (hrequest : b.stage.request? b.identity = some request)
      (hreply : b.platform.conclude moment request ending = (some reply, p))
      (hrest : Alone fuel (b.resume fuel clock reply p) answers b') :
      Alone fuel b (⟨request, reply, b.controller.desk b.draws clock⟩ :: answers) b'

def members (b : Bench) : List Pod := b.platform.members b.identity.name

def plan (b : Bench) : Plan := .ofListing b.identity b.controller.spec b.members

def Newborn (b : Bench) (pod : Pod) : Prop :=
  ∃ (p : Platform) (name : String), p.initialStatus = b.platform.initialStatus ∧
    pod = p.newcomer (Manifest.pod b.identity b.controller.spec name)

variable {fuel : Nat} {b b' b'' : Bench} {answers front back : List Pass.Answered}

/-- Two runs one after the other are one run. -/
theorem Alone.append (h : Alone fuel b front b') (h' : Alone fuel b' back b'') :
    Alone fuel b (front ++ back) b'' := by
  induction h with
  | nil b => exact h'
  | outside p draws hpods hstatus hrest ih => exact .outside p draws hpods hstatus (ih h')
  | call moment clock ending p hrequest hreply hrest ih =>
    exact .call moment clock ending p hrequest hreply (ih h')

/-- A run goes through a bench for each way of cutting its labels in two. -/
theorem Alone.split (h : Alone fuel b (front ++ back) b') :
    ∃ b₁, Alone fuel b front b₁ ∧ Alone fuel b₁ back b' := by
  generalize hanswers : front ++ back = answers at h
  induction h generalizing front with
  | nil b =>
    obtain ⟨rfl, rfl⟩ := List.append_eq_nil_iff.mp hanswers
    exact ⟨b, .nil b, .nil b⟩
  | outside p draws hpods hstatus hrest ih =>
    obtain ⟨b₁, hfront, hback⟩ := ih hanswers
    exact ⟨b₁, .outside p draws hpods hstatus hfront, hback⟩
  | @call b b' answers request reply moment clock ending p hrequest hreply hrest ih =>
    cases front with
    -- Nothing has come back before the cut, or the cut is in what comes back later.
    | nil =>
      rw [List.nil_append] at hanswers
      rw [hanswers]
      exact ⟨b, .nil b, .call moment clock ending p hrequest hreply hrest⟩
    | cons a front =>
      obtain ⟨rfl, hanswers'⟩ := List.cons.inj hanswers
      obtain ⟨b₁, hfront, hback⟩ := ih hanswers'
      exact ⟨b₁, .call moment clock ending p hrequest hreply hfront, hback⟩

/-- What the pods and the platform do is no concern of the minutes of a pass. -/
theorem Alone.runs (h : Alone fuel b answers b') :
    Pass.Runs b.identity fuel b.stage b.controller.memory answers b'.stage
      b'.controller.memory := by
  induction h with
  | nil b => exact .refl _ _
  | outside p draws hpods hstatus hrest ih => exact ih
  | call moment clock ending p hrequest hreply hrest ih => exact .reply hrequest rfl ih

/-- The cluster and its spec stay the same, and so does what new pods start with. -/
theorem Alone.constant (h : Alone fuel b answers b') :
    b'.identity = b.identity ∧ b'.controller.spec = b.controller.spec ∧
      b'.platform.initialStatus = b.platform.initialStatus := by
  induction h with
  | nil b => exact ⟨rfl, rfl, rfl⟩
  | outside p draws hpods hstatus hrest ih => exact ⟨ih.1, ih.2.1, ih.2.2.trans hstatus⟩
  | call moment clock ending p hrequest hreply hrest ih =>
    exact ⟨ih.1, ih.2.1, ih.2.2.trans (Platform.conclude_initialStatus hreply)⟩

theorem Alone.identity_eq (h : Alone fuel b answers b') : b'.identity = b.identity := h.constant.1

theorem Alone.spec_eq (h : Alone fuel b answers b') : b'.controller.spec = b.controller.spec :=
  h.constant.2.1

theorem Alone.initialStatus_eq (h : Alone fuel b answers b') :
    b'.platform.initialStatus = b.platform.initialStatus := h.constant.2.2

/-- Every reply is read with the same spec on the desk. -/
theorem Alone.desk_spec (h : Alone fuel b answers b') :
    ∀ a ∈ answers, a.desk.spec = b.controller.spec := by
  induction h with
  | nil b => exact fun a ha => absurd ha List.not_mem_nil
  | outside p draws hpods hstatus hrest ih => exact ih
  | call moment clock ending p hrequest hreply hrest ih =>
    intro a ha
    rcases List.mem_cons.mp ha with rfl | ha
    · rfl
    · exact ih a ha

theorem Alone.namesDistinct (h : Alone fuel b answers b') (hnames : b.platform.NamesDistinct) :
    b'.platform.NamesDistinct := by
  induction h with
  | nil b => exact hnames
  | outside p draws hpods hstatus hrest ih =>
    refine ih ?_
    rw [Platform.NamesDistinct, hpods]
    exact hnames
  | call moment clock ending p hrequest hreply hrest ih =>
    exact ih (Platform.conclude_namesDistinct hreply hnames)

/-- Requests that spare the pods leave them alone, however they come out. -/
theorem Alone.pods_eq (h : Alone fuel b answers b')
    (hspares : ∀ a ∈ answers, a.request.SparesPods) : b'.platform.pods = b.platform.pods := by
  induction h with
  | nil b => rfl
  | outside p draws hpods hstatus hrest ih => exact (ih hspares).trans hpods
  | @call b b' answers request reply moment clock ending p hrequest hreply hrest ih =>
    obtain ⟨hrequest', hanswers⟩ := List.forall_mem_cons.mp hspares
    refine (ih hanswers).trans ?_
    cases reply with
    | ok listed =>
      exact (Platform.conclude_ok hreply).2.trans (b.platform.podsAfter_of_sparesPods hrequest')
    | error e => exact Platform.conclude_error hreply

/-- The members stay as long as all that comes back spares the pods. -/
theorem Alone.members_eq (h : Alone fuel b answers b')
    (hspares : ∀ a ∈ answers, a.request.SparesPods) : b'.members = b.members := by
  rw [members, members, h.identity_eq]
  exact Platform.members_congr _ (h.pods_eq hspares)

/-- After deletions that succeed, those pods are no longer members. -/
theorem Alone.members_deleted {names : List String} (h : Alone fuel b answers b')
    (hrequests : answers.map (·.request) = names.map .deletePod)
    (haccepted : ∀ a ∈ answers, a.request.accepts a.reply = true) :
    b'.members = b.members.filter fun pod => pod.name ∉ names := by
  -- By induction on the run: each reply takes the first of the names away.
  induction h generalizing names with
  | nil b =>
    obtain rfl := List.map_eq_nil_iff.mp hrequests.symm
    simp
  | @outside b b' answers p draws hpods hstatus hrest ih =>
    rw [ih hrequests haccepted]
    congr 1
    exact Platform.members_congr _ hpods
  | @call b b' answers request reply moment clock ending p hrequest hreply hrest ih =>
    obtain ⟨name, names, rfl, hname, hnames⟩ := List.map_eq_cons_iff.mp hrequests.symm
    obtain ⟨haccept, haccepted'⟩ := List.forall_mem_cons.mp haccepted
    obtain rfl : .deletePod name = request := hname
    obtain ⟨listed, rfl⟩ := Request.ok_of_accepts haccept (by rintro ⟨⟩)
    have hfirst : (b.resume fuel clock (.ok listed) p).members =
        b.members.filter fun pod => pod.name ≠ name := by
      rw [members, members, ← Platform.members_delete]
      exact Platform.members_congr _ (Platform.conclude_ok hreply).2
    rw [ih hnames.symm haccepted', hfirst, List.filter_filter]
    apply List.filter_congr
    intro pod _
    simp [Bool.and_comm]

/-- After creations that succeed, the new pods are members. -/
theorem Alone.members_created {names : List String} (h : Alone fuel b answers b')
    (hrequests : answers.map (·.request) =
      names.map fun name => .createPod (Manifest.pod b.identity b.controller.spec name))
    (haccepted : ∀ a ∈ answers, a.request.accepts a.reply = true) :
    ∃ new, b'.members = b.members ++ new ∧ new.map Pod.name = names ∧
      ∀ pod ∈ new, b.Newborn pod := by
  -- By induction on the run: the pod of the first name joins first.
  induction h generalizing names with
  | nil b =>
    obtain rfl := List.map_eq_nil_iff.mp hrequests.symm
    exact ⟨[], (List.append_nil _).symm, rfl, fun pod hpod => absurd hpod List.not_mem_nil⟩
  | @outside b b' answers p draws hpods hstatus hrest ih =>
    obtain ⟨new, hmembers, hnew, hnewborn⟩ := ih hrequests haccepted
    refine ⟨new, hmembers.trans ?_, hnew, fun pod hpod => ?_⟩
    · congr 1
      exact Platform.members_congr _ hpods
    · obtain ⟨q, name, hq, hpod'⟩ := hnewborn pod hpod
      exact ⟨q, name, hq.trans hstatus, hpod'⟩
  | @call b b' answers request reply moment clock ending p hrequest hreply hrest ih =>
    obtain ⟨name, names, rfl, hname, hnames⟩ := List.map_eq_cons_iff.mp hrequests.symm
    obtain ⟨haccept, haccepted'⟩ := List.forall_mem_cons.mp haccepted
    obtain rfl : .createPod (Manifest.pod b.identity b.controller.spec name) = request := hname
    obtain ⟨listed, rfl⟩ := Request.ok_of_accepts haccept (by rintro ⟨⟩)
    obtain ⟨hlisted, hpods⟩ := Platform.conclude_ok hreply
    have hfirst : (b.resume fuel clock (.ok listed) p).members = b.members ++
        [b.platform.newcomer (Manifest.pod b.identity b.controller.spec name)] :=
      Platform.members_created hlisted hpods rfl (Platform.carries_pod _ _ _)
    obtain ⟨new, hmembers, hnew, hnewborn⟩ := ih hnames.symm haccepted'
    refine ⟨b.platform.newcomer (Manifest.pod b.identity b.controller.spec name) :: new, ?_, ?_, ?_⟩
    · rw [hmembers, hfirst, List.append_assoc]
      rfl
    · rw [List.map_cons, hnew]
      rfl
    · intro pod hpod
      rcases List.mem_cons.mp hpod with rfl | hpod
      · exact ⟨b.platform, name, rfl, rfl⟩
      · obtain ⟨q, name', hq, hpod'⟩ := hnewborn pod hpod
        exact ⟨q, name', hq.trans (Platform.conclude_initialStatus hreply), hpod'⟩

/-- What a listing returns are the pods that it selects. -/
theorem Alone.listed {a : Pass.Answered} {selector : String} {listed : List Pod}
    (h : Alone fuel b (a :: answers) b') (hrequest : a.request = .listPods selector)
    (hreply : a.reply = .ok listed) :
    listed = b.platform.pods.filter (Platform.selects selector) := by
  generalize hanswers : a :: answers = all at h
  induction h with
  | nil b => cases hanswers
  | outside p draws hpods hstatus hrest ih => rw [ih hanswers, hpods]
  | @call b b' answers' request reply moment clock ending p hstage hconclude hrest ih =>
    obtain ⟨rfl, -⟩ := List.cons.inj hanswers
    obtain rfl : request = .listPods selector := hrequest
    obtain rfl : reply = .ok listed := hreply
    exact (Except.ok.inj (Platform.conclude_ok hconclude).1).symm

/-- A whole pass of a controller that has its pods to itself; all that it asks for succeeds. -/
structure CleanPass (fuel : Nat) (b : Bench) (answers : List Pass.Answered) (b' : Bench) : Prop where
  idle : b.stage = .finished
  alone : Alone fuel b.start answers b'
  accepted : ∀ a ∈ answers, a.request.accepts a.reply = true
  done : b'.stage = .finished

structure Turned (b : Bench) (answers : List Pass.Answered) (b' : Bench) (planned : List String)
    (new : List Pod) : Prop where
  identity : b'.identity = b.identity
  spec : b'.controller.spec = b.controller.spec
  names : b'.platform.NamesDistinct
  deletions : Pass.deletions answers = b.plan.removals.map Removal.name
  creations : Pass.creations answers = planned.map (Manifest.pod b.identity b.controller.spec)
  planned_length : planned.length = b.plan.shortfall b.controller.spec
  members : b'.members =
    (b.members.filter fun pod => pod.name ∉ b.plan.removals.map Removal.name) ++ new
  new_names : new.map Pod.name = planned
  newborn : ∀ pod ∈ new, b.Newborn pod
  config : b'.controller.memory.config =
    some (Pass.config b.identity ⟨b.controller.spec, b.plan, planned⟩).render

/-- What a new pod looks like does not change during a run. -/
theorem Newborn.of_alone {pod : Pod} (h : Alone fuel b answers b') (hpod : b'.Newborn pod) :
    b.Newborn pod := by
  obtain ⟨hid, hspec, hstatus⟩ := h.constant
  obtain ⟨p, name, hp, rfl⟩ := hpod
  rw [hid, hspec]
  exact ⟨p, name, hp.trans hstatus, rfl⟩

/-- What a pass does to the members if all that it asks for from its listing on succeeds. -/
theorem Alone.members_minutes {m : Memory} {r : Pass.Minutes b.identity m b.controller.spec}
    (hr : r.Sound fuel) (h : Alone fuel b (front ++ r.answered) b')
    (hfront : ∀ a ∈ front, a.request.SparesPods)
    (haccepted : ∀ a ∈ r.answered, a.request.accepts a.reply = true) :
    ∃ new, b'.members =
        (b.members.filter fun pod => pod.name ∉ r.plan.removals.map Removal.name) ++ new ∧
      new.map Pod.name = r.planned ∧ ∀ pod ∈ new, b.Newborn pod := by
  have hparts : front ++ r.answered =
      (front ++ [r.listing]) ++ (r.removed ++ (r.written ++ (r.created ++ r.published))) := by
    rw [List.append_assoc]
    rfl
  have hopening : ∀ a ∈ front ++ [r.listing], a.request.SparesPods :=
    List.forall_mem_append.mpr ⟨hfront, List.forall_mem_singleton.mpr hr.spares_listing⟩
  simp only [Pass.Minutes.answered, List.forall_mem_cons, List.forall_mem_append] at haccepted
  obtain ⟨-, hremoved, -, hcreated, -⟩ := haccepted
  rw [hparts] at h
  obtain ⟨b₁, h₁, h⟩ := h.split
  obtain ⟨b₂, h₂, h⟩ := h.split
  obtain ⟨b₃, h₃, h⟩ := h.split
  obtain ⟨b₄, h₄, h⟩ := h.split
  -- Only the deletions and the creations make a difference to the members.
  have hmembers₁ := h₁.members_eq hopening
  have hmembers₂ := h₂.members_deleted hr.removed_eq hremoved
  have hmembers₃ := h₃.members_eq hr.spares_written
  have hid : b₃.identity = b.identity :=
    h₃.identity_eq.trans (h₂.identity_eq.trans h₁.identity_eq)
  have hspec : b₃.controller.spec = b.controller.spec :=
    h₃.spec_eq.trans (h₂.spec_eq.trans h₁.spec_eq)
  obtain ⟨new, hmembers₄, hnew, hnewborn⟩ :=
    h₄.members_created (by rw [hid, hspec]; exact hr.created) hcreated
  refine ⟨new, ?_, hnew, fun pod hpod => ?_⟩
  · rw [h.members_eq hr.spares_published, hmembers₄, hmembers₃, hmembers₂, hmembers₁]
  · exact (((hnewborn pod hpod).of_alone h₃).of_alone h₂).of_alone h₁

/-- A pass that is over has failed to list the pods, or has planned for the members there were. -/
theorem Alone.minutes (h : Alone fuel b.start answers b') (hdone : b'.stage = .finished)
    (hcomma : ',' ∉ b.identity.name.toList) :
    ∃ x y rest, answers = x :: y :: rest ∧
      [x.request, y.request] = (Pass.services b.identity b.controller.spec).map .createService ∧
      ((∃ a e, rest = [a] ∧ a.request = .listPods (Manifest.labelSelector b.identity.name) ∧
          a.reply = .error e) ∨
        ∃ r : Pass.Minutes b.identity b.controller.memory b.controller.spec,
          r.Sound fuel ∧ rest = r.answered ∧ r.plan = b.plan ∧ b'.controller.memory = r.after) := by
  have hruns := h.runs
  rw [hdone] at hruns
  obtain ⟨x, y, rest, rfl, hservices, hrest⟩ := Pass.runs_start hruns
  have hspec : y.desk.spec = b.controller.spec :=
    h.desk_spec y (List.mem_cons_of_mem _ List.mem_cons_self)
  rw [hspec] at hrest
  have hspares := Pass.spares_services hservices
  refine ⟨x, y, rest, rfl, hservices, ?_⟩
  rcases Pass.minutes_of_listing hrest with ⟨a, e, rfl, hrequest, hreply, -⟩ | ⟨r, hr, rfl, hafter⟩
  · exact .inl ⟨a, e, rfl, hrequest, hreply⟩
  · have hparts : Alone fuel b.start ([x, y] ++ r.answered) b' := h
    obtain ⟨b₁, hfirst, hback⟩ := hparts.split
    have hlisted : r.listed =
        b.platform.pods.filter (Platform.selects (Manifest.labelSelector b.identity.name)) := by
      rw [hback.listed hr.listing hr.listed, hfirst.pods_eq hspares]
      rfl
    -- The listing shows the members, and besides at most pods that are on their way out.
    have hplan : r.plan = b.plan := by
      refine Plan.ofListing_congr b.identity b.controller.spec ?_
      rw [hlisted, b.platform.present_eq_members _ hcomma, members,
        ← b.platform.present_eq_members _ hcomma, Plan.present_present]
    exact .inr ⟨r, hr, rfl, hplan, hafter⟩

/-- A clean pass has done to the members what its plan says. -/
theorem CleanPass.turned (h : b.CleanPass fuel answers b') (hcomma : ',' ∉ b.identity.name.toList)
    (hnames : b.platform.NamesDistinct) : ∃ planned new, b.Turned answers b' planned new := by
  obtain ⟨x, y, rest, rfl, hservices, hrest⟩ := h.alone.minutes h.done hcomma
  have haccepted : ∀ a ∈ rest, a.request.accepts a.reply = true := fun a ha =>
    h.accepted a (List.mem_cons_of_mem _ (List.mem_cons_of_mem _ ha))
  rcases hrest with ⟨a, e, rfl, hrequest, hreply⟩ | ⟨r, hr, rfl, hplan, hafter⟩
  · -- A listing that fails is not accepted.
    obtain ⟨listed, hlisted⟩ := Request.ok_of_accepts (haccepted a List.mem_cons_self)
      (by rw [hrequest]; rintro ⟨⟩)
    rw [hreply] at hlisted
    cases hlisted
  have hparts : Alone fuel b.start ([x, y] ++ r.answered) b' := h.alone
  obtain ⟨new, hmembers, hnew, hnewborn⟩ :=
    Alone.members_minutes (b := b.start) hr hparts (Pass.spares_services hservices) haccepted
  obtain ⟨hdeletions, hcreations, -⟩ := hr.asks hservices
  have hwritten : r.written.all Pass.Answered.isOk = true := by
    rw [List.all_eq_true]
    intro a ha
    refine Pass.Answered.isOk_of_accepts (haccepted a ?_) (hr.written_method a ha)
    simp only [Pass.Minutes.answered, List.mem_cons, List.mem_append, ha, true_or, or_true]
  have hlength : r.planned.length = r.plan.shortfall b.controller.spec := by
    obtain ⟨draws, draws', hplanned⟩ := hr.planned
    exact Naming.plan_length _ _ _ _ _ _ _ hplanned
  have hconfig : b'.controller.memory.config =
      some (Pass.config b.identity ⟨b.controller.spec, b.plan, r.planned⟩).render := by
    rw [hafter, Pass.Minutes.after, hwritten, if_pos rfl, Pass.Minutes.text, Pass.Minutes.work, hplan]
  refine ⟨r.planned, new, ?_⟩
  exact {
    identity := h.alone.identity_eq
    spec := h.alone.spec_eq
    names := h.alone.namesDistinct hnames
    deletions := hplan ▸ hdeletions
    creations := hcreations
    planned_length := hplan ▸ hlength
    members := hplan ▸ hmembers
    new_names := hnew
    newborn := hnewborn
    config := hconfig }

def replies (fuel : Nat) : Nat → Bench → List Pass.Answered
  | 0, _ => []
  | n + 1, b =>
    match b.stage.request? b.identity with
    | none => []
    | some request =>
      ⟨request, (b.platform.serve request).1, b.controller.desk b.draws ⟨0, 0⟩⟩ ::
        replies fuel n (b.work fuel)

/-- Requests that work at once are a run without anybody else. -/
theorem work_alone (fuel n : Nat) (b : Bench) :
    Alone fuel b (b.replies fuel n) ((work fuel)^[n] b) := by
  induction n generalizing b with
  | zero => exact .nil b
  | succ n ih =>
    unfold replies
    split
    · rename_i hover
      have hstays : b.work fuel = b := by
        unfold work
        rw [hover]
      rw [Function.iterate_fixed hstays]
      exact .nil b
    · rename_i request hrequest
      let served := b.platform.serve request
      let p := served.2.note 0 request (some served.1)
      have hreply : b.platform.conclude 0 request .works = (some served.1, p) := rfl
      have hwork : b.work fuel = b.resume fuel ⟨0, 0⟩ served.1 p := by
        simp only [work, hrequest, served, p]
      refine .call 0 ⟨0, 0⟩ .works p hrequest hreply ?_
      rw [← hwork]
      exact ih _

/-- A pass whose requests all work at once is a clean one, if they end it. -/
theorem work_cleanPass (fuel n : Nat) (b : Bench) (hidle : b.stage = .finished)
    (haccepted : (b.start.replies fuel n).all (fun a => a.request.accepts a.reply) = true)
    (hdone : ((work fuel)^[n] b.start).stage.isFinished = true) :
    b.CleanPass fuel (b.start.replies fuel n) ((work fuel)^[n] b.start) where
  idle := hidle
  alone := work_alone fuel n b.start
  accepted := List.all_eq_true.mp haccepted
  done := Pass.Stage.eq_finished hdone

end Bench

end NatsFleet
