import NatsFleet.Controller.Basic
import NatsFleet.Proofs.Members
import NatsFleet.Proofs.Memo
import Mathlib.Logic.Function.Iterate
import Mathlib.Logic.Relation

/-!
A controller at work in its namespace, one request at a time. Between its requests its spec may
change and, as far as a move says, so may the platform.
-/
namespace NatsFleet

/-- A controller, where its present pass stands, and the namespace that it works in. -/
structure Bench where
  controller : Controller
  stage : Pass.Stage := .finished
  platform : Platform
  draws : Draws

namespace Pass.Stage

def isFinished : Stage → Bool
  | .finished => true
  | _ => false

def listing? : Stage → Option ClusterSpec
  | .listing spec => some spec
  | _ => none

theorem eq_finished {stage : Stage} (h : stage.isFinished = true) : stage = .finished := by
  cases stage <;> first | rfl | cases h

theorem eq_listing {stage : Stage} {spec : ClusterSpec} (h : stage.listing? = some spec) :
    stage = .listing spec := by
  cases stage <;> cases h
  rfl

end Pass.Stage

/-- A controller takes a reply for a success: that a service exists already is one. -/
def Request.accepts (request : Request) : Reply → Bool
  | .ok _ => true
  | .error (.alreadyExists _) => request.method = .createService
  | .error _ => false

/-- Only the creation of a service may be refused. -/
theorem Request.ok_of_accepts {request : Request} {reply : Reply}
    (h : request.accepts reply = true) (hmethod : request.method ≠ .createService) :
    ∃ listed, reply = .ok listed := by
  cases reply with
  | ok listed => exact ⟨listed, rfl⟩
  | error e =>
    cases e <;> simp [accepts, hmethod] at h

namespace Bench

def identity (b : Bench) : Identity := b.controller.identity

def document? (b : Bench) : Option String := b.platform.document? b.identity.name

def update (b : Bench) (spec : ClusterSpec) : Bench :=
  { b with controller := (b.controller.update spec).2 }

def start (b : Bench) : Bench :=
  { b with stage := Pass.start b.identity b.controller.spec }

def resume (fuel : Nat) (b : Bench) (clock : Timestamp) (reply : Reply) (p : Platform) : Bench :=
  let next := Pass.resume b.identity fuel b.stage reply (b.controller.desk b.draws clock)
  { controller := { b.controller with memory := next.2.memory }
    stage := next.1, platform := p, draws := next.2.draws }

inductive Answer (fuel : Nat) (b : Bench) (request : Request) (reply : Reply) : Bench → Prop
  | intro (moment : Nat) (clock : Timestamp) (ending : Ending) (p : Platform)
      (hrequest : b.stage.request? b.identity = some request)
      (hreply : b.platform.conclude moment request ending = (some reply, p)) :
      Answer fuel b request reply (b.resume fuel clock reply p)

/-- What can happen in a run of a controller that alone writes its config map. Outside of it,
anything can happen that leaves the config map alone and the names of pods distinct; others draw
from the random source, too. -/
inductive Move (fuel : Nat) : Bench → Bench → Prop
  | update (b : Bench) (spec : ClusterSpec) : Move fuel b (b.update spec)
  | start (b : Bench) (h : b.stage = .finished) : Move fuel b b.start
  | call {b b' : Bench} {request : Request} {reply : Reply} (h : Answer fuel b request reply b') :
      Move fuel b b'
  | outside (b : Bench) (p : Platform) (draws : Draws) (hnames : p.NamesDistinct)
      (hdocument : p.document? b.identity.name = b.document?) :
      Move fuel b { b with platform := p, draws := draws }

/-- What can happen during a pass all of whose requests succeed while nothing else changes the
pods. -/
inductive CleanMove (fuel : Nat) : Bench → Bench → Prop
  | update (b : Bench) (spec : ClusterSpec) : CleanMove fuel b (b.update spec)
  | call {b b' : Bench} {request : Request} {reply : Reply} (h : Answer fuel b request reply b')
      (hreply : request.accepts reply = true) : CleanMove fuel b b'
  | outside (b : Bench) (p : Platform) (draws : Draws) (hpods : p.pods = b.platform.pods)
      (hdocument : p.document? b.identity.name = b.document?) :
      CleanMove fuel b { b with platform := p, draws := draws }

/-- What the controller remembers as the configuration in place is in place, and the names of pods
are distinct. -/
structure Sound (b : Bench) : Prop where
  names : b.platform.NamesDistinct
  memo : ∀ text, b.controller.memory.config = some text → b.document? = some text

@[simp] theorem update_identity (b : Bench) (spec : ClusterSpec) :
    (b.update spec).identity = b.identity := by
  simp only [update, identity, Controller.update]
  split <;> rfl

@[simp] theorem update_memory (b : Bench) (spec : ClusterSpec) :
    (b.update spec).controller.memory = b.controller.memory := by
  simp only [update, Controller.update]
  split <;> rfl

/-- Whatever happens, the controller works for the same cluster. -/
theorem Move.identity_eq {fuel : Nat} {b b' : Bench} (h : Move fuel b b') :
    b'.identity = b.identity := by
  cases h with
  | update spec => exact b.update_identity spec
  | start => rfl
  | call h => cases h; rfl
  | outside => rfl

/-- A write that comes back puts the rendered configuration into the config map. -/
theorem written?_configMap (id : Identity) (w : Work) (moment : Nat) (listed : List Pod) :
    Call.written? id.name ⟨moment, .applyConfigMap (Manifest.configMap id w.spec (Pass.config id w)),
      some (.ok listed)⟩ = some (Pass.config id w).render := by
  simp [Call.written?, Manifest.configMap, Manifest.metadata, ObjectMeta.anyName]

/-- What the controller remembers stays the text in place when its request comes back. -/
theorem configAfter_written {id : Identity} {stage : Pass.Stage} {request : Request}
    (hrequest : stage.request? id = some request) {memo document : Option String}
    (hmemo : ∀ text, memo = some text → document = some text) (moment : Nat) (reply : Reply)
    (text : String) (htext : Pass.configAfter id memo stage reply = some text) :
    (Call.written? id.name ⟨moment, request, some reply⟩).or document = some text := by
  have hkeep (hnone : Call.written? id.name ⟨moment, request, some reply⟩ = none)
      (hsame : Pass.configAfter id memo stage reply = memo) :
      (Call.written? id.name ⟨moment, request, some reply⟩).or document = some text := by
    rw [hnone, Option.none_or]
    exact hmemo text (hsame ▸ htext)
  -- Only one stage stands at a write, and all others leave the memo as it is.
  cases stage with
  | configuring w =>
    cases hrequest
    cases reply with
    | error e => simp [Pass.configAfter] at htext
    | ok listed =>
      rw [written?_configMap, Option.some_or]
      exact htext
  | services todo => cases todo <;> cases hrequest; exact hkeep rfl rfl
  | listing spec => cases hrequest; exact hkeep rfl rfl
  | removing spec plan todo => cases todo <;> cases hrequest; exact hkeep rfl rfl
  | naming => cases hrequest
  | creating w todo records => cases todo <;> cases hrequest; exact hkeep rfl rfl
  | publishing status => cases hrequest; exact hkeep rfl rfl
  | finished => cases hrequest

/-- No two pods get the same name. -/
theorem Move.namesDistinct {fuel : Nat} {b b' : Bench} (h : Move fuel b b')
    (hnames : b.platform.NamesDistinct) : b'.platform.NamesDistinct := by
  cases h with
  | update spec => exact hnames
  | start h => exact hnames
  | call h =>
    obtain ⟨moment, clock, ending, p, -, hreply⟩ := h
    exact Platform.conclude_namesDistinct hreply hnames
  | outside p draws hnames' => exact hnames'

/-- A reply changes the memory only along with the config map. -/
theorem Answer.memo {fuel : Nat} {b b' : Bench} {request : Request} {reply : Reply}
    (h : Answer fuel b request reply b')
    (hmemo : ∀ text, b.controller.memory.config = some text → b.document? = some text)
    (text : String) (htext : b'.controller.memory.config = some text) :
    b'.document? = some text := by
  obtain ⟨moment, clock, ending, p, hrequest, hreply⟩ := h
  have hconfig : (b.resume fuel clock reply p).controller.memory.config =
      Pass.configAfter b.identity b.controller.memory.config b.stage reply :=
    Pass.resume_config _ _ _ _ _
  rw [hconfig] at htext
  have hdocument : (b.resume fuel clock reply p).document? = p.document? b.identity.name := rfl
  rw [hdocument, Platform.conclude_document b.identity.name hreply]
  exact configAfter_written hrequest hmemo moment reply text htext

/-- Nothing that can happen makes the memory wrong. -/
theorem Move.sound {fuel : Nat} {b b' : Bench} (h : Move fuel b b') (hb : b.Sound) : b'.Sound := by
  refine ⟨h.namesDistinct hb.names, fun text htext => ?_⟩
  -- What the controller does by itself is a reply; nothing else touches the memo or the config map.
  cases h with
  | update spec =>
    rw [update_memory] at htext
    rw [document?, update_identity]
    exact hb.memo text htext
  | start h => exact hb.memo text htext
  | call h => exact h.memo hb.memo text htext
  | outside p draws hnames hdocument => exact hdocument.trans (hb.memo text htext)

/-- What happens in a clean pass can happen at any time. -/
theorem CleanMove.move {fuel : Nat} {b b' : Bench} (h : CleanMove fuel b b')
    (hnames : b.platform.NamesDistinct) : Move fuel b b' := by
  cases h with
  | update s => exact .update b s
  | call h _ => exact .call h
  | outside p draws hpods hdocument =>
    have hnames' : p.NamesDistinct := by
      rw [Platform.NamesDistinct, hpods]
      exact hnames
    exact .outside b p draws hnames' hdocument

theorem runs_identity {fuel : Nat} {b b' : Bench} (h : Relation.ReflTransGen (Move fuel) b b') :
    b'.identity = b.identity := by
  induction h with
  | refl => rfl
  | tail _ hmove ih => exact hmove.identity_eq.trans ih

/-- What the controller remembers stays true in any run. -/
theorem runs_sound {fuel : Nat} {b b' : Bench} (h : Relation.ReflTransGen (Move fuel) b b')
    (hb : b.Sound) : b'.Sound := by
  induction h with
  | refl => exact hb
  | tail _ hmove ih => exact hmove.sound ih

theorem clean_runs {fuel : Nat} {b b' : Bench} (h : Relation.ReflTransGen (CleanMove fuel) b b')
    (hnames : b.platform.NamesDistinct) :
    Relation.ReflTransGen (Move fuel) b b' ∧ b'.platform.NamesDistinct := by
  induction h with
  | refl => exact ⟨.refl, hnames⟩
  | tail _ hmove ih =>
    have hmove' := hmove.move ih.2
    exact ⟨ih.1.tail hmove', hmove'.namesDistinct ih.2⟩

def work (fuel : Nat) (b : Bench) : Bench :=
  match b.stage.request? b.identity with
  | none => b
  | some request =>
    let served := b.platform.serve request
    b.resume fuel ⟨0, 0⟩ served.1 (served.2.note 0 request (some served.1))

def succeeds (fuel : Nat) : Nat → Bench → Bool
  | 0, _ => true
  | n + 1, b =>
    match b.stage.request? b.identity with
    | none => false
    | some request =>
      request.accepts (b.platform.serve request).1 && succeeds fuel n (b.work fuel)

/-- A request that works at once is one that comes back. -/
theorem work_answer (fuel : Nat) (b : Bench) {request : Request}
    (h : b.stage.request? b.identity = some request) :
    Answer fuel b request (b.platform.serve request).1 (b.work fuel) := by
  simp only [work, h]
  exact .intro 0 ⟨0, 0⟩ .works _ h rfl

/-- Requests that all succeed make a clean run. -/
theorem work_runs (fuel n : Nat) (b : Bench) (h : b.succeeds fuel n = true) :
    Relation.ReflTransGen (CleanMove fuel) b ((work fuel)^[n] b) := by
  induction n generalizing b with
  | zero => exact .refl
  | succ n ih =>
    unfold succeeds at h
    split at h
    · cases h
    · rename_i request hrequest
      rw [Bool.and_eq_true] at h
      exact .head (.call (b.work_answer fuel hrequest) h.1) (ih _ h.2)

def found (fuel : Nat) (b : Bench) (spec : ClusterSpec) (plan : Plan) : Bench :=
  let served := b.platform.serve (.listPods (Manifest.labelSelector b.identity.name))
  let next := Pass.remove b.identity fuel spec plan plan.removals (b.controller.desk b.draws ⟨0, 0⟩)
  { controller := { b.controller with memory := next.2.memory }
    stage := next.1
    platform := served.2.note 0 (.listPods (Manifest.labelSelector b.identity.name)) (some served.1)
    draws := next.2.draws }

theorem work_found (fuel : Nat) (b : Bench) {spec : ClusterSpec} {plan : Plan}
    (hstage : b.stage = .listing spec)
    (hplan : Plan.ofListing b.identity spec
      (b.platform.pods.filter (Platform.selects (Manifest.labelSelector b.identity.name))) = plan) :
    b.work fuel = b.found fuel spec plan := by
  subst hplan
  simp only [work, resume, hstage]
  rfl

/-- A listing that works leads to the removals of its plan. -/
theorem found_runs (fuel : Nat) (b : Bench) {spec : ClusterSpec} {plan : Plan}
    (hstage : b.stage = .listing spec)
    (hplan : Plan.ofListing b.identity spec
      (b.platform.pods.filter (Platform.selects (Manifest.labelSelector b.identity.name))) = plan) :
    CleanMove fuel b (b.found fuel spec plan) := by
  have hrequest : b.stage.request? b.identity =
      some (.listPods (Manifest.labelSelector b.identity.name)) := by
    rw [hstage]
    rfl
  rw [← work_found fuel b hstage hplan]
  exact .call (b.work_answer fuel hrequest) rfl

end Bench

end NatsFleet
