import NatsFleet.Proofs.Mirror
import NatsFleet.Proofs.Rolling

/-!
Each turn of a pass of a fleet is a run of a controller at its bench that nobody disturbs: a sequence of
requests that come back.
-/
namespace NatsFleet

namespace Platform

def answered (p : Platform) : List (Request × Reply) :=
  p.calls.filterMap fun call => call.reply.map fun reply => (call.request, reply)

/-- The pods are as they were, and nothing has come of any request. -/
structure Rests (p p' : Platform) : Prop where
  pods : p'.pods = p.pods
  initialStatus : p'.initialStatus = p.initialStatus
  answered : p'.answered = p.answered

structure Grants (p : Platform) (calls : List (Request × Reply)) (p' : Platform) : Prop where
  answered : p'.answered = p.answered ++ calls
  accepted : ∀ q ∈ calls, q.1.accepts q.2 = true

variable {p p' p'' : Platform} {moment : Nat} {request : Request} {ending : Ending}

theorem Rests.trans (h : p.Rests p') (h' : p'.Rests p'') : p.Rests p'' :=
  ⟨h'.pods.trans h.pods, h'.initialStatus.trans h.initialStatus, h'.answered.trans h.answered⟩

theorem Rests.namesDistinct (h : p.Rests p') (hnames : p.NamesDistinct) : p'.NamesDistinct := by
  rw [NamesDistinct, h.pods]
  exact hnames

/-- Only a write that came back leaves a text. -/
theorem document?_eq (p : Platform) (name : String) : p.document? name =
    (p.answered.filterMap fun q => Call.written? name ⟨0, q.1, some q.2⟩).getLast? := by
  unfold document? answered
  rw [List.filterMap_filterMap]
  congr 2
  funext call
  obtain ⟨moment, request, reply⟩ := call
  cases reply with
  | none => cases request <;> rfl
  | some reply => rfl

/-- As nothing has been written, the config map is as it was. -/
theorem Rests.document?_eq (h : p.Rests p') (name : String) : p'.document? name = p.document? name := by
  rw [Platform.document?_eq, Platform.document?_eq, h.answered]

theorem answered_note (p : Platform) (moment : Nat) (request : Request) (reply : Option Reply) :
    (p.note moment request reply).answered =
      p.answered ++ (reply.map fun reply => (request, reply)).toList := by
  simp only [answered, note, List.filterMap_append]
  cases reply <;> rfl

/-- A request that comes back is one more that has been answered. -/
theorem conclude_answered {reply : Reply}
    (h : p.conclude moment request ending = (some reply, p')) :
    p'.answered = p.answered ++ [(request, reply)] := by
  have hserve : (p.serve request).2.answered = p.answered := by rw [answered, serve_calls, answered]
  cases ending with
  | works =>
    simp only [conclude, Prod.mk.injEq, Option.some.injEq] at h
    obtain ⟨rfl, rfl⟩ := h
    rw [answered_note, hserve]
    rfl
  | fails e =>
    simp only [conclude, Prod.mk.injEq, Option.some.injEq] at h
    obtain ⟨rfl, rfl⟩ := h
    exact answered_note ..
  | stalls => simp [conclude] at h

/-- A request that never comes back changes nothing. -/
theorem conclude_rests (h : p.conclude moment request ending = (none, p')) : p.Rests p' := by
  cases ending with
  | works => simp [conclude] at h
  | fails e => simp [conclude] at h
  | stalls =>
    simp only [conclude, Prod.mk.injEq, true_and] at h
    subst h
    exact ⟨rfl, rfl, (p.answered_note moment request none).trans (List.append_nil _)⟩

theorem take_rests (p : Platform) (m : Method) : p.Rests (p.take m).2 := by
  unfold take
  split <;> exact ⟨rfl, rfl, rfl⟩

end Platform

namespace Bench

/-- What a controller does while nothing else happens in its namespace, and what comes back on the way.
Others draw from the random source. -/
inductive Undisturbed (fuel : Nat) : Bench → List Pass.Answered → Bench → Prop
  | nil (b : Bench) : Undisturbed fuel b [] b
  | outside {b b' : Bench} {answers : List Pass.Answered} (p : Platform) (draws : Draws)
      (hrests : b.platform.Rests p)
      (hrest : Undisturbed fuel { b with platform := p, draws := draws } answers b') :
      Undisturbed fuel b answers b'
  | call {b b' : Bench} {answers : List Pass.Answered} {request : Request} {reply : Reply}
      (moment : Nat) (clock : Timestamp) (ending : Ending) (p : Platform)
      (hrequest : b.stage.request? b.identity = some request)
      (hreply : b.platform.conclude moment request ending = (some reply, p))
      (hrest : Undisturbed fuel (b.resume fuel clock reply p) answers b') :
      Undisturbed fuel b (⟨request, reply, b.controller.desk b.draws clock⟩ :: answers) b'

namespace Undisturbed

variable {fuel : Nat} {b b' b'' : Bench} {answers more : List Pass.Answered}

theorem append (h : Undisturbed fuel b answers b') (h' : Undisturbed fuel b' more b'') :
    Undisturbed fuel b (answers ++ more) b'' := by
  induction h with
  | nil b => exact h'
  | outside p draws hrests hrest ih => exact .outside p draws hrests (ih h')
  | call moment clock ending p hrequest hreply hrest ih =>
    exact .call moment clock ending p hrequest hreply (ih h')

/-- A controller that nobody disturbs has its pods to itself. -/
theorem alone (h : Undisturbed fuel b answers b') : Alone fuel b answers b' := by
  induction h with
  | nil b => exact .nil b
  | outside p draws hrests hrest ih => exact .outside p draws hrests.pods hrests.initialStatus ih
  | call moment clock ending p hrequest hreply hrest ih =>
    exact .call moment clock ending p hrequest hreply ih

/-- What it does can happen in any run of a controller that alone writes its config map. -/
theorem moves (h : Undisturbed fuel b answers b') (hnames : b.platform.NamesDistinct) :
    Relation.ReflTransGen (Move fuel) b b' := by
  induction h with
  | nil b => exact .refl
  | @outside b b' answers p draws hrests hrest ih =>
    have hnames' := hrests.namesDistinct hnames
    exact .head (.outside b p draws hnames' (hrests.document?_eq _)) (ih hnames')
  | call moment clock ending p hrequest hreply hrest ih =>
    exact .head (.call (.intro moment clock ending p hrequest hreply))
      (ih (Platform.conclude_namesDistinct hreply hnames))

/-- If all that comes back is a success, it can happen in a clean pass. -/
theorem cleanMoves (h : Undisturbed fuel b answers b')
    (haccepted : ∀ a ∈ answers, a.request.accepts a.reply = true) :
    Relation.ReflTransGen (CleanMove fuel) b b' := by
  induction h with
  | nil b => exact .refl
  | @outside b b' answers p draws hrests hrest ih =>
    exact .head (.outside b p draws hrests.pods (hrests.document?_eq _)) (ih haccepted)
  | call moment clock ending p hrequest hreply hrest ih =>
    obtain ⟨haccept, haccepted'⟩ := List.forall_mem_cons.mp haccepted
    exact .head (.call (.intro moment clock ending p hrequest hreply) haccept) (ih haccepted')

/-- What has come back is what the platform has answered meanwhile. -/
theorem answered_eq (h : Undisturbed fuel b answers b') : b'.platform.answered =
    b.platform.answered ++ answers.map fun a => (a.request, a.reply) := by
  induction h with
  | nil b => exact (List.append_nil _).symm
  | outside p draws hrests hrest ih => exact ih.trans (congrArg (· ++ _) hrests.answered)
  | call moment clock ending p hrequest hreply hrest ih =>
    calc _ = p.answered ++ _ := ih
      _ = _ := by rw [Platform.conclude_answered hreply, List.append_assoc]; rfl

theorem key_eq (h : Undisturbed fuel b answers b') : b'.controller.key = b.controller.key := by
  induction h with
  | nil b => rfl
  | outside p draws hrests hrest ih => exact ih
  | call moment clock ending p hrequest hreply hrest ih => exact ih

/-- A pass that is over has gone from its services to the listing of the pods. -/
theorem listing (h : Undisturbed fuel b answers b') (hdone : b'.stage = .finished) {s : Service}
    {todo : List Service} (hstage : b.stage = .services (s :: todo)) :
    ∃ front back b₁, answers = front ++ back ∧ Undisturbed fuel b front b₁ ∧
      b₁.stage = .listing b.controller.spec ∧ Undisturbed fuel b₁ back b' := by
  induction h generalizing s todo with
  | nil b => cases hstage.symm.trans hdone
  | outside p draws hrests hrest ih =>
    obtain ⟨front, back, b₁, hanswers, hfront, hlisting, hback⟩ := ih hdone hstage
    exact ⟨front, back, b₁, hanswers, .outside p draws hrests hfront, hlisting, hback⟩
  | @call b b' answers request reply moment clock ending p hrequest hreply hrest ih =>
    have hnext : (b.resume fuel clock reply p).stage =
        if todo.isEmpty then .listing b.controller.spec else .services todo := by
      unfold resume
      rw [hstage]
      rfl
    -- Either this was the last service, or the next one is being created.
    cases todo with
    | nil => exact ⟨[_], answers, _, rfl, .call moment clock ending p hrequest hreply (.nil _), hnext, hrest⟩
    | cons s' todo =>
      obtain ⟨front, back, b₁, rfl, hfront, hlisting, hback⟩ := ih hdone hnext
      exact ⟨_ :: front, back, b₁, rfl, .call moment clock ending p hrequest hreply hfront, hlisting, hback⟩

end Undisturbed

variable {fuel : Nat} {b b' : Bench} {answers : List Pass.Answered}

/-- An undisturbed pass all of whose requests succeed converges. -/
theorem Sound.undisturbed_converges (hb : b.Sound) (hcomma : ',' ∉ b.identity.name.toList)
    (h : b.start.Undisturbed fuel answers b')
    (haccepted : ∀ a ∈ answers, a.request.accepts a.reply = true) (hdone : b'.stage = .finished) :
    b'.platform.Converged b.identity b.controller.spec := by
  obtain ⟨front, back, b₁, rfl, hfront, hlisting, hback⟩ := h.listing hdone rfl
  obtain ⟨-, haccepted'⟩ := List.forall_mem_append.mp haccepted
  have hstart : b.start.Sound := ⟨hb.names, hb.memo⟩
  have hmoves := hfront.moves hstart.names
  have hid : b₁.identity = b.start.identity := runs_identity hmoves
  have hconverges := (runs_sound hmoves hstart).converges (hid ▸ hcomma) hlisting
    (hback.cleanMoves haccepted') hdone
  exact hid ▸ hconverges

end Bench

def Controller.core (c : Controller) : Controller where
  key := c.key
  identity := c.identity
  spec := c.spec
  memory := c.memory

namespace Fleet

theorem lookup_putNamed {α : Type} (name other : String) (a : α) (l : List (String × α)) :
    (putNamed name a l).lookup other = if other = name then some a else l.lookup other := by
  induction l with
  | nil => exact Platform.lookup_cons_ite name other a []
  | cons entry rest ih =>
    obtain ⟨n, b⟩ := entry
    by_cases hn : n = name
    · subst hn
      rw [putNamed, if_pos rfl, Platform.lookup_cons_ite, Platform.lookup_cons_ite]
      split_ifs <;> rfl
    · rw [putNamed, if_neg hn, Platform.lookup_cons_ite, Platform.lookup_cons_ite, ih]
      split_ifs with h h' <;> first | rfl | exact absurd (h.symm.trans h') hn

theorem platform_setPlatform (f : Fleet) (name : String) (p : Platform) :
    (f.setPlatform name p).platform name = p := by
  simp [platform, setPlatform, lookup_putNamed]

def bench (f : Fleet) (c : Controller) (stage : Pass.Stage) : Bench where
  controller := c.core
  stage := stage
  platform := f.platform c.key.namespaceName
  draws := f.draws

/-- Where a pass has got to: it is over, or it stands at a request that may be on its way. -/
def Arrives (id : Identity) (whole : Bool) (stage : Pass.Stage) : Option Standing → Prop
  | none => whole = true → stage = .finished
  | some s => stage = s.stage ∧
      ∀ flight, s.flight = some flight → s.stage.request? id = some flight.request

/-- What a controller has done at its bench until its pass arrived somewhere. -/
def Works (settings : Settings) (b : Bench) (n : Nat) (whole : Bool) (r : Option Standing × Fleet) :
    Prop :=
  r.2.settings = settings ∧ ∃ c stage answers, r.2.controller? n = some c ∧
    b.Undisturbed settings.nameAttempts answers (r.2.bench c stage) ∧ Arrives c.identity whole stage r.1

variable {f : Fleet} {n : Nat} {c : Controller} {stage : Pass.Stage} {whole : Bool}

theorem controller?_lt (hc : f.controller? n = some c) : n < f.controllers.length :=
  (List.getElem?_eq_some_iff.mp hc).1

theorem bench_setPlatform (p : Platform) :
    (f.setPlatform c.key.namespaceName p).bench c stage = { f.bench c stage with platform := p } := by
  simp only [bench, platform_setPlatform]
  rfl

/-! ## One turn -/

/-- A reply moves a controller of a fleet as it moves it at its bench. -/
theorem bench_resume (hc : f.controller? n = some c) (stage : Pass.Stage) (reply : Reply)
    (p : Platform) :
    let next := (f.setPlatform c.key.namespaceName p).resume n c stage reply
    ∃ c', next.2.controller? n = some c' ∧ next.2.bench c' next.1 =
      (f.bench c stage).resume f.settings.nameAttempts f.wallClock reply p := by
  intro next
  let memory := (Pass.resume c.identity f.settings.nameAttempts stage reply
    (c.desk f.draws f.wallClock)).2.memory
  refine ⟨{ c with memory := memory }, ?_, ?_⟩
  · exact List.getElem?_set_self (controller?_lt hc)
  · have hplatform : next.2.platform c.key.namespaceName = p := f.platform_setPlatform _ p
    simp only [bench, hplatform]
    rfl

/-- What a controller does after a reply, it does after the request at its bench. -/
theorem works_of_reply {p₀ p : Platform} {request : Request} {ending : Ending} {reply : Reply}
    {r : Option Standing × Fleet} (hc : f.controller? n = some c)
    (hrequest : stage.request? c.identity = some request)
    (hreply : p₀.conclude f.now request ending = (some reply, p))
    (hnext : let next := (f.setPlatform c.key.namespaceName p).resume n c stage reply
      ∀ c', next.2.controller? n = some c' → Works f.settings (next.2.bench c' next.1) n whole r) :
    Works f.settings { f.bench c stage with platform := p₀ } n whole r := by
  obtain ⟨c', hc', hbench⟩ := bench_resume hc stage reply p
  obtain ⟨hsettings, c'', stage', answers, hc'', hruns, harrives⟩ := hnext c' hc'
  rw [hbench] at hruns
  exact ⟨hsettings, c'', stage', _, hc'', .call f.now f.wallClock ending p hrequest hreply hruns, harrives⟩

/-- A pass that goes on without waiting is a run at the bench of its controller. -/
theorem drive_works (hc : f.controller? n = some c) :
    Works f.settings (f.bench c stage) n whole (f.drive n whole stage) := by
  -- The recursion goes from one request that came back to the next.
  fun_induction drive f n whole stage generalizing c with
  | case1 f stage hnone => cases hnone.symm.trans hc
  | case2 f c₁ hc₁ h =>
    obtain rfl : c₁ = c := Option.some.inj (hc₁.symm.trans hc)
    exact ⟨rfl, c₁, _, [], hc, .nil _, fun _ => rfl⟩
  | case3 f stage c₁ hc₁ =>
    exact ⟨rfl, c, _, [], hc, .nil _, rfl, by rintro flight ⟨⟩⟩
  | case4 f stage c₁ hc₁ request hrequest hwhole =>
    refine ⟨rfl, c, _, [], hc, .nil _, fun h => ?_⟩
    simp [h] at hwhole
  | case5 f stage c₁ hc₁ request hrequest hwhole place taken hdelay p =>
    rename_i hstall
    obtain rfl : c₁ = c := Option.some.inj (hc₁.symm.trans hc)
    refine ⟨rfl, c₁, stage, [], hc, ?_, rfl, by rintro flight ⟨⟩⟩
    rw [bench_setPlatform]
    exact .outside p _ ((Platform.take_rests _ _).trans (Platform.conclude_rests hstall)) (.nil _)
  | case6 f stage c₁ hc₁ request hrequest hwhole place taken hdelay reply p hreply next =>
    rename_i ih
    obtain rfl : c₁ = c := Option.some.inj (hc₁.symm.trans hc)
    -- Here the outcome of the request is taken from the platform, the reply follows, and then the rest.
    obtain ⟨hsettings, c', stage', answers, hc', hruns, harrives⟩ :=
      works_of_reply hc hrequest hreply fun c' hc' => ih hc'
    exact ⟨hsettings, c', stage', answers, hc', .outside _ _ (Platform.take_rests _ _) hruns, harrives⟩
  | case7 f stage c₁ hc₁ request hrequest hwhole place taken =>
    obtain rfl : c₁ = c := Option.some.inj (hc₁.symm.trans hc)
    refine ⟨rfl, c₁, stage, [], hc, ?_, rfl, fun flight hflight => ?_⟩
    · rw [bench_setPlatform]
      exact .outside _ _ (Platform.take_rests _ _) (.nil _)
    · cases hflight
      exact hrequest

/-- A pass that starts is a run at the bench of its controller. -/
theorem pass_works (hc : f.controller? n = some c) :
    Works f.settings (f.bench c .finished).start n whole (f.pass n whole) := by
  unfold pass
  rw [hc]
  exact drive_works hc

/-- A pass that goes on after a wait is a run at the bench of its controller. -/
theorem land_works {s : Standing} (hc : f.controller? n = some c)
    (hflight : ∀ flight, s.flight = some flight →
      s.stage.request? c.identity = some flight.request) :
    Works f.settings (f.bench c s.stage) n whole (f.land n whole s) := by
  have hstay : Works f.settings (f.bench c s.stage) n whole (some s, f) :=
    ⟨rfl, c, s.stage, [], hc, .nil _, rfl, hflight⟩
  unfold land
  cases hs : s.flight with
  | none => exact hstay
  | some flight =>
    simp only [hc]
    by_cases hdue : f.now < flight.due
    · rw [if_pos hdue]
      exact hstay
    · rw [if_neg hdue]
      split
      · rename_i p hstall
        refine ⟨rfl, c, s.stage, [], hc, ?_, rfl, by rintro flight ⟨⟩⟩
        rw [bench_setPlatform]
        exact .outside p _ (Platform.conclude_rests hstall) (.nil _)
      · rename_i reply p hreply
        exact works_of_reply hc (hflight flight hs) hreply fun c' hc' => drive_works hc'

end Fleet
end NatsFleet
