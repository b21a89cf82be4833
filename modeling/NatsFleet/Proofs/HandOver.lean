import NatsFleet.Proofs.Convergence

/-!
A cluster that is deleted and declared again has two controllers for a while: the pass of the old one
goes on, while the new one makes passes of its own. Each of them remembers only its own writes.
-/
namespace NatsFleet

inductive Side where
  | old
  | new
  deriving DecidableEq

/-- The two controllers of a cluster, where their passes stand, and the namespace that they share. -/
structure HandOver where
  hand : Side → Controller × Pass.Stage
  platform : Platform
  draws : Draws
  -- Whose write was the last one, if one of them has written since there are two.
  author : Option Side := none

namespace HandOver

def bench (s : HandOver) (side : Side) : Bench where
  controller := (s.hand side).1
  stage := (s.hand side).2
  platform := s.platform
  draws := s.draws

def put (s : HandOver) (side : Side) (b : Bench) : HandOver where
  hand := Function.update s.hand side (b.controller, b.stage)
  platform := b.platform
  draws := b.draws
  author := s.author

def after (s : HandOver) (side : Side) (request : Request) (b : Bench) : HandOver :=
  { s.put side b with
    author := if request.method = .applyConfigMap then some side else s.author }

/-- What can happen while there are two controllers: their requests come back in any order, and all
of them succeed. Passes start and specs change for the new controller only. -/
inductive Move (fuel : Nat) : HandOver → HandOver → Prop
  | call {s : HandOver} {side : Side} {request : Request} {reply : Reply} {b : Bench}
      (h : Bench.Answer fuel (s.bench side) request reply b)
      (hreply : request.accepts reply = true) : Move fuel s (s.after side request b)
  | start (s : HandOver) (h : (s.bench .new).stage = .finished) :
      Move fuel s (s.put .new (s.bench .new).start)
  | update (s : HandOver) (spec : ClusterSpec) :
      Move fuel s (s.put .new ((s.bench .new).update spec))

@[simp] theorem bench_put (s : HandOver) (side : Side) (b : Bench) :
    (s.put side b).bench side = b := by
  simp [put, bench]

@[simp] theorem bench_after (s : HandOver) (side other : Side) (request : Request) (b : Bench) :
    (s.after side request b).bench other = (s.put side b).bench other := rfl

@[simp] theorem after_author (s : HandOver) (side : Side) (request : Request) (b : Bench) :
    (s.after side request b).author =
      if request.method = .applyConfigMap then some side else s.author := rfl

/-- What the new controller remembers is in place, unless the old one wrote last. -/
structure Sound (s : HandOver) : Prop where
  names : s.platform.NamesDistinct
  memo : s.author ≠ some .old → ∀ text, (s.bench .new).controller.memory.config = some text →
    (s.bench .new).document? = some text

end HandOver

namespace Bench

variable {fuel : Nat} {b b' : Bench} {request : Request} {reply : Reply}

/-- Only a write changes the config map. -/
theorem Answer.document_eq (h : Answer fuel b request reply b') (name : String)
    (hrequest : request.method ≠ .applyConfigMap) :
    b'.platform.document? name = b.platform.document? name := by
  obtain ⟨moment, clock, ending, p, -, hreply⟩ := h
  have hwritten : Call.written? name ⟨moment, request, some reply⟩ = none := by
    cases request <;> first | rfl | exact absurd rfl hrequest
  have hdocument := Platform.conclude_document name hreply
  rwa [hwritten, Option.none_or] at hdocument

theorem stage_of_write {id : Identity} {stage : Pass.Stage}
    (h : stage.request? id = some request) (hrequest : request.method = .applyConfigMap) :
    ∃ w, stage = .configuring w := by
  cases stage with
  | configuring w => exact ⟨w, rfl⟩
  | services todo => cases todo <;> cases h; cases hrequest
  | removing spec plan todo => cases todo <;> cases h; cases hrequest
  | creating w todo records => cases todo <;> cases h; cases hrequest
  | listing spec => cases h; cases hrequest
  | publishing status => cases h; cases hrequest
  | naming => cases h
  | finished => cases h

/-- A write leaves what is remembered in place, whatever was remembered before. -/
theorem Answer.memo_of_write (h : Answer fuel b request reply b')
    (hrequest : request.method = .applyConfigMap) (text : String)
    (htext : b'.controller.memory.config = some text) : b'.document? = some text := by
  obtain ⟨moment, clock, ending, p, hstage, hreply⟩ := h
  have hconfig : (b.resume fuel clock reply p).controller.memory.config =
      Pass.configAfter b.identity b.controller.memory.config b.stage reply :=
    Pass.resume_config _ _ _ _ _
  -- The reply to a write settles what is remembered, so nothing need be known of it before.
  have hforget : Pass.configAfter b.identity b.controller.memory.config b.stage reply =
      Pass.configAfter b.identity none b.stage reply := by
    obtain ⟨w, hw⟩ := stage_of_write hstage hrequest
    rw [hw]
    cases reply <;> rfl
  rw [hconfig, hforget] at htext
  have hdocument : (b.resume fuel clock reply p).document? = p.document? b.identity.name := rfl
  rw [hdocument, Platform.conclude_document b.identity.name hreply]
  have hnone : ∀ t, (none : Option String) = some t → b.document? = some t := fun t ht => by cases ht
  exact configAfter_written hstage hnone moment reply text htext

end Bench

namespace HandOver

variable {fuel : Nat} {s s' : HandOver}

/-- No two pods get the same name, whichever controller creates them. -/
theorem Move.namesDistinct (h : Move fuel s s') (hnames : s.platform.NamesDistinct) :
    s'.platform.NamesDistinct := by
  cases h with
  | call h _ => exact (Bench.Move.call h).namesDistinct hnames
  | start h => exact hnames
  | update spec => exact hnames

theorem Move.identity_eq (h : Move fuel s s') :
    (s'.bench .new).identity = (s.bench .new).identity := by
  cases h with
  | @call side request reply b h _ =>
    cases side with
    | new =>
      rw [bench_after, bench_put]
      exact (Bench.Move.call h).identity_eq
    | old => rfl
  | start h => rw [bench_put]; rfl
  | update spec => rw [bench_put, Bench.update_identity]

/-- What the new controller remembers stays true until the old one writes. -/
theorem Move.sound (h : Move fuel s s') (hs : s.Sound) : s'.Sound := by
  refine ⟨h.namesDistinct hs.names, fun hauthor text htext => ?_⟩
  cases h with
  | @call side request reply b h _ =>
    by_cases hwrite : request.method = .applyConfigMap
    · -- Only a write of the new controller leaves it the author, and it remembers what it wrote.
      rw [after_author, if_pos hwrite] at hauthor
      obtain rfl : side = .new := by cases side <;> simp at hauthor ⊢
      rw [bench_after, bench_put] at htext ⊢
      exact h.memo_of_write hwrite text htext
    · -- Without a write, what is in place stays, and so does what is remembered.
      rw [after_author, if_neg hwrite] at hauthor
      have hmemo := hs.memo hauthor
      cases side with
      | new =>
        rw [bench_after, bench_put] at htext ⊢
        exact h.memo hmemo text htext
      | old => exact (h.document_eq _ hwrite).trans (hmemo text htext)
  | start h =>
    rw [bench_put] at htext ⊢
    exact hs.memo hauthor text htext
  | update spec =>
    rw [bench_put, Bench.update_memory] at htext
    rw [bench_put, Bench.document?, Bench.update_identity]
    exact hs.memo hauthor text htext

/-- What the new controller remembers stays in place until the old one writes. -/
theorem runs_sound (h : Relation.ReflTransGen (Move fuel) s s') (hs : s.Sound) :
    s'.Sound ∧ (s'.bench .new).identity = (s.bench .new).identity := by
  induction h with
  | refl => exact ⟨hs, rfl⟩
  | tail _ hmove ih => exact ⟨hmove.sound ih.1, hmove.identity_eq.trans ih.2⟩

/-- After a hand-over, in whatever order the requests of the two controllers came back, a further
pass of the new one alone leaves as many pods as are declared. The config map lists exactly these
pods if the old controller was not the last one to write before that pass; in general, it does so if
and only if the pass has something else to write than the new controller remembers, or the text that
it finds in place lists these pods already. -/
theorem further_pass {s₀ s₁ : HandOver} {b₂ b₃ : Bench} {spec : ClusterSpec}
    (hmemory : (s₀.bench .new).controller.memory = {}) (hnames : s₀.platform.NamesDistinct)
    (hcomma : ',' ∉ (s₀.bench .new).identity.name.toList)
    (hbefore : Relation.ReflTransGen (Move fuel) s₀ s₁)
    (hidle : (s₁.bench .new).stage = .finished)
    (hservices : Relation.ReflTransGen (Bench.CleanMove fuel) (s₁.bench .new).start b₂)
    (hlisting : b₂.stage = .listing spec)
    (hrest : Relation.ReflTransGen (Bench.CleanMove fuel) b₂ b₃) (hdone : b₃.stage = .finished) :
    (b₃.platform.members (s₀.bench .new).identity.name).length = spec.size.toNat ∧
      (s₁.author ≠ some .old → b₃.platform.Converged (s₀.bench .new).identity spec) ∧
      (b₃.platform.Converged (s₀.bench .new).identity spec ↔
        b₃.controller.memory.config ≠ b₂.controller.memory.config ∨
          ∃ text, b₂.document? = some text ∧
            b₃.platform.Routed (s₀.bench .new).identity text) := by
  have hfresh : s₀.Sound := ⟨hnames, fun _ text htext => by simp [hmemory] at htext⟩
  obtain ⟨hsound₁, hid₁⟩ := runs_sound hbefore hfresh
  obtain ⟨hruns, hnames₂⟩ := Bench.clean_runs hservices hsound₁.names
  have hpass : Relation.ReflTransGen (Bench.Move fuel) (s₁.bench .new) b₂ :=
    .head (.start _ hidle) hruns
  have hid₂ := (Bench.runs_identity hpass).trans hid₁
  obtain ⟨hsize, text, hmemo, hrouted, hdocument⟩ :=
    Bench.clean_pass (hid₂ ▸ hcomma) hnames₂ hlisting hrest hdone
  rw [hid₂] at hsize hrouted hdocument
  rw [hmemo]
  by_cases hkept : b₂.controller.memory.config = some text
  · -- The pass writes nothing, so what is in place is what was in place before it.
    rw [if_pos hkept] at hdocument
    refine ⟨hsize, fun hauthor => ⟨hsize, text, ?_, hrouted⟩, fun hconverged => .inr ?_, ?_⟩
    · have hsound : (s₁.bench .new).Sound := ⟨hsound₁.names, hsound₁.memo hauthor⟩
      rw [hdocument]
      exact (Bench.runs_sound hpass hsound).memo text hkept
    · rw [← hdocument]
      exact hconverged.routed
    · rintro (hchanged | ⟨found, hfound, hlists⟩)
      · exact absurd hkept.symm hchanged
      · exact ⟨hsize, found, hdocument.trans hfound, hlists⟩
  · -- The pass writes, whoever wrote before.
    rw [if_neg hkept] at hdocument
    have hconverged : b₃.platform.Converged (s₀.bench .new).identity spec :=
      ⟨hsize, text, hdocument, hrouted⟩
    exact ⟨hsize, fun _ => hconverged, fun _ => .inl (Ne.symm hkept), fun _ => hconverged⟩

def act (fuel : Nat) (s : HandOver) (side : Side) : HandOver :=
  match (s.bench side).stage.request? (s.bench side).identity with
  | none => s
  | some request => s.after side request ((s.bench side).work fuel)

def succeeds (fuel : Nat) : List Side → HandOver → Bool
  | [], _ => true
  | side :: rest, s => (s.bench side).succeeds fuel 1 && succeeds fuel rest (s.act fuel side)

/-- Requests that work at once, in any order of the two controllers, are a run. -/
theorem acts_run (fuel : Nat) (order : List Side) (s : HandOver)
    (h : s.succeeds fuel order = true) :
    Relation.ReflTransGen (Move fuel) s (order.foldl (act fuel) s) := by
  induction order generalizing s with
  | nil => exact .refl
  | cons side rest ih =>
    rw [succeeds, Bool.and_eq_true] at h
    refine .head ?_ (ih _ h.2)
    have hsucceeds := h.1
    cases hrequest : (s.bench side).stage.request? (s.bench side).identity with
    | none => simp [Bench.succeeds, hrequest] at hsucceeds
    | some request =>
      simp only [Bench.succeeds, hrequest, Bool.and_eq_true] at hsucceeds
      have hanswer := (s.bench side).work_answer fuel hrequest
      simp only [act, hrequest]
      exact .call hanswer hsucceeds.1

def redeclared : HandOver :=
  let busy := (Bench.work 9)^[3] Bench.lone.start
  { hand := fun
      | .old => ({ busy.controller with cancelled := true }, busy.stage)
      | .new => (Bench.lone.controller, .finished)
    platform := busy.platform
    draws := busy.draws }

def overtaken : HandOver :=
  [.new, .new, .new, .new, .new, .new, .old, .old, .old].foldl (act 9)
    (redeclared.put .new (redeclared.bench .new).start)

def recount : Bench := (Bench.work 9)^[2] (overtaken.bench .new).start

def surplus : Bench :=
  let id := recount.identity
  let listed := recount.platform.pods.filter (Platform.selects (Manifest.labelSelector id.name))
  let plan := Plan.ofLive { size := 1 } (Plan.terminated listed) (Plan.found id listed)
  recount.found 9 { size := 1 } plan

def settled : Bench := (Bench.work 9)^[2] surplus

/-- The new controller makes its first pass before the write of the old one comes back. -/
theorem redeclared_runs : Relation.ReflTransGen (Move 9) redeclared overtaken :=
  .head (.start redeclared rfl) (acts_run 9 _ _ (by decide +kernel))

theorem overtaken_idle : (overtaken.bench .new).stage = .finished :=
  Pass.Stage.eq_finished (by decide +kernel)

/-- The further pass goes from its start to its listing. -/
theorem recount_runs :
    Relation.ReflTransGen (Bench.CleanMove 9) (overtaken.bench .new).start recount :=
  Bench.work_runs 9 2 _ (by decide +kernel)

theorem recount_lists : recount.stage = .listing { size := 1 } :=
  Pass.Stage.eq_listing (by decide +kernel)

/-- It goes on from its listing to its end. -/
theorem settled_runs : Relation.ReflTransGen (Bench.CleanMove 9) recount settled := by
  have hlisted : Bench.CleanMove 9 recount surplus :=
    recount.found_runs 9 recount_lists (Plan.ofListing_of_pairwise _ _ _ (by decide +kernel))
  exact .head hlisted (Bench.work_runs 9 2 _ (by decide +kernel))

theorem settled_idle : settled.stage = .finished := Pass.Stage.eq_finished (by decide +kernel)

/-- In the end one pod is there, and yet the cluster has not converged. -/
theorem further_pass_redeclared :
    (settled.platform.members "demo").length = 1 ∧
      (settled.platform.Converged (redeclared.bench .new).identity { size := 1 } ↔
        settled.controller.memory.config ≠ recount.controller.memory.config ∨
          ∃ text, recount.document? = some text ∧
            settled.platform.Routed (redeclared.bench .new).identity text) := by
  have hnames : redeclared.platform.NamesDistinct := List.nodup_nil
  have h := further_pass rfl hnames (by decide) redeclared_runs overtaken_idle recount_runs
    recount_lists settled_runs settled_idle
  exact ⟨h.1, h.2.2⟩

/-- The old controller's write takes effect after that of the new one, which then makes a whole pass
and leaves it in place, although it lists a pod that there is no more. -/
theorem late_write_stays :
    Relation.ReflTransGen (Move 9) redeclared overtaken ∧
      (overtaken.bench .old).stage = .finished ∧ (overtaken.bench .new).stage = .finished ∧
      Relation.ReflTransGen (Bench.CleanMove 9) (overtaken.bench .new).start recount ∧
      recount.stage = .listing { size := 1 } ∧
      Relation.ReflTransGen (Bench.CleanMove 9) recount settled ∧ settled.stage = .finished ∧
      ¬ settled.platform.Converged (redeclared.bench .new).identity { size := 1 } := by
  refine ⟨redeclared_runs, Pass.Stage.eq_finished (by decide +kernel), overtaken_idle, recount_runs,
    recount_lists, settled_runs, settled_idle, fun h => ?_⟩
  obtain ⟨text, htext, hrouted⟩ := h.routed
  -- The pod of the old controller's pass is listed, but only that of the new one's is left.
  have hlisted : "demo-bcdfg.demo-routes.default.svc" ∈
      ServerConfig.readRoutes ((settled.platform.document? "demo").getD "") := by decide +kernel
  rw [show settled.platform.document? "demo" = some text from htext, Option.getD_some] at hlisted
  have hlive := (hrouted.read (by decide +kernel)).mem_iff.mp hlisted
  exact absurd hlive (by decide +kernel)

end HandOver

end NatsFleet
