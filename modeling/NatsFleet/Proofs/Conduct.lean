import NatsFleet.Proofs.Drive

/-!
A pass of a fleet from its first turn to its last. As long as the fleet leaves the controller and its
namespace alone in between, it converges as a pass at a bench does, and passes in a row renew the outdated
pods of a cluster.
-/
namespace NatsFleet.Fleet

variable {f g g' : Fleet} {n : Nat} {c : Controller}

/-- Whatever a fleet has done otherwise, it has left a controller and its namespace alone. -/
structure LeavesAlone (n : Nat) (f g : Fleet) : Prop where
  settings : g.settings = f.settings
  rests : ∀ c, f.controller? n = some c → ∃ c', g.controller? n = some c' ∧ c'.core = c.core ∧
    (f.platform c.key.namespaceName).Rests (g.platform c.key.namespaceName)

theorem LeavesAlone.refl (n : Nat) (f : Fleet) : f.LeavesAlone n f :=
  ⟨rfl, fun c hc => ⟨c, hc, rfl, ⟨rfl, rfl, rfl⟩⟩⟩

theorem LeavesAlone.trans (h : f.LeavesAlone n g) (h' : g.LeavesAlone n g') : f.LeavesAlone n g' := by
  refine ⟨h'.settings.trans h.settings, fun c hc => ?_⟩
  obtain ⟨c₁, hc₁, hcore, hrests⟩ := h.rests c hc
  obtain ⟨c₂, hc₂, hcore', hrests'⟩ := h'.rests c₁ hc₁
  have hkey : c₁.core.key = c.core.key := congrArg Controller.key hcore
  rw [show c₁.key = c.key from hkey] at hrests'
  exact ⟨c₂, hc₂, hcore'.trans hcore, hrests.trans hrests'⟩

/-- What happens in another namespace leaves the controller alone. -/
theorem leavesAlone_setPlatform {name : String} (p : Platform)
    (hplace : ∀ c, f.controller? n = some c → c.key.namespaceName ≠ name) :
    f.LeavesAlone n (f.setPlatform name p) := by
  refine ⟨rfl, fun c hc => ⟨c, hc, rfl, ?_⟩⟩
  have hsame : (f.setPlatform name p).platform c.key.namespaceName =
      f.platform c.key.namespaceName := by
    simp only [platform, setPlatform, lookup_putNamed, if_neg (hplace c hc)]
  rw [hsame]
  exact ⟨rfl, rfl, rfl⟩

/-- After a reply to another controller, that one is still at work in its other namespace. -/
theorem leavesAlone_reply {m : Nat} {d : Controller} (hd : f.controller? m = some d) (hne : m ≠ n)
    (hplace : ∀ c, f.controller? n = some c → c.key.namespaceName ≠ d.key.namespaceName)
    (p : Platform) (stage : Pass.Stage) (reply : Reply) :
    let next := ((f.setPlatform d.key.namespaceName p).resume m d stage reply).2
    f.LeavesAlone n next ∧ ∃ d', next.controller? m = some d' ∧
      ∀ c, next.controller? n = some c → c.key.namespaceName ≠ d'.key.namespaceName := by
  intro next
  -- The reply sets the other controller and nothing besides.
  have hsame : next.controller? n = f.controller? n := List.getElem?_set_ne hne
  have hresume : (f.setPlatform d.key.namespaceName p).LeavesAlone n next :=
    ⟨rfl, fun c hc => ⟨c, hsame.trans hc, rfl, ⟨rfl, rfl, rfl⟩⟩⟩
  exact ⟨(leavesAlone_setPlatform p hplace).trans hresume, _,
    List.getElem?_set_self (controller?_lt hd), fun c hc => hplace c (hsame.symm.trans hc)⟩

theorem drive_leavesAlone {m : Nat} {d : Controller} (hd : f.controller? m = some d) (hne : m ≠ n)
    (hplace : ∀ c, f.controller? n = some c → c.key.namespaceName ≠ d.key.namespaceName)
    (whole : Bool) (stage : Pass.Stage) : f.LeavesAlone n (f.drive m whole stage).2 := by
  -- Each request of the other controller goes to its own namespace, and so does each reply.
  fun_induction drive f m whole stage generalizing d with
  | case1 | case2 | case3 | case4 => exact .refl n _
  | case5 f stage d₁ hd₁ request hrequest hwhole place taken hdelay p =>
    obtain rfl : d₁ = d := Option.some.inj (hd₁.symm.trans hd)
    exact leavesAlone_setPlatform p hplace
  | case6 f stage d₁ hd₁ request hrequest hwhole place taken hdelay reply p hreply next =>
    rename_i ih
    obtain rfl : d₁ = d := Option.some.inj (hd₁.symm.trans hd)
    obtain ⟨hfirst, d', hd', hplace'⟩ := leavesAlone_reply hd hne hplace p stage reply
    exact hfirst.trans (ih hd' hplace')
  | case7 f stage d₁ hd₁ request hrequest hwhole place taken =>
    obtain rfl : d₁ = d := Option.some.inj (hd₁.symm.trans hd)
    exact leavesAlone_setPlatform _ hplace

/-- Turns of another controller leave this one alone if it works in another namespace. -/
theorem turns_leaveAlone {m : Nat} {d : Controller} (hd : f.controller? m = some d) (hne : m ≠ n)
    (hplace : ∀ c, f.controller? n = some c → c.key.namespaceName ≠ d.key.namespaceName)
    (whole : Bool) (s : Standing) :
    f.LeavesAlone n (f.pass m whole).2 ∧ f.LeavesAlone n (f.land m whole s).2 := by
  constructor
  · unfold pass
    rw [hd]
    exact drive_leavesAlone hd hne hplace whole _
  · unfold land
    rw [hd]
    cases s.flight with
    | none => exact .refl n f
    | some flight =>
      dsimp only
      split_ifs with hdue
      · exact .refl n f
      · split
        · exact leavesAlone_setPlatform _ hplace
        · rename_i reply p hreply
          obtain ⟨hfirst, d', hd', hplace'⟩ := leavesAlone_reply hd hne hplace p s.stage reply
          exact hfirst.trans (drive_leavesAlone hd' hne hplace' whole _)

/-- A pass of a controller turn by turn, with a fleet in between that leaves it alone. -/
inductive Conducts (f : Fleet) (n : Nat) : Option Standing × Fleet → Prop
  | begins : Conducts f n (f.pass n true)
  | goesOn {s : Standing} {g g' : Fleet} (h : Conducts f n (some s, g)) (hrests : g.LeavesAlone n g') :
      Conducts f n (g'.land n true s)

/-- Meanwhile nothing comes back at the bench of the controller. -/
theorem LeavesAlone.undisturbed (h : f.LeavesAlone n g) (hc : f.controller? n = some c) (fuel : Nat)
    (stage : Pass.Stage) : ∃ c', g.controller? n = some c' ∧ c'.identity = c.identity ∧
      (f.bench c stage).Undisturbed fuel [] (g.bench c' stage) := by
  obtain ⟨c', hc', hcore, hrests⟩ := h.rests c hc
  have hkey : c'.core.key = c.core.key := congrArg Controller.key hcore
  have hbench : g.bench c' stage =
      { f.bench c stage with platform := g.platform c.key.namespaceName, draws := g.draws } := by
    rw [bench, hcore, show c'.key = c.key from hkey]
    rfl
  have hid : c'.core.identity = c.core.identity := congrArg Controller.identity hcore
  refine ⟨c', hc', hid, ?_⟩
  rw [hbench]
  exact .outside _ _ hrests (.nil _)

/-- All turns of a pass, one after the other, are one run at the bench. -/
theorem Conducts.works {r : Option Standing × Fleet} (hc : f.controller? n = some c)
    (h : f.Conducts n r) : Works f.settings (f.bench c .finished).start n true r := by
  -- By induction on the turns: what came before stays done.
  induction h with
  | begins => exact pass_works hc
  | @goesOn s g g' h hrests ih =>
    obtain ⟨hsettings, c₁, stage, answers, hc₁, hruns, rfl, hflight⟩ := ih
    obtain ⟨c₂, hc₂, hid, hbetween⟩ := hrests.undisturbed hc₁ f.settings.nameAttempts s.stage
    have hturn : Works g'.settings (g'.bench c₂ s.stage) n true (g'.land n true s) :=
      land_works hc₂ (hid ▸ hflight)
    obtain ⟨hsettings', c₃, stage', more, hc₃, hruns', harrives⟩ := hturn
    -- Nothing comes back between two turns, so the answers of both make up those of the pass.
    have hsame : g'.settings = f.settings := hrests.settings.trans hsettings
    rw [hsame] at hsettings' hruns'
    exact ⟨hsettings', c₃, stage', answers ++ ([] ++ more), hc₃, hruns.append (hbetween.append hruns'),
      harrives⟩

/-- A pass that is over is an undisturbed run at the bench of its controller, and all that the namespace
has answered meanwhile came back to it. -/
theorem Conducts.over (hc : f.controller? n = some c) (h : f.Conducts n (none, g)) :
    g.settings = f.settings ∧ ∃ c' answers, g.controller? n = some c' ∧ c'.key = c.key ∧
      (f.bench c .finished).start.Undisturbed f.settings.nameAttempts answers (g.bench c' .finished) ∧
      (g.platform c.key.namespaceName).answered = (f.platform c.key.namespaceName).answered ++
        answers.map fun a => (a.request, a.reply) := by
  obtain ⟨hsettings, c', stage, answers, hc', hruns, harrives⟩ := h.works hc
  obtain rfl : stage = .finished := harrives rfl
  have hkey : c'.key = c.key := hruns.key_eq
  have hanswered : (g.platform c'.key.namespaceName).answered = _ := hruns.answered_eq
  rw [hkey] at hanswered
  exact ⟨hsettings, c', answers, hc', hkey, hruns, hanswered⟩

/-- A controller that goes by a true memory does so after any pass, whatever came of its requests. -/
theorem Conducts.sound (hc : f.controller? n = some c) (hsound : (f.bench c .finished).Sound)
    (h : f.Conducts n (none, g)) :
    ∃ c', g.controller? n = some c' ∧ (g.bench c' .finished).Sound := by
  obtain ⟨-, c', answers, hc', -, hruns, -⟩ := h.over hc
  have hstart : (f.bench c .finished).start.Sound := ⟨hsound.names, hsound.memo⟩
  exact ⟨c', hc', Bench.runs_sound (hruns.moves hstart.names) hstart⟩

/-- A pass of a fleet that is over and all of whose requests succeeded has left as many pods as the spec
declares, and a text in place that lists exactly their addresses. -/
theorem Conducts.converges (hc : f.controller? n = some c) (hsound : (f.bench c .finished).Sound)
    (hcomma : ',' ∉ c.identity.name.toList) (h : f.Conducts n (none, g)) {calls : List (Request × Reply)}
    (hgrants : (f.platform c.key.namespaceName).Grants calls (g.platform c.key.namespaceName)) :
    (g.platform c.key.namespaceName).Converged c.identity c.spec := by
  obtain ⟨-, c', answers, -, hkey, hruns, hanswered⟩ := h.over hc
  -- What was granted is what came back to the pass, as nothing else was answered meanwhile.
  obtain rfl : calls = answers.map fun a => (a.request, a.reply) :=
    List.append_cancel_left (hgrants.answered.symm.trans hanswered)
  have hplatform : (g.bench c' .finished).platform = g.platform c.key.namespaceName := by
    rw [← hkey]
    rfl
  rw [← hplatform]
  exact hsound.undisturbed_converges hcomma hruns (List.forall_mem_map.mp hgrants.accepted) rfl

/-! ## Passes in a row -/

def ComesToServe (n : Nat) (f g : Fleet) : Prop :=
  g.settings = f.settings ∧ ∀ c, f.controller? n = some c → ∃ c', g.controller? n = some c' ∧
    (f.bench c .finished).Settles (g.bench c' .finished)

/-- Passes of a controller in a row, all of whose requests succeed; after each of them its pods come to
serve. Each pass is recorded with the fleet before and what came back. -/
inductive Tour (n : Nat) : Fleet → List (Fleet × List (Request × Reply)) → Fleet → Prop
  | nil (f : Fleet) : Tour n f [] f
  | cons {f g g' h : Fleet} {c : Controller} {calls : List (Request × Reply)}
      {later : List (Fleet × List (Request × Reply))} (hc : f.controller? n = some c)
      (hpass : f.Conducts n (none, g))
      (hgrants : (f.platform c.key.namespaceName).Grants calls (g.platform c.key.namespaceName))
      (hserves : g.ComesToServe n g') (hlater : Tour n g' later h) : Tour n f ((f, calls) :: later) h

/-- A pass has replaced one outdated pod of the cluster by one of the present revision. If there was none
it has deleted and created nothing. -/
def Renews (n : Nat) (f : Fleet) (calls : List (Request × Reply)) : Prop :=
  ∃ c answers, f.controller? n = some c ∧
    (calls = answers.map fun a : Pass.Answered => (a.request, a.reply)) ∧
    ((f.bench c .finished).outdated = 0 ∧ Pass.deletions answers = [] ∧ Pass.creations answers = [] ∨
      0 < (f.bench c .finished).outdated ∧ (f.bench c .finished).Replaces answers)

/-- A pass that is over and all of whose requests succeeded is a clean pass at the bench. -/
theorem Conducts.cleanPass (hc : f.controller? n = some c) (h : f.Conducts n (none, g))
    {calls : List (Request × Reply)}
    (hgrants : (f.platform c.key.namespaceName).Grants calls (g.platform c.key.namespaceName)) :
    g.settings = f.settings ∧ ∃ c' answers, g.controller? n = some c' ∧
      (calls = answers.map fun a => (a.request, a.reply)) ∧
      (f.bench c .finished).CleanPass f.settings.nameAttempts answers (g.bench c' .finished) := by
  obtain ⟨hsettings, c', answers, hc', -, hruns, hanswered⟩ := h.over hc
  obtain rfl : calls = answers.map fun a => (a.request, a.reply) :=
    List.append_cancel_left (hgrants.answered.symm.trans hanswered)
  exact ⟨hsettings, c', answers, hc', rfl, rfl, hruns.alone, List.forall_mem_map.mp hgrants.accepted, rfl⟩

/-- Passes in a row renew one outdated pod each until there is none left, and leave the cluster serving at
its size. -/
theorem Tour.upgrades {tour : List (Fleet × List (Request × Reply))} (hc : f.controller? n = some c)
    (hserving : (f.bench c .finished).Serving) (hcomma : ',' ∉ c.identity.name.toList)
    (h : Tour n f tour g) :
    (∃ c', g.controller? n = some c' ∧ c'.spec = c.spec ∧ (g.bench c' .finished).Serving ∧
      (g.bench c' .finished).outdated = (f.bench c .finished).outdated - tour.length) ∧
      ∀ pass ∈ tour, pass.1.Renews n pass.2 := by
  -- By induction on the passes, each of which is a round at the bench.
  induction h generalizing c with
  | nil f =>
    exact ⟨⟨c, hc, rfl, hserving, rfl⟩, fun pass hpass => absurd hpass List.not_mem_nil⟩
  | @cons f g g' h c₁ calls later hc₁ hpass hgrants hserves hlater ih =>
    obtain rfl : c₁ = c := Option.some.inj (hc₁.symm.trans hc)
    obtain ⟨-, c₂, answers, hc₂, hanswers, hclean⟩ := hpass.cleanPass hc hgrants
    obtain ⟨-, hserves⟩ := hserves
    obtain ⟨c₃, hc₃, hsettles⟩ := hserves c₂ hc₂
    obtain ⟨hid, hspec, hserving', hround⟩ := hserving.round hcomma hclean hsettles
    have hid' : c₃.identity = c₁.identity := hid
    obtain ⟨⟨c₄, hc₄, hspec', hserving'', houtdated⟩, hlater'⟩ := ih hc₃ hserving' (hid' ▸ hcomma)
    refine ⟨⟨c₄, hc₄, hspec'.trans hspec, hserving'', ?_⟩, List.forall_mem_cons.mpr ⟨?_, hlater'⟩⟩
    · rw [houtdated, List.length_cons]
      rcases hround with ⟨hnone, hnone', -⟩ | ⟨hcount, -⟩ <;> omega
    · refine ⟨c₁, answers, hc, hanswers, hround.imp ?_ ?_⟩
      · rintro ⟨hnone, -, hidle⟩
        exact ⟨hnone, hidle⟩
      · rintro ⟨hcount, hreplaces⟩
        exact ⟨by rw [← hcount]; exact Nat.succ_pos _, hreplaces⟩

end NatsFleet.Fleet
