import NatsFleet.Proofs.Bench
import NatsFleet.Proofs.Document
import NatsFleet.Proofs.Partition

/-!
One undisturbed pass brings a cluster to its declared size, and leaves the addresses of exactly its
pods in the config map.
-/
namespace NatsFleet

theorem Naming.plan_zero (cluster : String) (fuel : Nat) (taken : List String) (d : Draws) :
    Naming.plan cluster fuel taken 0 d = some ([], d) := by
  cases fuel <;> rfl

/-- There are as many names as were asked for, if there are any. -/
theorem Naming.plan_length (cluster : String) (fuel : Nat) (taken : List String) (count : Nat)
    (d : Draws) (names : List String) (d' : Draws)
    (h : Naming.plan cluster fuel taken count d = some (names, d')) : names.length = count := by
  -- Each attempt finds one of the names or takes a name that is in use.
  induction fuel generalizing taken count d names d' with
  | zero =>
    cases count with
    | zero =>
      simp only [Naming.plan, Option.some.injEq, Prod.mk.injEq] at h
      rw [← h.1]
      rfl
    | succ count => simp [Naming.plan] at h
  | succ fuel ih =>
    cases count with
    | zero =>
      simp only [Naming.plan, Option.some.injEq, Prod.mk.injEq] at h
      rw [← h.1]
      rfl
    | succ count =>
      simp only [Naming.plan] at h
      split at h
      · exact ih _ _ _ _ _ h
      · simp only [Option.bind_eq_bind, Option.bind_eq_some_iff, Prod.exists, Option.some.injEq,
          Prod.mk.injEq] at h
        obtain ⟨more, d'', hmore, rfl, -⟩ := h
        rw [List.length_cons, ih _ _ _ _ _ hmore]

namespace Pass

structure Fits (id : Identity) (spec : ClusterSpec) (w : Work) : Prop where
  spec_eq : w.spec = spec
  plan_eq : ∃ listed, w.plan = Plan.ofListing id spec listed
  planned_length : w.planned.length = w.plan.shortfall spec

structure Basis where
  id : Identity
  spec : ClusterSpec
  -- The configuration that the controller remembers.
  memo : Option String
  -- The text in the config map.
  document : Option String

structure Untouched (o : Basis) (p : Platform) (memo : Option String) : Prop where
  memo : memo = o.memo
  document : p.document? o.id.name = o.document

/-- The members of the cluster are the kept pods and those of `made`, and the pass is done with the
config map: what it planned is remembered, and is in place unless it was remembered before. -/
structure Placed (o : Basis) (p : Platform) (memo : Option String) (w : Work)
    (made : List String) : Prop where
  fits : Fits o.id o.spec w
  memo : memo = some (config o.id w).render
  document : p.document? o.id.name =
    if o.memo = some (config o.id w).render then o.document else some (config o.id w).render
  members : (w.plan.keptNames ++ made).Perm (p.memberNames o.id.name)

def Accounted (o : Basis) (p : Platform) (memo : Option String) : Stage → Prop
  | .services _ => False
  | .listing s => s = o.spec ∧ Untouched o p memo
  | .removing s plan todo => s = o.spec ∧ Untouched o p memo ∧
      (∃ listed, plan = Plan.ofListing o.id o.spec listed) ∧
      (todo.map Removal.name ++ plan.keptNames).Perm (p.memberNames o.id.name)
  | .naming => True
  | .configuring w => o.memo ≠ some (config o.id w).render ∧ Untouched o p memo ∧
      Fits o.id o.spec w ∧ w.plan.keptNames.Perm (p.memberNames o.id.name)
  | .creating w todo _ => ∃ made, w.planned = made ++ todo ∧ Placed o p memo w made
  | .publishing _ | .finished => ∃ w, Placed o p memo w w.planned

variable {fuel : Nat} {o : Basis} {p p' : Platform} {w : Work} {plan : Plan}

theorem conclude_accounted (records : List PodRecord) (d : Desk)
    (h : Placed o p d.memory.config w w.planned) :
    Accounted o p (conclude w records d).2.memory.config (conclude w records d).1 := by
  unfold conclude
  dsimp only
  split <;> exact ⟨w, h⟩

/-- From the configuration on, the members are the kept pods and those created so far. -/
theorem create_accounted {made todo : List String} (records : List PodRecord) (d : Desk)
    (htodo : w.planned = made ++ todo) (h : Placed o p d.memory.config w made) :
    Accounted o p (create w todo records d).2.memory.config (create w todo records d).1 := by
  unfold create
  split
  · rw [List.append_nil] at htodo
    exact conclude_accounted records d (htodo ▸ h)
  · exact ⟨made, htodo, h⟩

/-- Before anything is written or created, the members are the kept pods. -/
theorem configure_accounted (d : Desk) (h : Untouched o p d.memory.config)
    (hw : Fits o.id o.spec w) (hmembers : w.plan.keptNames.Perm (p.memberNames o.id.name)) :
    Accounted o p (configure o.id w d).2.memory.config (configure o.id w d).1 := by
  unfold configure
  split
  · rename_i hconfig
    -- The write is skipped, so the text in place is the one that was.
    have hplaced : Placed o p d.memory.config w [] := by
      refine ⟨hw, hconfig, ?_, by rwa [List.append_nil]⟩
      rw [if_pos (h.memo.symm.trans hconfig), h.document]
    exact create_accounted _ _ (List.nil_append _).symm hplaced
  · rename_i hconfig
    exact ⟨fun hmemo => hconfig (h.memo.trans hmemo), h, hw, hmembers⟩

theorem name_accounted (fuel : Nat) (d : Desk) (h : Untouched o p d.memory.config)
    (hplan : ∃ listed, plan = Plan.ofListing o.id o.spec listed)
    (hmembers : plan.keptNames.Perm (p.memberNames o.id.name)) :
    Accounted o p (name o.id fuel o.spec plan d).2.memory.config
      (name o.id fuel o.spec plan d).1 := by
  unfold name
  split
  · trivial
  · rename_i planned draws hplanned
    have hlength := Naming.plan_length _ _ _ _ _ _ _ hplanned
    exact configure_accounted { d with draws := draws } h ⟨rfl, hplan, hlength⟩ hmembers

/-- The members are the pods that are still to be removed and those that are kept. -/
theorem remove_accounted (fuel : Nat) (todo : List Removal) (d : Desk)
    (h : Untouched o p d.memory.config)
    (hplan : ∃ listed, plan = Plan.ofListing o.id o.spec listed)
    (hmembers : (todo.map Removal.name ++ plan.keptNames).Perm (p.memberNames o.id.name)) :
    Accounted o p (remove o.id fuel o.spec plan todo d).2.memory.config
      (remove o.id fuel o.spec plan todo d).1 := by
  unfold remove
  split
  · exact name_accounted fuel d h hplan hmembers
  · exact ⟨rfl, h, hplan, hmembers⟩

theorem perm_remove {names rest : List String} {name : String} (h : (name :: rest).Perm names)
    (hnodup : names.Nodup) : rest.Perm (names.filter (· ≠ name)) := by
  have hcons := h.nodup_iff.mpr hnodup
  have hfilter : (name :: rest).filter (· ≠ name) = rest := by
    rw [List.filter_cons_of_neg (by simp), List.filter_eq_self]
    intro other hother
    have hne : other ≠ name := fun heq => (List.nodup_cons.mp hcons).1 (heq ▸ hother)
    simpa using hne
  exact hfilter ▸ h.filter _

/-- A request other than a write leaves the config map as the pass found it. -/
theorem Untouched.keep {memo : Option String} (h : Untouched o p memo)
    (hdocument : p'.document? o.id.name = p.document? o.id.name) : Untouched o p' memo :=
  ⟨h.memo, hdocument.trans h.document⟩

theorem Placed.keep {memo : Option String} {made made' : List String}
    (h : Placed o p memo w made) (hdocument : p'.document? o.id.name = p.document? o.id.name)
    (hmembers : (w.plan.keptNames ++ made').Perm (p'.memberNames o.id.name)) :
    Placed o p' memo w made' :=
  ⟨h.fits, h.memo, hdocument.trans h.document, hmembers⟩

/-- The write of the configuration has succeeded. -/
theorem written_accounted {moment : Nat} {ending : Ending} {listed : List Pod} (d : Desk)
    (hw : Fits o.id o.spec w) (hnew : o.memo ≠ some (config o.id w).render)
    (hmembers : w.plan.keptNames.Perm (p.memberNames o.id.name))
    (hreply : p.conclude moment (.applyConfigMap (Manifest.configMap o.id w.spec (config o.id w)))
      ending = (some (.ok listed), p')) :
    Accounted o p' (resume o.id fuel (.configuring w) (.ok listed) d).2.memory.config
      (resume o.id fuel (.configuring w) (.ok listed) d).1 := by
  obtain ⟨-, hpods⟩ := Platform.conclude_ok hreply
  have hmembers' : (w.plan.keptNames ++ []).Perm (p'.memberNames o.id.name) := by
    rwa [List.append_nil, Platform.memberNames_congr o.id.name hpods]
  have hdocument : p'.document? o.id.name = some (config o.id w).render := by
    rw [Platform.conclude_document o.id.name hreply, Bench.written?_configMap, Option.some_or]
  -- It has been written because it was not remembered.
  have hplaced : Placed o p' (some (config o.id w).render) w [] :=
    ⟨hw, rfl, hdocument.trans (if_neg hnew).symm, hmembers'⟩
  unfold resume
  exact create_accounted _ _ (List.nil_append _).symm hplaced

/-- A pod that has been created is one more member. -/
theorem created_accounted {made rest : List String} {name : String} {moment : Nat}
    {ending : Ending} {listed : List Pod} (records : List PodRecord) (d : Desk)
    (htodo : w.planned = made ++ name :: rest) (h : Placed o p d.memory.config w made)
    (hreply : p.conclude moment (.createPod (Manifest.pod o.id w.spec name)) ending =
      (some (.ok listed), p')) :
    Accounted o p' (resume o.id fuel (.creating w (name :: rest) records) (.ok listed) d).2.memory.config
      (resume o.id fuel (.creating w (name :: rest) records) (.ok listed) d).1 := by
  obtain ⟨hlisted, hpods⟩ := Platform.conclude_ok hreply
  have hnames' := Platform.memberNames_created hlisted hpods rfl
    (Platform.carries_pod o.id w.spec name)
  have hplaced : Placed o p' d.memory.config w (made ++ [name]) := by
    refine h.keep (Platform.conclude_document o.id.name hreply) ?_
    rw [hnames', ← List.append_assoc]
    exact h.members.append_right [name]
  unfold resume
  exact create_accounted _ _ (htodo.trans (List.append_cons made name rest)) hplaced

/-- The request at which a pass stands succeeds, and the members stay accounted for. -/
theorem resume_accounted {stage : Stage} {request : Request} {reply : Reply} {moment : Nat}
    {ending : Ending} (fuel : Nat) (d : Desk) (hcomma : ',' ∉ o.id.name.toList)
    (hnames : p.NamesDistinct) (hrequest : stage.request? o.id = some request)
    (hreply : p.conclude moment request ending = (some reply, p'))
    (hgood : request.accepts reply = true) (hstage : Accounted o p d.memory.config stage) :
    Accounted o p' (resume o.id fuel stage reply d).2.memory.config
      (resume o.id fuel stage reply d).1 := by
  have hwritten := Platform.conclude_document o.id.name hreply
  cases stage with
  | services todo => exact hstage.elim
  | listing s =>
    cases hrequest
    obtain ⟨rfl, huntouched⟩ := hstage
    obtain ⟨listed, rfl⟩ := Request.ok_of_accepts hgood (by rintro ⟨⟩)
    obtain ⟨hlisted, hpods⟩ := Platform.conclude_ok hreply
    have hall : p.pods.filter (Platform.selects (Manifest.labelSelector o.id.name)) = listed := by
      simpa [Platform.serve] using hlisted
    subst hall
    -- The plan divides the pods that were found, and these are the members.
    refine remove_accounted fuel _ d (huntouched.keep hwritten) ⟨_, rfl⟩ ?_
    rw [Platform.memberNames_congr o.id.name hpods, ← p.present_names o.id.name hcomma]
    exact Plan.removals_append_kept_names o.id o.spec _
  | removing s plan todo =>
    cases todo with
    | nil => cases hrequest
    | cons r rest =>
      cases hrequest
      obtain ⟨rfl, huntouched, hplan, hmembers⟩ := hstage
      obtain ⟨listed, rfl⟩ := Request.ok_of_accepts hgood (by rintro ⟨⟩)
      obtain ⟨-, hpods⟩ := Platform.conclude_ok hreply
      -- The pod that was first in line is no longer a member.
      refine remove_accounted fuel rest d (huntouched.keep hwritten) hplan ?_
      rw [Platform.memberNames_congr o.id.name hpods, p.memberNames_delete]
      exact perm_remove hmembers (Platform.memberNames_nodup hnames o.id.name)
  | naming => cases hrequest
  | configuring w =>
    cases hrequest
    obtain ⟨hnew, -, hw, hmembers⟩ := hstage
    obtain ⟨listed, rfl⟩ := Request.ok_of_accepts hgood (by rintro ⟨⟩)
    exact written_accounted d hw hnew hmembers hreply
  | creating w todo records =>
    cases todo with
    | nil => cases hrequest
    | cons name rest =>
      cases hrequest
      obtain ⟨made, htodo, hplaced⟩ := hstage
      obtain ⟨listed, rfl⟩ := Request.ok_of_accepts hgood (by rintro ⟨⟩)
      exact created_accounted records d htodo hplaced hreply
  | publishing s =>
    cases hrequest
    obtain ⟨w, hplaced⟩ := hstage
    obtain ⟨listed, rfl⟩ := Request.ok_of_accepts hgood (by rintro ⟨⟩)
    obtain ⟨-, hpods⟩ := Platform.conclude_ok hreply
    refine ⟨w, hplaced.keep hwritten ?_⟩
    rw [Platform.memberNames_congr o.id.name hpods]
    exact hplaced.members
  | finished => cases hrequest

/-- What leaves the pods and the config map alone upsets no account. -/
theorem accounted_congr {stage : Stage} {memo : Option String} (hpods : p'.pods = p.pods)
    (hdocument : p'.document? o.id.name = p.document? o.id.name)
    (h : Accounted o p memo stage) : Accounted o p' memo stage := by
  have hmembers := Platform.memberNames_congr o.id.name hpods
  have hplaced {w : Work} {made : List String} (h : Placed o p memo w made) :
      Placed o p' memo w made := h.keep hdocument (hmembers ▸ h.members)
  cases stage with
  | services todo => exact h
  | listing s => exact ⟨h.1, h.2.keep hdocument⟩
  | removing s plan todo => exact ⟨h.1, h.2.1.keep hdocument, h.2.2.1, hmembers ▸ h.2.2.2⟩
  | naming => exact h
  | configuring w => exact ⟨h.1, h.2.1.keep hdocument, h.2.2.1, hmembers ▸ h.2.2.2⟩
  | creating w todo records => exact h.imp fun _ hmade => ⟨hmade.1, hplaced hmade.2⟩
  | publishing status => exact h.imp fun _ => hplaced
  | finished => exact h.imp fun _ => hplaced

end Pass

/-- Pods of one cluster have different addresses. -/
theorem Manifest.routeAddress_injective (cluster namespaceName : String) :
    Function.Injective fun pod => Manifest.routeAddress pod cluster namespaceName := by
  intro pod pod' h
  simp only [Manifest.routeAddress, String.append_assoc, String.append_left_inj] at h
  exact h

namespace Platform

def addresses (p : Platform) (id : Identity) : List String :=
  (p.memberNames id.name).map fun name => Manifest.routeAddress name id.name id.namespaceName

/-- A text lists the addresses of exactly the members of a cluster, each of them once. Names of pods,
services and namespaces have no line feed in them, and then these addresses are what is read from it. -/
structure Routed (p : Platform) (id : Identity) (text : String) : Prop where
  lists : ∃ routes, ServerConfig.Lists text routes ∧ routes.length = (p.members id.name).length ∧
    routes.Nodup ∧ ∀ a, a ∈ routes ↔ a ∈ p.addresses id
  read : (∀ a ∈ p.addresses id, '\n' ∉ a.toList) →
    (ServerConfig.readRoutes text).Perm (p.addresses id)

/-- A cluster has its declared size, and the text in its config map lists exactly its members. -/
structure Converged (p : Platform) (id : Identity) (spec : ClusterSpec) : Prop where
  size : (p.members id.name).length = spec.size.toNat
  routed : ∃ text, p.document? id.name = some text ∧ p.Routed id text

end Platform

namespace Pass

variable {o : Basis} {p : Platform} {w : Work} {memo : Option String}

/-- With all planned pods created, the cluster has its declared size. -/
theorem Placed.size (h : Placed o p memo w w.planned) :
    (p.members o.id.name).length = o.spec.size.toNat := by
  obtain ⟨⟨-, ⟨listed, hplan⟩, hplanned⟩, -, -, hmembers⟩ := h
  -- The members are the kept pods and the planned ones, which make up the size.
  have hlength := hmembers.length_eq
  have hshortfall := Plan.kept_add_shortfall o.id o.spec listed
  rw [List.length_append, hplanned, hplan, Platform.memberNames, List.length_map] at hlength
  omega

/-- Once the pods are in place, the planned configuration lists exactly the members. -/
theorem Placed.routed (h : Placed o p memo w w.planned) (hnames : p.NamesDistinct) :
    p.Routed o.id (config o.id w).render := by
  obtain ⟨⟨-, ⟨listed, hplan⟩, -⟩, -, -, hmembers⟩ := h
  have hroutes : (w.plan.routes o.id w.planned).Perm (p.addresses o.id) := by
    rw [hplan, Plan.routes_eq, ← hplan]
    exact hmembers.map _
  -- Members of one cluster have different names, and so different addresses.
  have hnodup : (p.addresses o.id).Nodup :=
    (Platform.memberNames_nodup hnames o.id.name).map (Manifest.routeAddress_injective _ _)
  have hlists : ServerConfig.Lists (config o.id w).render (w.plan.routes o.id w.planned) :=
    ServerConfig.lists_render w.spec _
  refine ⟨⟨_, hlists, ?_, hroutes.nodup_iff.mpr hnodup, fun a => hroutes.mem_iff⟩, fun hline => ?_⟩
  · rw [hroutes.length_eq, Platform.addresses, Platform.memberNames, List.length_map,
      List.length_map]
  · rw [hlists.read fun route hroute => hline route (hroutes.mem_iff.mp hroute)]
    exact hroutes

end Pass

namespace Bench

def basis (b : Bench) (spec : ClusterSpec) : Pass.Basis where
  id := b.identity
  spec := spec
  memo := b.controller.memory.config
  document := b.document?

def Accounted (o : Pass.Basis) (b : Bench) : Prop :=
  Pass.Accounted o b.platform b.controller.memory.config b.stage

variable {fuel : Nat} {o : Pass.Basis}

/-- Each move of a clean pass keeps the members accounted for. -/
theorem CleanMove.accounted {b b' : Bench} (h : CleanMove fuel b b') (hid : b.identity = o.id)
    (hcomma : ',' ∉ o.id.name.toList) (hnames : b.platform.NamesDistinct)
    (hb : b.Accounted o) : b'.Accounted o := by
  cases h with
  | update s =>
    rw [Accounted, update_memory]
    exact hb
  | call h hgood =>
    obtain ⟨moment, clock, ending, p, hrequest, hreply⟩ := h
    rw [hid] at hrequest
    unfold Accounted resume
    rw [hid]
    exact Pass.resume_accounted fuel _ hcomma hnames hrequest hreply hgood hb
  | outside p draws hpods hdocument => exact Pass.accounted_congr hpods (hid ▸ hdocument) hb

theorem clean_accounted {b b' : Bench} (h : Relation.ReflTransGen (CleanMove fuel) b b')
    (hid : b.identity = o.id) (hcomma : ',' ∉ o.id.name.toList)
    (hnames : b.platform.NamesDistinct) (hb : b.Accounted o) :
    b'.platform.NamesDistinct ∧ b'.identity = o.id ∧ b'.Accounted o := by
  induction h with
  | refl => exact ⟨hnames, hid, hb⟩
  | tail _ hmove ih =>
    obtain ⟨hnames', hid', hacc⟩ := ih
    have hmove' := hmove.move hnames'
    exact ⟨hmove'.namesDistinct hnames', hmove'.identity_eq.trans hid',
      hmove.accounted hid' hcomma hnames' hacc⟩

/-- A clean pass leaves the cluster at its size, and remembers a configuration that lists exactly
its members. That one is in place if the pass did not remember it before. -/
theorem clean_pass {b b' : Bench} {spec : ClusterSpec} (hcomma : ',' ∉ b.identity.name.toList)
    (hnames : b.platform.NamesDistinct) (hlisting : b.stage = .listing spec)
    (hruns : Relation.ReflTransGen (CleanMove fuel) b b') (hdone : b'.stage = .finished) :
    (b'.platform.members b.identity.name).length = spec.size.toNat ∧
      ∃ text, b'.controller.memory.config = some text ∧ b'.platform.Routed b.identity text ∧
        b'.platform.document? b.identity.name =
          if b.controller.memory.config = some text then b.document? else some text := by
  -- The listing is where the pass sets out from, with nothing done yet.
  have hacc : b.Accounted (b.basis spec) := by
    rw [Accounted, hlisting]
    exact ⟨rfl, rfl, rfl⟩
  obtain ⟨hnames', -, hacc'⟩ := clean_accounted hruns rfl hcomma hnames hacc
  rw [Accounted, hdone] at hacc'
  obtain ⟨w, hplaced⟩ := hacc'
  exact ⟨hplaced.size, _, hplaced.memo, hplaced.routed hnames', hplaced.document⟩

/-- If what the controller remembers is in place, the configuration is in place after a clean pass: it has
just been written, or was remembered. -/
theorem Sound.converges {b b' : Bench} {spec : ClusterSpec} (hb : b.Sound)
    (hcomma : ',' ∉ b.identity.name.toList) (hlisting : b.stage = .listing spec)
    (hruns : Relation.ReflTransGen (CleanMove fuel) b b') (hdone : b'.stage = .finished) :
    b'.platform.Converged b.identity spec := by
  obtain ⟨hsize, text, -, hrouted, hdocument⟩ := clean_pass hcomma hb.names hlisting hruns hdone
  refine ⟨hsize, text, ?_, hrouted⟩
  by_cases hmemo : b.controller.memory.config = some text
  · rw [hdocument, if_pos hmemo, hb.memo text hmemo]
  · rw [hdocument, if_neg hmemo]

/-- A pass whose requests all succeed, and during which nothing else changes the pods, converges to
the spec that it took up when it listed the pods, whatever came before: there are as many pods as it
declares, and the text in place has a line for the address of each of them and for no other. -/
theorem pass_converges {b₀ b₁ b₂ b₃ : Bench} {spec : ClusterSpec}
    (hmemory : b₀.controller.memory = {}) (hnames : b₀.platform.NamesDistinct)
    (hcomma : ',' ∉ b₀.identity.name.toList)
    (hbefore : Relation.ReflTransGen (Move fuel) b₀ b₁) (hidle : b₁.stage = .finished)
    (hservices : Relation.ReflTransGen (CleanMove fuel) b₁.start b₂)
    (hlisting : b₂.stage = .listing spec)
    (hrest : Relation.ReflTransGen (CleanMove fuel) b₂ b₃) (hdone : b₃.stage = .finished) :
    b₃.platform.Converged b₀.identity spec := by
  have hfresh : b₀.Sound := ⟨hnames, fun text htext => by simp [hmemory] at htext⟩
  have hsound₁ := runs_sound hbefore hfresh
  obtain ⟨hruns, -⟩ := clean_runs hservices hsound₁.names
  have hall : Relation.ReflTransGen (Move fuel) b₀ b₂ :=
    (hbefore.tail (.start b₁ hidle)).trans hruns
  have hid := runs_identity hall
  have hconverges := (runs_sound hall hfresh).converges (hid ▸ hcomma) hlisting hrest hdone
  exact hid ▸ hconverges

def lone : Bench where
  controller := Controller.ofCluster
    { metadata := { name := some "demo", scope := some "default" }, spec := { size := 1 } }
  platform := {}
  draws := ⟨id, 0⟩

def pair : Bench := ((work 9)^[6] lone.start).update { size := 2 }

/-- After the second pass there are two pods, and two addresses are read from the text in place. -/
theorem pass_converges_pair :
    let p := ((work 9)^[6] pair.start).platform
    p.Converged lone.identity { size := 2 } ∧ (p.addresses lone.identity).length = 2 ∧
      ∃ text, p.document? lone.identity.name = some text ∧
        (ServerConfig.readRoutes text).Perm (p.addresses lone.identity) := by
  intro p
  have hstart : Relation.ReflTransGen (Move 9) lone lone.start := .single (.start lone rfl)
  have hwork := work_runs 9 6 lone.start (by decide +kernel)
  have hfirst : Relation.ReflTransGen (Move 9) lone pair :=
    (hstart.trans (clean_runs hwork List.nodup_nil).1).tail (.update _ _)
  have hconverged : p.Converged lone.identity { size := 2 } :=
    pass_converges rfl List.nodup_nil (by decide) hfirst
      (Pass.Stage.eq_finished (by decide +kernel)) (work_runs 9 2 _ (by decide +kernel))
      (Pass.Stage.eq_listing (by decide +kernel)) (work_runs 9 4 _ (by decide +kernel))
      (Pass.Stage.eq_finished (by decide +kernel))
  obtain ⟨text, htext, hrouted⟩ := hconverged.routed
  exact ⟨hconverged, by decide +kernel, text, htext, hrouted.read (by decide +kernel)⟩

end Bench

end NatsFleet
