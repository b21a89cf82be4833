import NatsFleet.Controller.Progress
import NatsFleet.Proofs.Neighbours

/-!
The objects of different clusters in one namespace go by different names, with one exception: the routes
service of a cluster has the name of the client service of the cluster that is called after it. A service
that is refused because it exists stands for the cluster itself or for one that it clashes with.
-/
namespace NatsFleet

namespace Layout

/-- The routes service of one of the clusters has the name of the other one. -/
def Clash (a b : String) : Prop := routesServiceName a = b ∨ a = routesServiceName b

def isLabel (name : String) : Bool :=
  name.toList.length ≤ 63 &&
    name.toList.all (fun c => 'a' ≤ c && c ≤ 'z' || '0' ≤ c && c ≤ '9' || c = '-') &&
    name.toList.head?.any (fun c => 'a' ≤ c && c ≤ 'z') &&
    name.toList.getLast?.any (fun c => c ≠ '-')

/-- Different clusters have different routes services. -/
theorem routesServiceName_injective : Function.Injective routesServiceName := by
  intro a b h
  have hchars := congrArg String.toList h
  simp only [routesServiceName, String.toList_append] at hchars
  exact String.toList_inj.mp (List.append_cancel_right hchars)

end Layout

def Service.name (service : Service) : String := service.metadata.anyName

namespace Pass

variable {id a b : Identity} {spec : ClusterSpec} {stage : Stage} {service : Service}

/-- A cluster has two services: one of its own name, and one for its routes. -/
theorem name_of_mem_services (h : service ∈ services id spec) :
    service.name = Layout.routesServiceName id.name ∨ service.name = id.name := by
  simp only [services, List.mem_cons, List.not_mem_nil, or_false] at h
  rcases h with rfl | rfl
  · exact .inl rfl
  · exact .inr rfl

/-- Two clusters have the name of a service in common just if they clash. -/
theorem services_share_iff (h : a.name ≠ b.name) (spec spec' : ClusterSpec) :
    (∃ made ∈ services a spec, ∃ other ∈ services b spec', made.name = other.name) ↔
      Layout.Clash a.name b.name := by
  constructor
  · rintro ⟨made, hmade, other, hother, hname⟩
    rcases name_of_mem_services hmade with hmade | hmade <;>
      rcases name_of_mem_services hother with hother | hother <;> rw [hmade, hother] at hname
    · exact absurd (Layout.routesServiceName_injective hname) h
    · exact .inl hname
    · exact .inr hname
    · exact absurd hname h
  · rintro (hname | hname)
    · exact ⟨Manifest.routesService a spec, .head _, Manifest.clientService b spec', .tail _ (.head _),
        hname⟩
    · exact ⟨Manifest.clientService a spec, .tail _ (.head _), Manifest.routesService b spec', .head _,
        hname⟩

def Stage.Provides (id : Identity) : Stage → Prop
  | .services todo => ∃ spec, ∀ service ∈ todo, service ∈ Pass.services id spec
  | _ => True

theorem Stage.Provides.request (h : stage.Provides id)
    (hrequest : stage.request? id = some (.createService service)) :
    ∃ spec, service ∈ Pass.services id spec := by
  cases stage with
  | services todo =>
    cases todo with
    | nil => cases hrequest
    | cons first rest =>
      cases hrequest
      obtain ⟨spec, hspec⟩ := h
      exact ⟨spec, hspec service List.mem_cons_self⟩
  | removing spec plan todo => cases todo <;> cases hrequest
  | creating w todo records => cases todo <;> cases hrequest
  | _ => cases hrequest

/-- A pass goes on with its own services, and does not return to any once it is through with them. -/
theorem resume_provides (h : stage.Provides id) {request : Request}
    (hrequest : stage.request? id = some request) (fuel : Nat) (reply : Reply) (d : Desk) :
    (resume id fuel stage reply d).1.Provides id := by
  have hlater (hrank : stage.rank.1 < 6) : (resume id fuel stage reply d).1.Provides id := by
    have hbefore := Prod.lex_def.mp (resume_before id fuel stage reply d request hrequest)
    generalize (resume id fuel stage reply d).1 = next at hbefore ⊢
    cases next with
    | services todo =>
      have hnext : (Stage.services todo).rank.1 = 6 := rfl
      omega
    | _ => trivial
  cases stage with
  | services todo =>
    cases todo with
    | nil => trivial
    | cons first rest =>
      obtain ⟨spec, hspec⟩ := h
      unfold resume
      dsimp only
      split
      · trivial
      · exact ⟨spec, fun service hservice => hspec service (List.mem_cons_of_mem _ hservice)⟩
  | _ => exact hlater (by simp [Stage.rank])

end Pass

namespace Platform

variable {p : Platform}

/-- A service is there only if somebody asked for it. -/
theorem mem_serve_services {request : Request} {name : String}
    (h : name ∈ (p.serve request).2.services) :
    name ∈ p.services ∨ ∃ service, request = .createService service ∧ service.name = name := by
  cases request with
  | createService service =>
    simp only [serve] at h
    split at h
    · exact .inl h
    · rcases List.mem_append.mp h with h | h
      · exact .inl h
      · exact .inr ⟨service, rfl, (List.mem_singleton.mp h).symm⟩
  | createPod pod =>
    simp only [serve] at h
    split at h <;> exact .inl h
  | deletePod name =>
    simp only [serve, delete] at h
    split at h <;> exact .inl h
  | _ => exact .inl h

/-- A service is refused as existing if one of its name exists. -/
theorem mem_services_of_refused {service : Service} {e : Failure}
    (h : (p.serve (.createService service)).1 = .error e) : service.name ∈ p.services := by
  simp only [serve] at h
  split at h
  · assumption
  · cases h

end Platform

/-- The names of the objects of two clusters: no config map and no pod has a name of both, and a service
has if they clash. -/
structure Identity.Apart (a b : Identity) : Prop where
  configMaps : ∀ spec spec' config config', (Manifest.configMap a spec config).metadata.anyName ≠
    (Manifest.configMap b spec' config').metadata.anyName
  pods : ∀ name, Naming.Generates a.name name → ¬ Naming.Generates b.name name
  services : ∀ spec spec', (∃ made ∈ Pass.services a spec, ∃ other ∈ Pass.services b spec',
    made.name = other.name) ↔ Layout.Clash a.name b.name

/-- The objects of two clusters of different names are apart, but for services that clash. -/
theorem Identity.apart {a b : Identity} (h : a.name ≠ b.name) : a.Apart b where
  configMaps _ _ _ _ := h
  pods _ ha hb := h (Naming.cluster_eq_of_generates ha hb)
  services := Pass.services_share_iff h

namespace Neighbours

variable {ι : Type} {fuel : Nat} {s₀ s s' : Neighbours ι} {i j : ι} {service : Service}

def Made (s : Neighbours ι) (i : ι) (service : Service) : Prop :=
  (∃ spec, service ∈ Pass.services (s.identity i) spec) ∧
    ∃ call ∈ s.platform.calls, call.request = .createService service

/-- Each pass creates services of its own cluster, and each service there is was asked for. -/
structure Supplied (s : Neighbours ι) : Prop where
  stages : ∀ i, (s.hand i).2.Provides (s.identity i)
  services : ∀ name ∈ s.platform.services, ∃ i service, s.Made i service ∧ service.name = name

variable [DecidableEq ι]

theorem Move.calls_subset (h : Move fuel s s') : s.platform.calls ⊆ s'.platform.calls := by
  cases h with
  | call h =>
    obtain ⟨clock, hsettled⟩ := h.settlement
    obtain ⟨moment, hcalls⟩ := hsettled.calls
    intro call hcall
    exact hcalls.symm ▸ List.mem_append_left _ hcall
  | start i h => exact List.Subset.refl _
  | update i spec => exact List.Subset.refl _
  | outside p draws hpods hservices hcalls => exact hcalls ▸ List.Subset.refl _

/-- The record of a service stays. -/
theorem Move.made (h : Move fuel s s') (hmade : s.Made i service) : s'.Made i service := by
  obtain ⟨hspec, call, hcall, hrequest⟩ := hmade
  exact ⟨h.identity_eq i ▸ hspec, call, h.calls_subset hcall, hrequest⟩

/-- Whatever happens, each service there is was asked for. -/
theorem Move.supplied (h : Move fuel s s') (hs : s.Supplied) : s'.Supplied := by
  -- What was there before has its record still.
  have hkept (name : String) (hname : name ∈ s.platform.services) :
      ∃ i service, s'.Made i service ∧ service.name = name := by
    obtain ⟨i, service, hmade, hservice⟩ := hs.services name hname
    exact ⟨i, service, h.made hmade, hservice⟩
  cases h with
  | @call i request reply b hcall =>
    obtain ⟨clock, hsettled⟩ := hcall.settlement
    have hid : b.identity = s.identity i := by rw [hsettled.resumed]; rfl
    constructor
    · refine stages_put hid ?_ hs.stages
      rw [hsettled.resumed]
      exact Pass.resume_provides (hs.stages i) hsettled.asked _ _ _
    · intro name hname
      rcases hsettled.services with hservices | hservices
      · exact hkept name (hservices ▸ hname)
      · rcases Platform.mem_serve_services (hservices ▸ hname) with hold | ⟨service, rfl, hservice⟩
        · exact hkept name hold
        · -- The call that brought the service is the last one of the record.
          obtain ⟨spec, hspec⟩ := (hs.stages i).request hsettled.asked
          obtain ⟨moment, hcalls⟩ := hsettled.calls
          refine ⟨i, service, ⟨⟨spec, identity_put hid i ▸ hspec⟩, ?_⟩, hservice⟩
          exact ⟨_, hcalls.symm ▸ List.mem_append_right _ List.mem_cons_self, rfl⟩
  | start i h => exact ⟨stages_put rfl ⟨(s.hand i).1.spec, fun _ h => h⟩ hs.stages, hkept⟩
  | update i spec =>
    exact ⟨stages_put ((s.bench i).update_identity spec) (hs.stages i) hs.stages, hkept⟩
  | outside p draws hpods hservices hcalls =>
    exact ⟨hs.stages, fun name hname => hkept name (hservices hname)⟩

/-- In any run the services are those that the controllers asked for. -/
theorem runs_supplied (h : Relation.ReflTransGen (Move fuel) s₀ s) (hs : s₀.Supplied) :
    s.Supplied := by
  induction h with
  | refl => exact hs
  | tail _ hmove ih => exact hmove.supplied ih

/-- Clusters of different names have different config maps and different pods, and they have the name of
a service in common just if one of them is called after the other. In any run from a namespace without
services, a service that a controller finds in place is one that a controller asked for, and all of its
name that were asked for were built for the controller's own cluster or for one that it clashes with. -/
theorem objects_apart (hnames : Function.Injective s₀.cluster)
    (hidle : ∀ i, (s₀.bench i).stage = .finished) (hnone : s₀.platform.services = [])
    (hruns : Relation.ReflTransGen (Move fuel) s₀ s) :
    (∀ a b : Identity, a.name ≠ b.name → a.Apart b) ∧
      ∀ i service, (s.bench i).stage.request? (s.bench i).identity = some (.createService service) →
        (s.platform.serve (.createService service)).1 = .error (.alreadyExists service.name) →
        (∃ j made, s.Made j made ∧ made.name = service.name) ∧
          ∀ j made, s.Made j made → made.name = service.name →
            j = i ∨ Layout.Clash (s₀.cluster j) (s₀.cluster i) := by
  have hfresh : s₀.Supplied := by
    constructor
    · intro j
      have hstage : (s₀.hand j).2 = .finished := hidle j
      rw [hstage]
      trivial
    · rw [hnone]
      rintro name ⟨⟩
  have hsupplied := runs_supplied hruns hfresh
  refine ⟨fun a b => Identity.apart, fun i service hrequest hrefused => ⟨?_, ?_⟩⟩
  · exact hsupplied.services _ (Platform.mem_services_of_refused hrefused)
  · rintro j made ⟨⟨spec, hmade⟩, -⟩ hname
    by_cases hj : j = i
    · exact .inl hj
    · right
      obtain ⟨spec', hservice⟩ := (hsupplied.stages i).request hrequest
      rw [runs_identity hruns] at hmade hservice
      have hother : (s₀.identity j).name ≠ (s₀.identity i).name := fun h => hj (hnames h)
      exact (Pass.services_share_iff hother spec spec').mp ⟨made, hmade, service, hservice, hname⟩

def twins : Neighbours Bool where
  hand later := fresh (if later then "demo-routes" else "demo")
  platform := {}
  draws := ⟨id, 0⟩

def contested : Neighbours Bool :=
  let supplied := [true, true].foldl (act 9) (twins.put true (twins.bench true).start)
  supplied.put false (supplied.bench false).start

theorem contested_runs : Relation.ReflTransGen (Move 9) twins contested :=
  .tail (.head (.start twins true rfl) (acts_run 9 _ _)) (.start _ false rfl)

/-- The second cluster asks for its routes service. -/
theorem contested_asks :
    (contested.bench false).stage.request? (contested.bench false).identity =
      some (.createService (Manifest.routesService (twins.identity false) { size := 1 })) := rfl

/-- It is refused, as the first cluster has a service of this name. -/
theorem contested_refuses :
    (contested.platform.serve
      (.createService (Manifest.routesService (twins.identity false) { size := 1 }))).1 =
      .error (.alreadyExists "demo-routes") := rfl

/-- The service that is there was asked for by the other cluster. -/
theorem objects_apart_twins :
    ∃ j made, contested.Made j made ∧ made.name = "demo-routes" ∧
      (j = false ∨ Layout.Clash (twins.cluster j) "demo") := by
  have hnames : Function.Injective twins.cluster := by
    intro i j
    cases i <;> cases j <;> decide
  obtain ⟨-, hservices⟩ := objects_apart hnames (fun _ => rfl) rfl contested_runs
  obtain ⟨⟨j, made, hmade, hname⟩, hall⟩ := hservices false _ contested_asks contested_refuses
  exact ⟨j, made, hmade, hname, hall j made hmade hname⟩

/-- Both names can be names of services, and still the routes service of one cluster is refused, and taken
for created, because of the client service of the other one. That one picks no pod of the first cluster,
so that the addresses of its pods do not resolve. -/
theorem routes_service_taken :
    Layout.isLabel (twins.cluster false) = true ∧ Layout.isLabel (twins.cluster true) = true ∧
      twins.cluster false ≠ twins.cluster true ∧ Relation.ReflTransGen (Move 9) twins contested ∧
      ∃ wanted made, (contested.bench false).stage.request? (contested.bench false).identity =
          some (.createService wanted) ∧
        (contested.platform.serve (.createService wanted)).1 = .error (.alreadyExists wanted.name) ∧
        Request.accepts (.createService wanted) (.error (.alreadyExists wanted.name)) = true ∧
        contested.Made true made ∧ made.name = wanted.name ∧
        ∀ pod : Pod, pod.BuiltFor (twins.cluster false) →
          (made.selector.all fun l => pod.metadata.label? l.1 == some l.2) = false := by
  refine ⟨by decide, by decide, by decide, contested_runs, _,
    Manifest.clientService (twins.identity true) { size := 1 }, contested_asks, contested_refuses, rfl,
    ⟨⟨{ size := 1 }, .tail _ (.head _)⟩, ?_⟩, rfl, fun pod hpod => ?_⟩
  · exact ⟨⟨0, .createService _, some (.ok [])⟩, .tail _ (.head _), rfl⟩
  · have hlabel : pod.metadata.label? Layout.clusterLabel = some "demo" := hpod.label_cluster.2
    refine List.all_eq_false.mpr ⟨(Layout.clusterLabel, "demo-routes"), .tail _ (.head _), ?_⟩
    rw [hlabel]
    decide

end Neighbours

end NatsFleet
