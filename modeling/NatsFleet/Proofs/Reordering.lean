import NatsFleet.Proofs.Publishing
import NatsFleet.Proofs.Upkeep

/-!
Why a converged cluster may have its configuration written once more. A pass lists new pods in the
order in which it planned their names, and the next one in the order of creation, and of names where
pods were created at the same time.
-/
namespace NatsFleet

namespace Timestamp

variable {a b c : Option Timestamp}

/-- One time is before another by its seconds, or by the rest of a second. -/
theorem before_some (a b : Timestamp) : before (some a) (some b) = true ↔
    a.seconds < b.seconds ∨ a.seconds = b.seconds ∧ a.nanos < b.nanos := by
  simp [before]

/-- Of two times at most one is before the other. -/
theorem before_asymm (h : before a b = true) : before b a = false := by
  rcases a with _ | a <;> rcases b with _ | b
  · cases h
  · rfl
  · cases h
  · rw [before_some] at h
    rw [← Bool.not_eq_true, before_some]
    omega

/-- A moment that is between two others has one of them before it or after it. -/
theorem before_or (h : before a c = true) (b : Option Timestamp) :
    before a b = true ∨ before b c = true := by
  rcases a with _ | a <;> rcases c with _ | c <;> rcases b with _ | b
  · cases h
  · cases h
  · exact .inr rfl
  · exact .inl rfl
  · cases h
  · cases h
  · exact .inr rfl
  · rw [before_some] at h ⊢
    rw [before_some]
    omega

/-- Times of which neither is before the other are equal. -/
theorem eq_of_not_before (h : before a b = false) (h' : before b a = false) : a = b := by
  rcases a with _ | ⟨s, n⟩ <;> rcases b with _ | ⟨t, m⟩
  · rfl
  · cases h
  · cases h'
  · rw [← Bool.not_eq_true, before_some] at h h'
    dsimp only at h h'
    obtain rfl : s = t := by omega
    obtain rfl : n = m := by omega
    rfl

end Timestamp

/-- One moment is earlier than another one; an unknown moment is earlier than each known one. -/
inductive Timestamp.Earlier : Option Timestamp → Option Timestamp → Prop
  | unknown (t : Timestamp) : Earlier none (some t)
  | second {s t : Timestamp} (h : s.seconds < t.seconds) : Earlier (some s) (some t)
  | nanos {s t : Timestamp} (hsecond : s.seconds = t.seconds) (h : s.nanos < t.nanos) :
      Earlier (some s) (some t)

/-- The test agrees with the order of the moments. -/
theorem Timestamp.before_iff_earlier (a b : Option Timestamp) : before a b = true ↔ Earlier a b := by
  rcases a with _ | a <;> rcases b with _ | b
  · exact iff_of_false Bool.false_ne_true (by rintro ⟨⟩)
  · exact iff_of_true rfl (.unknown b)
  · exact iff_of_false Bool.false_ne_true (by rintro ⟨⟩)
  · rw [before_some]
    constructor
    · rintro (hlt | ⟨heq, hlt⟩)
      · exact .second hlt
      · exact .nanos heq hlt
    · intro h
      cases h with
      | second hlt => exact .inl hlt
      | nanos heq hlt => exact .inr ⟨heq, hlt⟩

namespace LivePod

variable {p q r : LivePod}

theorem le_iff : p.le q = true ↔ Timestamp.before p.created q.created = true ∨
    Timestamp.before q.created p.created = false ∧ p.record.name ≤ q.record.name := by
  simp [le]

theorem not_before_of_le (h : p.le q = true) : Timestamp.before q.created p.created = false := by
  rcases le_iff.mp h with hbefore | ⟨hafter, -⟩
  · exact Timestamp.before_asymm hbefore
  · exact hafter

/-- Pods are ordered by creation, then by name. -/
theorem le_trans (hpq : p.le q = true) (hqr : q.le r = true) : p.le r = true := by
  rw [le_iff]
  have hqp := not_before_of_le hpq
  have hrq := not_before_of_le hqr
  by_cases hbefore : Timestamp.before p.created r.created = true
  · exact .inl hbefore
  · -- Neither of the three is before another one, so it is for the names to decide.
    rcases le_iff.mp hpq with hlt | ⟨-, hname⟩
    · rcases Timestamp.before_or hlt r.created with h | h
      · exact absurd h hbefore
      · rw [hrq] at h
        cases h
    · rcases le_iff.mp hqr with hlt | ⟨-, hname'⟩
      · rcases Timestamp.before_or hlt p.created with h | h
        · rw [hqp] at h
          cases h
        · exact absurd h hbefore
      · refine .inr ⟨?_, String.le_trans hname hname'⟩
        by_contra hafter
        rcases Timestamp.before_or (Bool.not_eq_false _ ▸ hafter) q.created with h | h
        · rw [hrq] at h
          cases h
        · rw [hqp] at h
          cases h

/-- Of two pods one comes first. -/
theorem le_total (p q : LivePod) : (p.le q || q.le p) = true := by
  rw [Bool.or_eq_true, le_iff, le_iff]
  cases hpq : Timestamp.before p.created q.created <;>
    cases hqp : Timestamp.before q.created p.created
  · rcases String.le_total p.record.name q.record.name with h | h
    · exact .inl (.inr ⟨rfl, h⟩)
    · exact .inr (.inr ⟨rfl, h⟩)
  · exact .inr (.inl rfl)
  · exact .inl (.inl rfl)
  · exact .inl (.inl rfl)

/-- Pods that go either way have one name. -/
theorem name_eq_of_le (hpq : p.le q = true) (hqp : q.le p = true) :
    p.record.name = q.record.name := by
  have hnames (p q : LivePod) (hpq : p.le q = true) (hqp : q.le p = true) :
      p.record.name ≤ q.record.name := by
    rcases le_iff.mp hpq with h | ⟨-, h⟩
    · rw [not_before_of_le hqp] at h
      cases h
    · exact h
  exact String.le_antisymm (hnames p q hpq hqp) (hnames q p hqp hpq)

/-- Of two pods that were not created one before the other, those stand wrongly which were created
at the same time and whose names are the other way round. -/
theorem not_le_iff (h : Timestamp.before q.created p.created = false) :
    p.le q = false ↔ p.created = q.created ∧ q.record.name < p.record.name := by
  rw [← Bool.not_eq_true, le_iff, not_or, not_and, String.not_le, Bool.not_eq_true]
  constructor
  · rintro ⟨hbefore, hname⟩
    exact ⟨Timestamp.eq_of_not_before hbefore h, hname h⟩
  · rintro ⟨hsame, hname⟩
    rw [hsame]
    rw [hsame] at h
    exact ⟨h, fun _ => hname⟩

end LivePod

namespace Pod

/-- One pod comes before another one: by the moment of its creation, and then by its name. -/
def Precedes (p q : Pod) : Prop :=
  Timestamp.Earlier p.metadata.creationTimestamp q.metadata.creationTimestamp ∨
    p.metadata.creationTimestamp = q.metadata.creationTimestamp ∧ p.name < q.name

/-- Of two pods of different names one precedes the other. -/
theorem precedes_of_le {id : Identity} {p q : Pod}
    (h : (LivePod.ofPod id p).le (LivePod.ofPod id q) = true) (hne : p.name ≠ q.name) :
    p.Precedes q := by
  have hle : Timestamp.before p.metadata.creationTimestamp q.metadata.creationTimestamp = true ∨
      Timestamp.before q.metadata.creationTimestamp p.metadata.creationTimestamp = false ∧
        p.name ≤ q.name := LivePod.le_iff.mp h
  cases hbefore : Timestamp.before p.metadata.creationTimestamp q.metadata.creationTimestamp with
  | true => exact .inl ((Timestamp.before_iff_earlier _ _).mp hbefore)
  | false =>
    -- Neither was created before the other, so it is for the names to decide.
    rw [hbefore, or_iff_right Bool.false_ne_true] at hle
    have hname : p.name < q.name := by
      by_contra hnot
      exact hne (String.le_antisymm hle.2 (String.not_lt.mp hnot))
    exact .inr ⟨Timestamp.eq_of_not_before hbefore hle.1, hname⟩

end Pod

namespace Plan

variable {id : Identity} {spec : ClusterSpec} {listed : List Pod} {pods : List LivePod}

theorem live_pairwise (id : Identity) (listed : List Pod) :
    (live id listed).Pairwise fun p q => p.le q = true :=
  @List.pairwise_mergeSort _ LivePod.le (fun _ _ _ => LivePod.le_trans) LivePod.le_total _

/-- Pods in their order are the live ones in their order, if they are the same. -/
theorem live_eq_of_perm (hnames : (namesOf pods).Nodup) (hperm : pods.Perm (live id listed))
    (hsorted : pods.Pairwise fun p q => p.le q = true) : pods = live id listed := by
  have hantisymm (p q : LivePod) (hp : p ∈ pods) (hq : q ∈ live id listed) (hpq : p.le q = true)
      (hqp : q.le p = true) : p = q :=
    List.inj_on_of_nodup_map hnames hp (hperm.mem_iff.mpr hq) (LivePod.name_eq_of_le hpq hqp)
  exact List.Perm.eq_of_pairwise hantisymm hsorted (live_pairwise id listed) hperm

/-- The plan is made of the live pods in order, however they were sorted. -/
theorem ofListing_of_sorted (hnames : (namesOf pods).Nodup) (hperm : pods.Perm (found id listed))
    (hsorted : pods.Pairwise fun p q => p.le q = true) :
    ofListing id spec listed = ofLive spec (terminated listed) pods := by
  rw [live_eq_of_perm hnames (hperm.trans (live_perm id listed).symm) hsorted]
  rfl

/-- If nothing is to be removed, all the pods are live, and all are kept. -/
theorem kept_eq_live (hnames : ((present listed).map Pod.name).Nodup)
    (hremovals : (ofListing id spec listed).removals = []) :
    (ofListing id spec listed).kept = live id listed := by
  have hkept := (kept_perm id spec hnames).length_eq
  rw [remaining_eq hremovals, List.length_map] at hkept
  refine (kept_sublist id spec listed).eq_of_length_le ?_
  rw [hkept, (live_perm id listed).length_eq, List.length_map]
  exact List.length_filter_le _ _

/-- Where nothing is removed all pods that are present are live. -/
theorem live_perm_present (hnames : ((present listed).map Pod.name).Nodup)
    (hremovals : (ofListing id spec listed).removals = []) :
    (live id listed).Perm ((present listed).map (LivePod.ofPod id)) := by
  rw [← kept_eq_live hnames hremovals, ← remaining_eq hremovals]
  exact kept_perm id spec hnames

/-- A list of the live pods has their names in their order exactly if it is in order itself. -/
theorem namesOf_eq_iff (hnames : (namesOf pods).Nodup) (hperm : pods.Perm (live id listed)) :
    namesOf pods = namesOf (live id listed) ↔ pods.Pairwise fun p q => p.le q = true := by
  refine ⟨fun h => ?_, fun h => congrArg namesOf (live_eq_of_perm hnames hperm h)⟩
  have hsame : pods = live id listed := by
    refine List.ext_getElem hperm.length_eq fun n hn hn' => ?_
    -- Names are distinct: two pods of one name are the same pod.
    have hname : pods[n].record.name = (live id listed)[n].record.name := by
      have hget := congrArg (·[n]?) h
      simpa [namesOf, hn, hn'] using hget
    exact List.inj_on_of_nodup_map hnames (List.getElem_mem hn)
      (hperm.mem_iff.mpr (List.getElem_mem hn')) hname
  rw [hsame]
  exact live_pairwise id listed

end Plan

/-- Configurations that list pods by the addresses of their names are told apart by their texts. -/
theorem ServerConfig.render_injective (id : Identity) (spec : ClusterSpec)
    {names names' : List String}
    (hline : ∀ name ∈ names, '\n' ∉ (Manifest.routeAddress name id.name id.namespaceName).toList)
    (hperm : names.Perm names') :
    let routes (names : List String) := names.map fun name =>
      Manifest.routeAddress name id.name id.namespaceName
    (forCluster spec (routes names)).render = (forCluster spec (routes names')).render ↔
      names = names' := by
  intro routes
  refine ⟨fun h => ?_, fun h => h ▸ rfl⟩
  have hroutes (l : List String) (hl : names.Perm l) : ∀ a ∈ routes l, '\n' ∉ a.toList := by
    intro a ha
    obtain ⟨name, hname, rfl⟩ := List.mem_map.mp ha
    exact hline name (hl.mem_iff.mpr hname)
  have hread := congrArg readRoutes h
  rw [readRoutes_render spec _ (hroutes names (.refl _)),
    readRoutes_render spec _ (hroutes names' hperm)] at hread
  exact List.map_injective_iff.mpr (Manifest.routeAddress_injective _ _) hread

namespace Bench

/-- The pods in the order in which a pass lists them in the configuration: those that it keeps, and
then the other members that there are after it. -/
def routed (b b' : Bench) : List LivePod :=
  b.plan.kept ++ (b'.members.filter fun pod => pod.name ∉ b.plan.keptNames).map
    (LivePod.ofPod b.identity)

variable {fuel : Nat} {b b₀ b₁ b₂ : Bench} {answers first second : List Pass.Answered}
  {planned : List String} {new : List Pod}

/-- The pods that are kept are those that remain. -/
theorem kept_perm_remaining (hnames : b.platform.NamesDistinct) :
    b.plan.kept.Perm ((Plan.remaining b.identity b.controller.spec b.members).map
      (LivePod.ofPod b.identity)) :=
  Plan.kept_perm _ _ (present_names_nodup hnames)

theorem keptNames_perm (hnames : b.platform.NamesDistinct) : b.plan.keptNames.Perm
    ((Plan.remaining b.identity b.controller.spec b.members).map Pod.name) := by
  have hperm := (kept_perm_remaining hnames).map (·.record.name)
  rwa [List.map_map] at hperm

theorem Turned.members_names (h : b₀.Turned first b₁ planned new) :
    ((Plan.remaining b₀.identity b₀.controller.spec b₀.members).map Pod.name ++ planned).Nodup := by
  have hnodup := Platform.memberNames_nodup h.names b₁.identity.name
  have hmembers : b₁.platform.memberNames b₁.identity.name = b₁.members.map Pod.name := rfl
  rwa [hmembers, h.members_remaining, List.map_append, h.new_names] at hnodup

/-- The other members are the pods that have been created. -/
theorem Turned.routed (h : b₀.Turned first b₁ planned new) (hnames : b₀.platform.NamesDistinct) :
    b₀.routed b₁ = b₀.plan.kept ++ new.map (LivePod.ofPod b₀.identity) := by
  obtain ⟨-, -, hdisjoint⟩ := List.nodup_append.mp h.members_names
  have hkept := keptNames_perm hnames
  have hremaining : (Plan.remaining b₀.identity b₀.controller.spec b₀.members).filter
      (fun pod => pod.name ∉ b₀.plan.keptNames) = [] := by
    rw [List.filter_eq_nil_iff]
    intro pod hpod
    simpa using hkept.mem_iff.mpr (List.mem_map_of_mem hpod)
  have hnew : new.filter (fun pod => pod.name ∉ b₀.plan.keptNames) = new := by
    rw [List.filter_eq_self]
    intro pod hpod
    have hname : pod.name ∈ planned := h.new_names ▸ List.mem_map_of_mem hpod
    exact decide_eq_true fun hin => hdisjoint _ (hkept.mem_iff.mp hin) _ hname rfl
  rw [Bench.routed, h.members_remaining, List.filter_append, hremaining, hnew, List.nil_append]

/-- The routes are those of the pods that are there after the pass. -/
theorem Turned.routed_perm (h : b₀.Turned first b₁ planned new) (hnames : b₀.platform.NamesDistinct) :
    (b₀.routed b₁).Perm (b₁.members.map (LivePod.ofPod b₀.identity)) := by
  rw [h.routed hnames, h.members_remaining, List.map_append]
  exact (kept_perm_remaining hnames).append_right _

/-- The kept pods come first, then those planned. -/
theorem Turned.routed_names (h : b₀.Turned first b₁ planned new)
    (hnames : b₀.platform.NamesDistinct) :
    Plan.namesOf (b₀.routed b₁) = b₀.plan.keptNames ++ planned := by
  rw [h.routed hnames, Plan.namesOf, List.map_append, List.map_map, ← h.new_names]
  rfl

theorem Turned.routed_memberNames (h : b₀.Turned first b₁ planned new)
    (hnames : b₀.platform.NamesDistinct) :
    (Plan.namesOf (b₀.routed b₁)).Perm (b₁.members.map Pod.name) := by
  have hperm := (h.routed_perm hnames).map (·.record.name)
  rwa [List.map_map] at hperm

/-- No pod has two routes. -/
theorem Turned.routed_nodup (h : b₀.Turned first b₁ planned new)
    (hnames : b₀.platform.NamesDistinct) : (Plan.namesOf (b₀.routed b₁)).Nodup := by
  refine (h.routed_memberNames hnames).nodup_iff.mpr ?_
  rw [← present_members]
  exact present_names_nodup h.names

/-- What is remembered after a clean pass is the configuration that it planned. -/
theorem Turned.config_routed (h : b₀.Turned first b₁ planned new)
    (hnames : b₀.platform.NamesDistinct) :
    b₁.controller.memory.config = some (ServerConfig.forCluster b₀.controller.spec
      ((Plan.namesOf (b₀.routed b₁)).map fun name =>
        Manifest.routeAddress name b₀.identity.name b₀.identity.namespaceName)).render := by
  rw [h.config, Pass.config, plan, Plan.routes_eq, h.routed_names hnames]
  rfl

def orderedText (b : Bench) : String :=
  (ServerConfig.forCluster b.controller.spec
    ((Plan.namesOf (Plan.live b.identity b.members)).map fun name =>
      Manifest.routeAddress name b.identity.name b.identity.namespaceName)).render

/-- A pass that leaves the pods alone lists the live members in their order. It writes that unless
it is remembered. -/
theorem Alone.writes_iff (h : Alone fuel b.start answers b₁) (hdone : b₁.stage = .finished)
    (hcomma : ',' ∉ b.identity.name.toList) (hnames : b.platform.NamesDistinct)
    (hdeletions : Pass.deletions answers = []) (hcreations : Pass.creations answers = []) :
    (Pass.Lists answers → b.plan.removals = []) ∧
      (Pass.writings answers ≠ [] ↔
        Pass.Lists answers ∧ b.controller.memory.config ≠ some b.orderedText) := by
  obtain ⟨x, y, rest, rfl, hservices, hrest⟩ := h.minutes hdone hcomma
  rcases hrest with ⟨a, e, rfl, hrequest, hreply⟩ | ⟨r, hr, rfl, hplan, -⟩
  · -- The pass is over before it could write.
    have hnone : Pass.writings [x, y, a] = [] := by
      have hrequests : [x, y, a].map (·.request) =
          (Pass.services b.identity b.controller.spec).map .createService ++ [a.request] := by
        rw [← hservices]
        rfl
      rw [Pass.writings, hrequests, hrequest]
      rfl
    have hfailed := Pass.not_lists hservices hreply
    exact ⟨fun hlists => absurd hlists hfailed, fun hwrites => absurd hnone hwrites,
      fun hlists => absurd hlists.1 hfailed⟩
  · obtain ⟨hremoved, hcreated, hwritten⟩ := hr.asks hservices
    rw [hdeletions, eq_comm, List.map_eq_nil_iff] at hremoved
    rw [hcreations, eq_comm, List.map_eq_nil_iff] at hcreated
    rw [hplan] at hremoved
    have hlists : Pass.Lists (x :: y :: r.answered) := by
      refine ⟨r.listing, by simp [Pass.Minutes.answered], ?_, Pass.Answered.isOk_ok hr.listed⟩
      rw [hr.listing]
      rfl
    have htext : r.text = b.orderedText := by
      have hkept : b.plan.keptNames = Plan.namesOf (Plan.live b.identity b.members) :=
        congrArg Plan.namesOf (Plan.kept_eq_live (present_names_nodup hnames) hremoved)
      rw [Pass.Minutes.text, Pass.Minutes.work, Pass.config, hplan, hcreated, plan, Plan.routes_eq,
        List.append_nil, ← plan, hkept]
      rfl
    rw [hwritten, htext]
    refine ⟨fun _ => hremoved, ?_⟩
    by_cases hsame : b.controller.memory.config = some b.orderedText
    · simp [hsame]
    · simp [hsame, hlists]

/-- A second pass that leaves the pods alone writes the configuration anew exactly if the first one
has not listed them in their order. -/
theorem CleanPass.rewrites_iff (hfirst : b₀.CleanPass fuel first b₁)
    (hsecond : Alone fuel b₁.start second b₂) (hdone : b₂.stage = .finished)
    (hcomma : ',' ∉ b₀.identity.name.toList) (hnames : b₀.platform.NamesDistinct)
    (hline : ∀ pod ∈ b₁.members,
      '\n' ∉ (Manifest.routeAddress pod.name b₀.identity.name b₀.identity.namespaceName).toList)
    (hdeletions : Pass.deletions second = []) (hcreations : Pass.creations second = []) :
    Pass.writings second ≠ [] ↔
      Pass.Lists second ∧ ¬ (b₀.routed b₁).Pairwise fun p q => p.le q = true := by
  obtain ⟨planned, new, hturned⟩ := hfirst.turned hcomma hnames
  have hid := hturned.identity
  obtain ⟨hremovals, hwrites⟩ :=
    hsecond.writes_iff hdone (hid ▸ hcomma) hturned.names hdeletions hcreations
  rw [hwrites]
  refine and_congr_right fun hlists => not_congr ?_
  -- Both texts list the same pods, each in an order of its own.
  have hlive := Plan.live_perm_present (present_names_nodup hturned.names) (hremovals hlists)
  rw [present_members, hid] at hlive
  have hsame := (hturned.routed_perm hnames).trans hlive.symm
  have hline' : ∀ name ∈ Plan.namesOf (b₀.routed b₁),
      '\n' ∉ (Manifest.routeAddress name b₀.identity.name b₀.identity.namespaceName).toList := by
    intro name hname
    obtain ⟨pod, hpod, rfl⟩ :=
      List.mem_map.mp ((hturned.routed_memberNames hnames).mem_iff.mp hname)
    exact hline pod hpod
  have htexts := ServerConfig.render_injective b₀.identity b₀.controller.spec hline' (hsame.map _)
  rw [hturned.config_routed hnames, Option.some_inj, orderedText, hid, hturned.spec]
  exact htexts.trans (Plan.namesOf_eq_iff (hturned.routed_nodup hnames) hsame)

/-- Creation times never decrease in the order of creation, in which the pods are listed. -/
def Stamped (pods : List Pod) : Prop :=
  pods.Pairwise fun p q =>
    Timestamp.before q.metadata.creationTimestamp p.metadata.creationTimestamp = false

/-- No pod in the configuration was created before another one that stands earlier. -/
theorem Turned.routed_stamped (h : b₀.Turned first b₁ planned new)
    (hnames : b₀.platform.NamesDistinct) (hstamps : Stamped b₁.members) :
    (b₀.routed b₁).Pairwise fun p q => Timestamp.before q.created p.created = false := by
  rw [Stamped, h.members_remaining, List.pairwise_append] at hstamps
  obtain ⟨-, hnew, hcross⟩ := hstamps
  rw [h.routed hnames, List.pairwise_append]
  refine ⟨?_, List.pairwise_map.mpr hnew, ?_⟩
  · have hkept := (Plan.live_pairwise b₀.identity b₀.members).sublist
      (Plan.kept_sublist b₀.identity b₀.controller.spec b₀.members)
    exact hkept.imp LivePod.not_before_of_le
  · intro p hp q hq
    obtain ⟨pod, hpod, rfl⟩ := List.mem_map.mp ((kept_perm_remaining hnames).mem_iff.mp hp)
    obtain ⟨pod', hpod', rfl⟩ := List.mem_map.mp hq
    exact hcross pod hpod pod' hpod'

/-- Suppose that creation times never decrease. Then after a clean pass another one that leaves the
pods alone writes the configuration anew exactly if two pods were created at the same time and the
first pass has listed them against the order of their names. -/
theorem rewrites_iff_misplaced (hfirst : b₀.CleanPass fuel first b₁)
    (hsecond : Alone fuel b₁.start second b₂) (hdone : b₂.stage = .finished)
    (hcomma : ',' ∉ b₀.identity.name.toList) (hnames : b₀.platform.NamesDistinct)
    (hstamps : Stamped b₁.members)
    (hline : ∀ pod ∈ b₁.members,
      '\n' ∉ (Manifest.routeAddress pod.name b₀.identity.name b₀.identity.namespaceName).toList)
    (hdeletions : Pass.deletions second = []) (hcreations : Pass.creations second = []) :
    Pass.writings second ≠ [] ↔ Pass.Lists second ∧ ∃ p q, [p, q].Sublist (b₀.routed b₁) ∧
      p.created = q.created ∧ q.record.name < p.record.name := by
  obtain ⟨planned, new, hturned⟩ := hfirst.turned hcomma hnames
  have hordered (p q : LivePod) (hpq : [p, q].Sublist (b₀.routed b₁)) :
      Timestamp.before q.created p.created = false :=
    List.pairwise_iff_forall_sublist.mp (hturned.routed_stamped hnames hstamps) hpq
  rw [hfirst.rewrites_iff hsecond hdone hcomma hnames hline hdeletions hcreations]
  refine and_congr_right fun _ => ?_
  rw [List.pairwise_iff_forall_sublist]
  constructor
  · intro hunsorted
    by_contra hnone
    refine hunsorted fun {p q} hpq => ?_
    rw [← Bool.not_eq_false, LivePod.not_le_iff (hordered p q hpq)]
    exact fun hmisplaced => hnone ⟨p, q, hpq, hmisplaced⟩
  · rintro ⟨p, q, hpq, hmisplaced⟩ hsorted
    have hwrong := (LivePod.not_le_iff (hordered p q hpq)).mpr hmisplaced
    rw [hsorted hpq] at hwrong
    cases hwrong

def tied : Bench where
  controller := Controller.ofCluster
    { metadata := { name := some "demo", scope := some "default" }, spec := { size := 2 } }
  platform := { clockStep := 0 }
  draws := ⟨fun n => 5 - n, 0⟩

def doubled : Bench := (work 9)^[7] tied.start

def relisting : Bench := (work 9)^[2] doubled.start

def relisted : Bench :=
  let listed := relisting.platform.pods.filter
    (Platform.selects (Manifest.labelSelector relisting.identity.name))
  let pods := (Plan.found relisting.identity listed).reverse
  relisting.found 9 { size := 2 } (Plan.ofLive { size := 2 } (Plan.terminated listed) pods)

theorem relisting_work : relisting.work 9 = relisted := by
  have hstage : relisting.stage = .listing { size := 2 } :=
    Pass.Stage.eq_listing (by decide +kernel)
  let listed := relisting.platform.pods.filter
    (Platform.selects (Manifest.labelSelector relisting.identity.name))
  -- The pod that was created last goes first by its name.
  have hnames : (Plan.namesOf (Plan.found relisting.identity listed).reverse).Nodup := by
    decide +kernel
  have hsorted : (Plan.found relisting.identity listed).reverse.Pairwise
      fun p q => p.le q = true := by
    decide +kernel
  exact work_found 9 relisting hstage
    (Plan.ofListing_of_sorted hnames (List.reverse_perm _) hsorted)

def secondReplies : List Pass.Answered :=
  doubled.start.replies 9 2 ++ (relisting.replies 9 1 ++ relisted.replies 9 2)

theorem tied_first : tied.CleanPass 9 (tied.start.replies 9 7) doubled :=
  work_cleanPass 9 7 tied rfl (by decide +kernel) (by decide +kernel)

theorem tied_second : doubled.CleanPass 9 secondReplies ((work 9)^[2] relisted) where
  idle := tied_first.done
  alone := by
    have hlisting := work_alone 9 1 relisting
    rw [Function.iterate_one, relisting_work] at hlisting
    exact (work_alone 9 2 doubled.start).append (hlisting.append (work_alone 9 2 relisted))
  accepted := List.all_eq_true.mp (by decide +kernel)
  done := Pass.Stage.eq_finished (by decide +kernel)

theorem doubled_stamped : Stamped doubled.members := by
  unfold Stamped
  decide +kernel

/-- Here the configuration is written once more, although nothing has changed. -/
theorem tied_rewritten :
    tied.CleanPass 9 (tied.start.replies 9 7) doubled ∧ Stamped doubled.members ∧
      doubled.CleanPass 9 secondReplies ((work 9)^[2] relisted) ∧
      Pass.deletions secondReplies = [] ∧ Pass.creations secondReplies = [] ∧
      Pass.writings secondReplies ≠ [] :=
  ⟨tied_first, doubled_stamped, tied_second, List.isEmpty_iff.mp (by decide +kernel),
    List.isEmpty_iff.mp (by decide +kernel), mt List.isEmpty_iff.mpr (by decide +kernel)⟩

theorem rewrites_iff_misplaced_tied : ∃ p q, [p, q].Sublist (tied.routed doubled) ∧
    p.created = q.created ∧ q.record.name < p.record.name := by
  have hline : ∀ pod ∈ doubled.members, '\n' ∉
      (Manifest.routeAddress pod.name tied.identity.name tied.identity.namespaceName).toList := by
    decide +kernel
  have hwrites : Pass.writings secondReplies ≠ [] := mt List.isEmpty_iff.mpr (by decide +kernel)
  exact ((rewrites_iff_misplaced tied_first tied_second.alone tied_second.done (by decide +kernel)
    List.nodup_nil doubled_stamped hline (List.isEmpty_iff.mp (by decide +kernel))
    (List.isEmpty_iff.mp (by decide +kernel))).mp hwrites).2

end Bench

end NatsFleet
