import NatsFleet.Proofs.Census
import Mathlib.Data.Fintype.BigOperators
import Mathlib.Tactic.Ring

/-!
The supply of names. There are `27 ^ 5` names for the pods of a cluster, and planning finds as many as it
needs as long as they last: with a random source that draws every suffix again and again it succeeds if
there are enough of them left, and with no random source otherwise. So a pass that may draw often enough
comes to its names.
-/
namespace NatsFleet

namespace Naming

/-! ### Names for the pods of a cluster -/

def IsSuffix (s : List Char) : Prop := s.length = suffixLength ∧ s ⊆ alphabet

instance (s : List Char) : Decidable (IsSuffix s) :=
  inferInstanceAs (Decidable (s.length = suffixLength ∧ s ⊆ alphabet))

def HasForm (cluster name : String) : Prop := ∃ s, IsSuffix s ∧ withSuffix cluster s = name

def suffixOf (cluster name : String) : List Char := name.toList.drop (cluster.toList.length + 1)

/-- A name is its cluster, a hyphen and its suffix. -/
theorem toList_withSuffix (cluster : String) (s : List Char) :
    (withSuffix cluster s).toList = cluster.toList ++ '-' :: s := by
  simp only [withSuffix, String.toList_append, String.toList_ofList, List.append_assoc]
  rfl

/-- The suffix is read back from the name. -/
theorem suffixOf_withSuffix (cluster : String) (s : List Char) :
    suffixOf cluster (withSuffix cluster s) = s := by
  rw [suffixOf, toList_withSuffix, List.drop_append, List.drop_of_length_le (Nat.le_succ _)]
  simp

theorem withSuffix_injective (cluster : String) : Function.Injective (withSuffix cluster) :=
  Function.LeftInverse.injective (suffixOf_withSuffix cluster)

/-- A name has the form if its suffix is one and nothing else is left. -/
theorem hasForm_iff (cluster name : String) : HasForm cluster name ↔
    IsSuffix (suffixOf cluster name) ∧ withSuffix cluster (suffixOf cluster name) = name := by
  constructor
  · rintro ⟨s, hs, rfl⟩
    rw [suffixOf_withSuffix]
    exact ⟨hs, rfl⟩
  · intro h
    exact ⟨suffixOf cluster name, h⟩

instance (cluster name : String) : Decidable (HasForm cluster name) :=
  decidable_of_iff _ (hasForm_iff cluster name).symm

def supply (cluster : String) : Finset String :=
  Finset.univ.image fun f : Fin suffixLength → Fin alphabet.length =>
    withSuffix cluster (List.ofFn fun i => alphabet.get (f i))

def inUse (cluster : String) (live : List String) : Finset String :=
  live.toFinset.filter (HasForm cluster)

/-- The supply has all names of the form. -/
theorem mem_supply {cluster name : String} : name ∈ supply cluster ↔ HasForm cluster name := by
  simp only [supply, Finset.mem_image, Finset.mem_univ, true_and]
  constructor
  · rintro ⟨f, rfl⟩
    refine ⟨_, ⟨List.length_ofFn, ?_⟩, rfl⟩
    intro c hc
    obtain ⟨i, rfl⟩ := List.mem_ofFn.mp hc
    exact List.get_mem _ _
  · rintro ⟨s, ⟨hlength, hletters⟩, rfl⟩
    have hplace (i : Fin suffixLength) : ∃ j, alphabet.get j = s.get (i.cast hlength.symm) :=
      List.mem_iff_get.mp (hletters (List.get_mem _ _))
    choose f hf using hplace
    refine ⟨f, congrArg (withSuffix cluster) (List.ext_get (by rw [List.length_ofFn, hlength]) ?_)⟩
    intro i hi hi'
    rw [List.get_ofFn, hf]
    rfl

/-- There are five letters out of twenty-seven. -/
theorem card_supply (cluster : String) : (supply cluster).card = 27 ^ 5 := by
  have hletters : Function.Injective alphabet.get := List.nodup_iff_injective_get.mp (by decide)
  have hinjective : Function.Injective fun f : Fin suffixLength → Fin alphabet.length =>
      withSuffix cluster (List.ofFn fun i => alphabet.get (f i)) := by
    intro f g h
    have hsame := List.ofFn_injective (withSuffix_injective cluster h)
    exact funext fun i => hletters (congrFun hsame i)
  rw [supply, Finset.card_image_of_injective _ hinjective, Finset.card_univ, Fintype.card_fun,
    Fintype.card_fin, Fintype.card_fin]
  rfl

theorem inUse_subset (cluster : String) (live : List String) : inUse cluster live ⊆ supply cluster :=
  fun _ h => mem_supply.mpr (Finset.mem_filter.mp h).2

/-! ### What a random source draws -/

theorem letter_mem (draw : Nat) : letter draw ∈ alphabet := by
  have hplace : draw % alphabet.length < alphabet.length := Nat.mod_lt _ (by decide)
  rw [letter, List.getD_eq_getElem?_getD, List.getElem?_eq_getElem hplace, Option.getD_some]
  exact List.getElem_mem hplace

/-- Whatever is drawn, the letters come from the alphabet. -/
theorem letters_subset (n : Nat) (d : Draws) : (letters n d).1 ⊆ alphabet := by
  induction n generalizing d with
  | zero => exact List.nil_subset _
  | succ n ih =>
    intro c hc
    rcases List.mem_cons.mp hc with rfl | hc
    · exact letter_mem _
    · exact ih _ hc

theorem letters_draws (n : Nat) (d : Draws) :
    (letters n d).2 = { d with taken := d.taken + n } := by
  induction n generalizing d with
  | zero => rfl
  | succ n ih =>
    show (letters n d.next.2).2 = _
    rw [ih]
    simp only [Draws.next, Nat.add_assoc, Nat.add_comm 1 n]

/-- What is generated has the form. -/
theorem Generates.hasForm {cluster name : String} (h : Generates cluster name) :
    HasForm cluster name := by
  obtain ⟨d, rfl⟩ := h
  exact ⟨_, ⟨letters_length _ d, letters_subset _ d⟩, rfl⟩

end Naming

namespace Draws

def after (d : Draws) (n : Nat) : Draws :=
  { d with taken := d.taken + Naming.suffixLength * n }

def suffixAt (d : Draws) (n : Nat) : List Char := (Naming.letters Naming.suffixLength (d.after n)).1

/-- Every suffix is drawn again and again. -/
def Fair (d : Draws) : Prop := ∀ s, Naming.IsSuffix s → ∀ n, ∃ m, n ≤ m ∧ d.suffixAt m = s

def drawn (d : Draws) (cluster : String) (n : Nat) : List String :=
  (List.range n).map fun i => Naming.withSuffix cluster (d.suffixAt i)

theorem after_one_after (d : Draws) (n : Nat) : (d.after 1).after n = d.after (n + 1) := by
  have htaken : d.taken + Naming.suffixLength * 1 + Naming.suffixLength * n =
      d.taken + Naming.suffixLength * (n + 1) := by ring
  exact congrArg (Draws.mk d.stream) htaken

/-- The names drawn begin with the suffix at the first draw. -/
theorem drawn_succ (d : Draws) (cluster : String) (n : Nat) :
    d.drawn cluster (n + 1) =
      Naming.withSuffix cluster (d.suffixAt 0) :: (d.after 1).drawn cluster n := by
  rw [drawn, List.range_succ_eq_map, List.map_cons, List.map_map]
  refine congrArg _ (List.map_congr_left fun i _ => ?_)
  show Naming.withSuffix cluster (d.suffixAt (i + 1)) = _
  rw [suffixAt, suffixAt, after_one_after]

/-- A fair source comes to draw all names of a cluster. -/
theorem Fair.exhausts {d : Draws} (h : d.Fair) (cluster : String) :
    ∃ n, ∀ name, Naming.HasForm cluster name → name ∈ d.drawn cluster n := by
  have hdrawn (name : String) (hform : Naming.HasForm cluster name) :
      ∃ m, Naming.withSuffix cluster (d.suffixAt m) = name := by
    obtain ⟨s, hs, rfl⟩ := hform
    obtain ⟨m, -, hm⟩ := h s hs 0
    exact ⟨m, by rw [hm]⟩
  -- Each name has its place in the stream, and there are finitely many names.
  choose! m hm using hdrawn
  refine ⟨(Naming.supply cluster).sup m + 1, ?_⟩
  intro name hform
  have hbound : m name ≤ (Naming.supply cluster).sup m :=
    Finset.le_sup (Naming.mem_supply.mpr hform)
  exact List.mem_map.mpr ⟨m name, List.mem_range.mpr (Nat.lt_succ_of_le hbound), hm name hform⟩

end Draws

namespace Naming

/-! ### The names that planning finds -/

/-- A name takes one suffix of the stream. -/
theorem generate_eq (cluster : String) (d : Draws) :
    generate cluster d = (withSuffix cluster (d.suffixAt 0), d.after 1) := by
  have hdraws := letters_draws suffixLength d
  exact Prod.ext rfl hdraws

def unused (live names : List String) : List String := (names.filter fun name => name ∉ live).eraseDups

/-- A name that is taken is passed over. -/
theorem unused_cons_of_mem {name : String} {live : List String} (names : List String)
    (h : name ∈ live) : unused live (name :: names) = unused live names := by
  rw [unused, List.filter_cons_of_neg (by simpa using h)]
  rfl

/-- One that is free is taken, and is not free any more. -/
theorem unused_cons_of_notMem {name : String} {live : List String} (names : List String)
    (h : name ∉ live) : unused live (name :: names) = name :: unused (name :: live) names := by
  rw [unused, List.filter_cons_of_pos (by simpa using h), List.eraseDups_cons, List.filter_filter,
    unused]
  refine congrArg (fun l => name :: List.eraseDups l) (List.filter_congr fun other _ => ?_)
  simp only [List.mem_cons, not_or, Bool.decide_and, decide_not, beq_eq_decide]

/-- The names are the first ones that are drawn and not in use, and no more are drawn than it takes. -/
def FirstDrawn (cluster : String) (live : List String) (count : Nat) (d : Draws) (names : List String)
    (d' : Draws) : Prop :=
  ∃ n, d' = d.after n ∧ names = unused live (d.drawn cluster n) ∧
    ∀ m < n, (unused live (d.drawn cluster m)).length < count

structure Found (cluster : String) (live : List String) (count : Nat) (d : Draws) (names : List String)
    (d' : Draws) : Prop where
  length_eq : names.length = count
  form : ∀ name ∈ names, HasForm cluster name
  nodup : names.Nodup
  fresh : ∀ name ∈ names, name ∉ live
  first : FirstDrawn cluster live count d names d'

def Ends (cluster : String) (live : List String) (count : Nat) (d : Draws) : Prop :=
  ∃ fuel, (plan cluster fuel live count d).isSome

variable {cluster : String} {live names : List String} {fuel count : Nat} {d d' : Draws}

/-- One more name is drawn in front, which gives some of the names that are needed, or none. -/
theorem FirstDrawn.next {live' : List String} {count' : Nat} (lead : List String)
    (h : FirstDrawn cluster live' count' (d.after 1) names d') (hcount : lead.length + count' = count)
    (hneeded : 0 < count) (hlead : ∀ more,
      unused live (withSuffix cluster (d.suffixAt 0) :: more) = lead ++ unused live' more) :
    FirstDrawn cluster live count d (lead ++ names) d' := by
  obtain ⟨n, hdraws, hnames, hfewer⟩ := h
  refine ⟨n + 1, by rw [hdraws, Draws.after_one_after], ?_, ?_⟩
  · rw [Draws.drawn_succ, hlead, hnames]
  · intro m hm
    cases m with
    | zero => exact hneeded
    | succ m =>
      rw [Draws.drawn_succ, hlead, List.length_append, ← hcount]
      exact Nat.add_lt_add_left (hfewer m (Nat.lt_of_succ_lt_succ hm)) _

/-- Planning takes the first names that are free, and draws no further. -/
theorem plan_first (h : plan cluster fuel live count d = some (names, d')) :
    FirstDrawn cluster live count d names d' := by
  -- Each attempt finds one of the names or takes a name that is in use.
  fun_induction plan cluster fuel live count d generalizing names d' with
  | case1 =>
    obtain ⟨rfl, rfl⟩ := Prod.mk.inj (Option.some.inj h)
    exact ⟨0, rfl, rfl, fun m hm => absurd hm (Nat.not_lt_zero m)⟩
  | case2 => cases h
  | case3 fuel live count d name e hname htaken ih =>
    rw [generate_eq, Prod.mk.injEq] at hname
    obtain ⟨rfl, rfl⟩ := hname
    exact (ih h).next [] (Nat.zero_add _) (Nat.succ_pos _) fun more => unused_cons_of_mem more htaken
  | case4 fuel live count d name e hname htaken ih =>
    rw [generate_eq, Prod.mk.injEq] at hname
    obtain ⟨rfl, rfl⟩ := hname
    simp only [Option.bind_eq_bind, Option.bind_eq_some_iff, Prod.exists, Option.some.injEq,
      Prod.mk.injEq] at h
    obtain ⟨more, d'', hmore, rfl, rfl⟩ := h
    exact (ih hmore).next [_] (Nat.add_comm ..) (Nat.succ_pos _) fun more =>
      unused_cons_of_notMem more htaken

/-- The names are distinct, of the form and not in use, and no draw was needless. -/
theorem plan_found (h : plan cluster fuel live count d = some (names, d')) :
    Found cluster live count d names d' where
  length_eq := plan_length _ _ _ _ _ _ _ h
  form name hname := (plan_generates h name hname).hasForm
  nodup := (plan_fresh h).1
  fresh := (plan_fresh h).2
  first := plan_first h

/-- Planning ends once it has drawn as many unused names as it needs. -/
theorem plan_isSome (h : count ≤ (unused live (d.drawn cluster fuel)).length) :
    (plan cluster fuel live count d).isSome := by
  -- A name that has been found is in use from then on, so the induction is for all names in use.
  induction fuel generalizing live count d with
  | zero =>
    obtain rfl := Nat.le_zero.mp h
    rfl
  | succ fuel ih =>
    cases count with
    | zero => rfl
    | succ count =>
      rw [Draws.drawn_succ] at h
      simp only [plan, generate_eq]
      by_cases htaken : withSuffix cluster (d.suffixAt 0) ∈ live
      · rw [unused_cons_of_mem _ htaken] at h
        rw [if_pos htaken]
        exact ih h
      · rw [unused_cons_of_notMem _ htaken, List.length_cons, Nat.succ_le_succ_iff] at h
        obtain ⟨⟨more, d'⟩, hmore⟩ := Option.isSome_iff_exists.mp (ih h)
        rw [if_neg htaken, hmore]
        rfl

/-- The allowance of draws has no say in what is found, as long as it is enough. -/
theorem plan_mono {found : List String × Draws} {fuel' : Nat} (hle : fuel ≤ fuel')
    (h : plan cluster fuel live count d = some found) :
    plan cluster fuel' live count d = some found := by
  induction fuel generalizing live count d found fuel' with
  | zero =>
    cases count with
    | zero => cases fuel' <;> exact h
    | succ count => cases h
  | succ fuel ih =>
    obtain ⟨fuel', rfl⟩ : ∃ n, fuel' = n + 1 := ⟨fuel' - 1, by omega⟩
    have hle' : fuel ≤ fuel' := Nat.le_of_succ_le_succ hle
    cases count with
    | zero => exact h
    | succ count =>
      simp only [plan, generate_eq] at h ⊢
      by_cases htaken : withSuffix cluster (d.suffixAt 0) ∈ live
      · rw [if_pos htaken] at h ⊢
        exact ih hle' h
      · rw [if_neg htaken] at h ⊢
        obtain ⟨more, hmore, hfound⟩ := Option.bind_eq_some_iff.mp h
        rw [ih hle' hmore]
        exact hfound

/-- The names found and those in use are different names of the supply. -/
theorem Found.enough (h : Found cluster live count d names d') :
    count + (inUse cluster live).card ≤ 27 ^ 5 := by
  have hdisjoint : Disjoint names.toFinset (inUse cluster live) := by
    rw [Finset.disjoint_left]
    intro name hname hused
    exact h.fresh name (List.mem_toFinset.mp hname)
      (List.mem_toFinset.mp (Finset.mem_filter.mp hused).1)
  have hsubset : names.toFinset ∪ inUse cluster live ⊆ supply cluster :=
    Finset.union_subset (fun name hname => mem_supply.mpr (h.form name (List.mem_toFinset.mp hname)))
      (inUse_subset cluster live)
  calc count + (inUse cluster live).card
      = (names.toFinset ∪ inUse cluster live).card := by
        rw [Finset.card_union_of_disjoint hdisjoint, List.toFinset_card_of_nodup h.nodup, h.length_eq]
    _ ≤ (supply cluster).card := Finset.card_le_card hsubset
    _ = 27 ^ 5 := card_supply cluster

/-- Planning that ends had enough names left. -/
theorem Ends.enough (h : Ends cluster live count d) : count + (inUse cluster live).card ≤ 27 ^ 5 := by
  obtain ⟨fuel, hfuel⟩ := h
  obtain ⟨⟨names, d'⟩, hplan⟩ := Option.isSome_iff_exists.mp hfuel
  exact (plan_found hplan).enough

/-- A fair source comes to draw each name that is left. -/
theorem ends_of_fair (hfair : d.Fair) (henough : count + (inUse cluster live).card ≤ 27 ^ 5) :
    Ends cluster live count d := by
  obtain ⟨n, hn⟩ := hfair.exhausts cluster
  -- Once all names have been drawn, the unused ones among them are all that are left.
  have hleft : supply cluster \ inUse cluster live ⊆ (unused live (d.drawn cluster n)).toFinset := by
    intro name hname
    obtain ⟨hsupply, hfree⟩ := Finset.mem_sdiff.mp hname
    have hform := mem_supply.mp hsupply
    have hlive : name ∉ live := fun hin =>
      hfree (Finset.mem_filter.mpr ⟨List.mem_toFinset.mpr hin, hform⟩)
    rw [List.mem_toFinset, unused, List.mem_eraseDups, List.mem_filter]
    exact ⟨hn name hform, decide_eq_true hlive⟩
  refine ⟨n, plan_isSome ?_⟩
  calc count
      ≤ 27 ^ 5 - (inUse cluster live).card := Nat.le_sub_of_add_le henough
    _ = (supply cluster \ inUse cluster live).card := by
        rw [Finset.card_sdiff_of_subset (inUse_subset cluster live), card_supply]
    _ ≤ (unused live (d.drawn cluster n)).toFinset.card := Finset.card_le_card hleft
    _ ≤ (unused live (d.drawn cluster n)).length := List.toFinset_card_le _

theorem exists_allowance (hfair : d.Fair)
    (henough : count + (inUse cluster live).card ≤ 27 ^ 5) :
    ∃ least, ∀ fuel, least ≤ fuel → (plan cluster fuel live count d).isSome := by
  obtain ⟨least, hleast⟩ := ends_of_fair hfair henough
  obtain ⟨found, hfound⟩ := Option.isSome_iff_exists.mp hleast
  exact ⟨least, fun fuel hfuel => Option.isSome_iff_exists.mpr ⟨found, plan_mono hfuel hfound⟩⟩

end Naming

namespace Pass

variable {id : Identity} {spec : ClusterSpec} {m m' : Memory} {a b c : Answered}
  {answers : List Answered} {stage : Stage} {listed : List Pod} {fuel : Nat} {d : Draws}

/-- A pass looks for names and has not found them: its allowance of draws is too small. If the random
source is fair and there are names enough, it is large enough from some number on. -/
structure Seeks (id : Identity) (spec : ClusterSpec) (plan : Plan) (fuel : Nat) (d : Draws) :
    Prop where
  unfound : Naming.plan id.name fuel plan.keptNames (plan.shortfall spec) d = none
  findable : d.Fair →
    plan.shortfall spec + (Naming.inUse id.name plan.keptNames).card ≤ 27 ^ 5 →
      ∃ least, ∀ allowance, least ≤ allowance →
        (Naming.plan id.name allowance plan.keptNames (plan.shortfall spec) d).isSome

/-- A pass that stands at its names has had all its removals come back, and draws the names from the
random source as it was then. -/
theorem runs_seeks (h : Runs id fuel (start id spec) m (a :: b :: c :: answers) .naming m')
    (hlisted : c.reply = .ok listed) :
    Seeks id b.desk.spec (.ofListing id b.desk.spec listed) fuel
      (lastDraws c.desk.draws answers) := by
  obtain ⟨removed, rest, d', hanswers, -, -, -, hdraws, hname⟩ := runs_past h hlisted rfl
  rcases runs_name hname with ⟨hnone, hrest, -, -⟩ | ⟨planned, draws, -, hnames, -⟩
  · rw [hrest, List.append_nil] at hanswers
    rw [hdraws, ← hanswers] at hnone
    exact ⟨hnone, Naming.exists_allowance⟩
  · cases hnames

/-- If the random source is fair by the time the pods have been removed, and there are names enough, then
there is an allowance of draws from which on each pass over these pods finds its names, and stops only
when it is over. -/
theorem exists_allowance (id : Identity) (spec : ClusterSpec) (listed : List Pod) (hfair : d.Fair)
    (henough : (Plan.ofListing id spec listed).shortfall spec +
      (Naming.inUse id.name (Plan.ofListing id spec listed).keptNames).card ≤ 27 ^ 5) :
    ∃ least, ∀ fuel, least ≤ fuel → ∀ spec₀ m a b c answers stage m',
      Runs id fuel (start id spec₀) m (a :: b :: c :: answers) stage m' → b.desk.spec = spec →
      c.reply = .ok listed → stage.isRemoving = false →
      lastDraws c.desk.draws (answers.take (Plan.ofListing id spec listed).removals.length) = d →
        stage.hasNames = true ∧ (stage.request? id = none → stage = .finished) := by
  obtain ⟨least, hleast⟩ := Naming.exists_allowance hfair henough
  refine ⟨least, fun fuel hfuel spec₀ m a b c answers stage m' h hspec hlisted hpast hdraws => ?_⟩
  subst hspec
  obtain ⟨removed, rest, d', hanswers, hremoved, -, -, hdraws', hname⟩ := runs_past h hlisted hpast
  have hlength : removed.length = (Plan.ofListing id b.desk.spec listed).removals.length := by
    rw [← List.length_map (·.request), hremoved, List.length_map]
  rw [hanswers, ← hlength, List.take_left, ← hdraws'] at hdraws
  have hfound := hleast fuel hfuel
  rcases runs_name hname with ⟨hnone, -, -, -⟩ | ⟨planned, draws, -, hnames, -⟩
  · rw [← hdraws, hnone] at hfound
    cases hfound
  · refine ⟨hnames, fun hrequest => ?_⟩
    rcases (runs_reached h hlisted).stops hrequest with hfinished | hnaming
    · exact hfinished
    · rw [hnaming] at hnames
      cases hnames

end Pass

/-- A pass that would have to create more pods than there are names never gets past naming them. -/
theorem Pass.name_endless {id : Identity} {spec : ClusterSpec} {plan : Plan}
    (h : 27 ^ 5 < plan.shortfall spec + (Naming.inUse id.name plan.keptNames).card) (fuel : Nat)
    (d : Desk) : Pass.name id fuel spec plan d = (.naming, d) := by
  rw [Pass.name]
  cases hplan : Naming.plan id.name fuel plan.keptNames (plan.shortfall spec) d.draws with
  | none => rfl
  | some found =>
    have henough := Naming.Ends.enough ⟨fuel, Option.isSome_iff_exists.mpr ⟨found, hplan⟩⟩
    exact absurd h (Nat.not_lt.mpr henough)

theorem Pass.listing_endless {id : Identity} {spec : ClusterSpec} (h : 27 ^ 5 < spec.size.toNat)
    (fuel : Nat) (d : Desk) : Pass.resume id fuel (.listing spec) (.ok []) d = (.naming, d) := by
  have hsize : ¬0 = spec.size.toNat := by omega
  have hplan : Plan.ofListing id spec [] = ⟨[], [], 0, false⟩ := by
    simp [Plan.ofListing, Plan.live, Plan.terminated, Plan.present, hsize]
  have hshortfall : 27 ^ 5 < (⟨[], [], 0, false⟩ : Plan).shortfall spec +
      (Naming.inUse id.name (⟨[], [], 0, false⟩ : Plan).keptNames).card := Nat.lt_add_right _ h
  simp only [Pass.resume, hplan, Pass.remove]
  exact Pass.name_endless hshortfall fuel d

namespace Naming

/-- With a source that draws every suffix again and again, planning ends if and only if as many names are
left as it needs, and then it finds the first unused ones. With too few left it ends with no source at all,
and a declared size can be that large. -/
theorem planning_ends (cluster : String) (live : List String) (count : Nat) :
    (∀ d : Draws, d.Fair →
      (Ends cluster live count d ↔ count + (inUse cluster live).card ≤ 27 ^ 5)) ∧
    (∀ fuel d names d', plan cluster fuel live count d = some (names, d') →
      Found cluster live count d names d') ∧
    (27 ^ 5 < count + (inUse cluster live).card → ∀ d, ¬ Ends cluster live count d) ∧
    ∃ spec : ClusterSpec, ∀ id fuel d,
      Pass.resume id fuel (.listing spec) (.ok []) d = (.naming, d) := by
  refine ⟨fun d hfair => ⟨Ends.enough, ends_of_fair hfair⟩, fun fuel d names d' => plan_found, ?_, ?_⟩
  · intro hfew d hends
    exact Nat.not_lt.mpr hends.enough hfew
  · exact ⟨{ size := 14348908 }, fun id => Pass.listing_endless (by decide)⟩

def word : Nat → Nat → List Char
  | 0, _ => []
  | n + 1, number => letter number :: word n (number / 27)

def cycling : Draws where
  stream n := n / suffixLength / 27 ^ (n % suffixLength)

/-- Each word has a number, and comes again at regular distances. -/
theorem exists_word {s : List Char} (h : s ⊆ alphabet) :
    ∃ number, ∀ n, word s.length (number + n * 27 ^ s.length) = s := by
  induction s with
  | nil => exact ⟨0, fun n => rfl⟩
  | cons c s ih =>
    obtain ⟨number, hnumber⟩ := ih fun c hc => h (List.mem_cons_of_mem _ hc)
    obtain ⟨i, hi, rfl⟩ := List.mem_iff_getElem.mp (h List.mem_cons_self)
    refine ⟨i + 27 * number, fun n => ?_⟩
    have hsplit : i + 27 * number + n * 27 ^ (s.length + 1) = i + 27 * (number + n * 27 ^ s.length) := by
      ring
    have hplace : i < 27 := hi
    rw [List.length_cons, hsplit, word, Nat.add_mul_div_left _ _ (by decide), Nat.div_eq_of_lt hplace,
      Nat.zero_add, hnumber]
    -- What is left is the first letter.
    refine congrArg (· :: s) ?_
    show alphabet.getD ((i + 27 * (number + n * 27 ^ s.length)) % 27) 'b' = _
    rw [Nat.add_mul_mod_self_left, Nat.mod_eq_of_lt hplace, List.getD_eq_getElem?_getD,
      List.getElem?_eq_getElem hi, Option.getD_some]

/-- From its letter `i` on, the suffix numbered `m` has the digits of `m` from place `i` on. -/
theorem letters_cycling (n m i : Nat) (h : i + n = 5) :
    (letters n ⟨cycling.stream, 5 * m + i⟩).1 = word n (m / 27 ^ i) := by
  induction n generalizing i with
  | zero => rfl
  | succ n ih =>
    have hdraw : cycling.stream (5 * m + i) = m / 27 ^ i := by
      have hnumber : (5 * m + i) / 5 = m := by omega
      have hplace : (5 * m + i) % 5 = i := by omega
      show (5 * m + i) / 5 / 27 ^ ((5 * m + i) % 5) = _
      rw [hnumber, hplace]
    show letter (cycling.stream (5 * m + i)) ::
      (letters n ⟨cycling.stream, 5 * m + (i + 1)⟩).1 = _
    rw [ih (i + 1) (by omega), hdraw, word, Nat.div_div_eq_div_mul, pow_succ]

theorem suffixAt_cycling (n : Nat) : cycling.suffixAt n = word suffixLength n := by
  have hletters := letters_cycling suffixLength n 0 rfl
  rw [pow_zero, Nat.div_one] at hletters
  rw [← hletters, Draws.suffixAt, Draws.after]
  exact congrArg (fun taken => (letters suffixLength ⟨cycling.stream, taken⟩).1) (Nat.zero_add _)

/-- A stream that goes through all suffixes again and again is fair. -/
theorem cycling_fair : cycling.Fair := by
  rintro s ⟨hlength, hletters⟩ n
  obtain ⟨number, hnumber⟩ := exists_word hletters
  refine ⟨number + n * 27 ^ s.length, ?_, ?_⟩
  · exact Nat.le_add_left_of_le (Nat.le_mul_of_pos_right n (Nat.pow_pos (by decide)))
  · rw [suffixAt_cycling, ← hlength, hnumber]

theorem planning_ends_cycling : cycling.Fair ∧
    Ends "demo" ["demo-cbbbb", "web-1"] 2 cycling ∧
    (∃ d, plan "demo" 3 ["demo-cbbbb", "web-1"] 2 cycling = some (["demo-bbbbb", "demo-dbbbb"], d) ∧
      Found "demo" ["demo-cbbbb", "web-1"] 2 cycling ["demo-bbbbb", "demo-dbbbb"] d) ∧
    (27 ^ 5 < 14348908 + (inUse "demo" []).card ∧ ∀ d, ¬ Ends "demo" [] 14348908 d) := by
  obtain ⟨hends, hfound, -⟩ := planning_ends "demo" ["demo-cbbbb", "web-1"] 2
  have hused : (inUse "demo" ["demo-cbbbb", "web-1"]).card = 1 := by decide +kernel
  have hplan : plan "demo" 3 ["demo-cbbbb", "web-1"] 2 cycling =
      some (["demo-bbbbb", "demo-dbbbb"], cycling.after 3) := by rfl
  refine ⟨cycling_fair, (hends cycling cycling_fair).mpr ?_, ⟨_, hplan, hfound 3 _ _ _ hplan⟩, ?_⟩
  · rw [hused]
    decide
  · have hmany : 27 ^ 5 < 14348908 + (inUse "demo" []).card := by decide
    exact ⟨hmany, (planning_ends "demo" [] 14348908).2.2.1 hmany⟩

end Naming
end NatsFleet
