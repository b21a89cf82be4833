import NatsFleet.Proofs.Classification
import Mathlib.Data.List.Induction
import Mathlib.Data.List.Basic

/-!
A listing that is complete decides which objects are remembered: those that it names, as it names them,
and each other one is told to be gone. Listings may have been begun and given up before.
-/
namespace NatsFleet.Watch

namespace Report

def isLive : Report → Bool
  | .applied _ | .deleted _ => true
  | _ => false

def object? : Report → Option Cluster
  | .listed c => some c
  | _ => none

def track (named : Option (List Cluster)) : Report → Option (List Cluster)
  | .listing => some []
  | .listed c => named.map (· ++ [c])
  | .complete => none
  | .applied _ | .deleted _ => named

end Report

def openListing (history : List Report) : Option (List Cluster) := history.foldl Report.track none

/-- Between the start of a listing and its end nothing but objects of the listing is reported. -/
def Undisturbed (history : List Report) : Prop :=
  ∀ old between after, history = old ++ .listing :: (between ++ .complete :: after) →
    (∀ r ∈ between, r ≠ .listing ∧ r ≠ .complete) → ∀ r ∈ between, r.isLive = false

section Naming

variable {history : List Report} {named : List Cluster}

/-- The open listing is kept by one report after another. -/
theorem openListing_snoc (history : List Report) (r : Report) :
    openListing (history ++ [r]) = r.track (openListing history) := by
  rw [openListing, List.foldl_append]
  rfl

/-- An open listing has a start, after which none was begun and none completed. -/
theorem openListing_some (h : openListing history = some named) :
    ∃ old between, history = old ++ .listing :: between ∧
      (∀ r ∈ between, r ≠ .listing ∧ r ≠ .complete) ∧ between.filterMap Report.object? = named := by
  induction history using List.reverseRecOn generalizing named with
  | nil => cases h
  | append_singleton history r ih =>
    rw [openListing_snoc] at h
    -- A report that leaves the listing open comes after those that are between it and its start.
    have hmore : ∀ {before : List Cluster}, openListing history = some before →
        before ++ [r].filterMap Report.object? = named → r ≠ .listing → r ≠ .complete →
        ∃ old between, history ++ [r] = old ++ .listing :: between ∧
          (∀ r ∈ between, r ≠ .listing ∧ r ≠ .complete) ∧
          between.filterMap Report.object? = named := by
      intro before hbefore hnamed hlisting hcomplete
      obtain ⟨old, between, rfl, hbetween, rfl⟩ := ih hbefore
      refine ⟨old, between ++ [r], by simp, ?_, by rw [List.filterMap_append, hnamed]⟩
      intro r' hr'
      rcases List.mem_append.mp hr' with hr' | hr'
      · exact hbetween r' hr'
      · rw [List.mem_singleton.mp hr']
        exact ⟨hlisting, hcomplete⟩
    cases r with
    | listing => exact ⟨history, [], rfl, fun _ hr => absurd hr List.not_mem_nil, Option.some.inj h⟩
    | listed c =>
      obtain ⟨before, hbefore, hnamed⟩ := Option.map_eq_some_iff.mp h
      exact hmore hbefore hnamed Report.noConfusion Report.noConfusion
    | complete => cases h
    | applied c => exact hmore h (List.append_nil _) Report.noConfusion Report.noConfusion
    | deleted c => exact hmore h (List.append_nil _) Report.noConfusion Report.noConfusion

/-- Without live changes a listing only consists of objects. -/
theorem filterMap_object {between : List Report}
    (hbetween : ∀ r ∈ between, r ≠ .listing ∧ r ≠ .complete)
    (hcalm : ∀ r ∈ between, r.isLive = false) :
    between = (between.filterMap Report.object?).map Report.listed := by
  induction between with
  | nil => rfl
  | cons r between ih =>
    have hrest := ih (fun r' hr' => hbetween r' (List.mem_cons_of_mem _ hr'))
      fun r' hr' => hcalm r' (List.mem_cons_of_mem _ hr')
    cases r with
    | listed c =>
      change Report.listed c :: between = .listed c :: (between.filterMap Report.object?).map .listed
      rw [← hrest]
    | listing => exact absurd rfl (hbetween _ List.mem_cons_self).1
    | complete => exact absurd rfl (hbetween _ List.mem_cons_self).2
    | applied c => cases hcalm _ List.mem_cons_self
    | deleted c => cases hcalm _ List.mem_cons_self

end Naming

namespace Classifier

variable {s : Classifier}

def after (s : Classifier) (reports : List Report) : Classifier :=
  reports.foldl (fun s r => (s.classify r).2) s

def told (s : Classifier) : List Report → List Change
  | [] => []
  | r :: reports => (s.classify r).1 ++ told (s.classify r).2 reports

theorem after_append (s : Classifier) (reports more : List Report) :
    s.after (reports ++ more) = (s.after reports).after more :=
  List.foldl_append

structure Tidy (s : Classifier) : Prop where
  keyed : s.Keyed
  distinct : (s.seen.map (·.1)).Nodup

/-- No report names one cluster twice in what has been seen. -/
theorem classify_distinct (h : (s.seen.map (·.1)).Nodup) (r : Report) :
    ((s.classify r).2.seen.map (·.1)).Nodup := by
  cases r with
  | listing => exact h
  | listed c => exact KeyMap.keys_put_nodup _ _ _ h
  | complete =>
    unfold classify
    dsimp only
    split
    · exact h
    · exact KeyMap.keys_filter_nodup _ _ h
  | applied c => exact KeyMap.keys_put_nodup _ _ _ h
  | deleted c => exact KeyMap.keys_filter_nodup _ _ h

/-- Whatever is reported, the cache names each cluster at most once. -/
theorem after_tidy (reports : List Report) : (after {} reports).Tidy := by
  induction reports using List.reverseRecOn with
  | nil => exact ⟨fun e he => absurd he List.not_mem_nil, List.nodup_nil⟩
  | append_singleton reports r ih =>
    rw [after_append]
    exact ⟨classify_keyed ih.keyed r, classify_distinct ih.distinct r⟩

/-- A listing is noted as open while it is. -/
theorem after_relisted (reports : List Report) :
    (after {} reports).relisted = none ↔ openListing reports = none := by
  induction reports using List.reverseRecOn with
  | nil => exact iff_of_true rfl rfl
  | append_singleton reports r ih =>
    rw [after_append, openListing_snoc]
    cases r with
    | listing => exact iff_of_false (Option.some_ne_none _) (Option.some_ne_none _)
    | listed c =>
      change ((after {} reports).relisted.map _ = none) ↔ _
      rw [Report.track, Option.map_eq_none_iff, Option.map_eq_none_iff, ih]
    | complete =>
      have hclosed : ((after {} reports).classify .complete).2.relisted = none := by
        unfold classify
        dsimp only
        split
        · assumption
        · rfl
      exact iff_of_true hclosed rfl
    | applied c => exact ih
    | deleted c => exact ih

/-- While the objects of a listing come in, the last one of each key is remembered, and the rest is as
it was. -/
theorem after_listed (s : Classifier) (named : List Cluster) :
    let s' := s.after (.listing :: named.map .listed)
    s'.relisted = some (named.map (·.key)).reverse ∧
      ∀ k, s'.seen.find? k = (named.filter (·.key = k)).getLast?.or (s.seen.find? k) := by
  induction named using List.reverseRecOn with
  | nil => exact ⟨rfl, fun k => rfl⟩
  | append_singleton named c ih =>
    obtain ⟨hrelisted, hseen⟩ := ih
    rw [List.map_append, ← List.cons_append, after_append]
    dsimp only
    refine ⟨?_, fun k => ?_⟩
    · change (after s (.listing :: named.map .listed)).relisted.map _ = _
      rw [hrelisted, List.map_append, List.reverse_append]
      rfl
    · change ((after s (.listing :: named.map .listed)).seen.put c.key c).find? k = _
      rw [KeyMap.find?_put, hseen]
      by_cases hk : c.key = k
      · simp [hk]
      · simp [hk]

/-- Of each key that a listing lacks, the object that was remembered is gone, once. -/
theorem gone_filter (hs : s.Tidy) (relisted : List ClusterKey) (k : ClusterKey) :
    (s.gone relisted).filter (fun c => c.key = k) =
      (if k ∈ relisted then none else s.seen.find? k).toList := by
  have hsort : (s.gone relisted).Perm ((s.seen.filter fun e => e.1 ∉ relisted).map (·.2)) :=
    (List.mergeSort_perm _ _).map _
  have hgone : ((s.seen.filter fun e => e.1 ∉ relisted).map (·.2)).filter (fun c => c.key = k) =
      (if k ∈ relisted then none else s.seen.find? k).toList := by
    have hfind := KeyMap.find?_filter s.seen k fun k' => decide (k' ∉ relisted)
    have hkeys := KeyMap.filter_key (s.seen.filter fun e => e.1 ∉ relisted) k
      (KeyMap.keys_filter_nodup _ _ hs.distinct)
    rw [List.filter_map]
    have hsame : (s.seen.filter fun e => e.1 ∉ relisted).filter
        ((fun c : Cluster => decide (c.key = k)) ∘ fun e => e.2) =
        (s.seen.filter fun e => e.1 ∉ relisted).filter fun e => e.1 = k := by
      refine List.filter_congr fun e he => ?_
      rw [Function.comp_apply, hs.keyed e (List.mem_of_mem_filter he)]
    rw [hsame, hkeys, hfind]
    by_cases hk : k ∈ relisted
    · simp [hk]
    · cases hold : s.seen.find? k <;> simp [hk]
  have hperm := hsort.filter fun c => c.key = k
  rw [hgone] at hperm
  cases hold : (if k ∈ relisted then none else s.seen.find? k) with
  | none =>
    rw [hold] at hperm
    exact List.perm_nil.mp hperm
  | some c =>
    rw [hold] at hperm
    exact List.perm_singleton.mp hperm

/-- Only a report that comes as it happens and the end of a listing tell of deletions. -/
theorem told_not_deleted {reports : List Report}
    (h : ∀ r ∈ reports, r.isLive = false ∧ r ≠ .complete) (c : Cluster) :
    .deleted c ∉ s.told reports := by
  induction reports generalizing s with
  | nil => exact List.not_mem_nil
  | cons r reports ih =>
    have hrest := ih (s := (s.classify r).2) fun r' hr' => h r' (List.mem_cons_of_mem _ hr')
    obtain ⟨hcalm, hopen⟩ := h r List.mem_cons_self
    rw [told, List.mem_append, not_or]
    refine ⟨?_, hrest⟩
    cases r with
    | listing => exact List.not_mem_nil
    | listed c' =>
      simp only [classify, apply]
      split
      · simp
      · split_ifs <;> simp
    | complete => exact absurd rfl hopen
    | applied c' => cases hcalm
    | deleted c' => cases hcalm

end Classifier

namespace Undisturbed

variable {history before rest : List Report} {named : List Cluster}

/-- What is reported of a listing that comes to its end. -/
theorem listed (h : Undisturbed history) (hsplit : history = before ++ .complete :: rest)
    (hopen : openListing before = some named) :
    ∃ old, before = old ++ .listing :: named.map .listed := by
  obtain ⟨old, between, rfl, hbetween, rfl⟩ := openListing_some hopen
  have hcalm := h old between rest (by rw [hsplit, List.append_assoc, List.cons_append]) hbetween
  exact ⟨old, by rw [← filterMap_object hbetween hcalm]⟩

/-- At the end of a listing the cache has the last object listed under each key, and what was not listed is
deleted. -/
theorem completed (h : Undisturbed history) (hsplit : history = before ++ .complete :: rest)
    (hopen : openListing before = some named) :
    let s := Classifier.after {} before
    (∀ k, (s.classify .complete).2.seen.find? k = (named.filter (·.key = k)).getLast?) ∧
      ∀ k, (s.classify .complete).1.filter (·.key = k) =
        ((if k ∈ named.map (·.key) then none else s.seen.find? k).map Change.deleted).toList := by
  intro s
  obtain ⟨old, hbefore⟩ := h.listed hsplit hopen
  have htidy : s.Tidy := Classifier.after_tidy before
  obtain ⟨hrelisted, hseen⟩ := Classifier.after_listed (Classifier.after {} old) named
  rw [← Classifier.after_append, ← hbefore] at hrelisted hseen
  have hcomplete : s.classify .complete =
      ((s.gone (named.map (·.key)).reverse).map .deleted,
        { seen := s.seen.filter fun e => e.1 ∈ (named.map (·.key)).reverse, relisted := none }) := by
    unfold Classifier.classify
    rw [show s.relisted = _ from hrelisted]
  refine ⟨fun k => ?_, fun k => ?_⟩
  · have hfind := KeyMap.find?_filter s.seen k fun k' => decide (k' ∈ (named.map (·.key)).reverse)
    rw [hcomplete]
    refine hfind.trans ?_
    rw [hseen]
    by_cases hk : k ∈ named.map (·.key)
    · -- The listing names the key, so its last object took the place of the one before.
      obtain ⟨c, hc, rfl⟩ := List.mem_map.mp hk
      have hne : named.filter (·.key = c.key) ≠ [] :=
        List.ne_nil_of_mem (List.mem_filter.mpr ⟨hc, decide_eq_true rfl⟩)
      simp only [List.mem_reverse, hk, decide_true, if_true, List.getLast?_eq_some_getLast hne,
        Option.some_or]
    · have hnil : named.filter (·.key = k) = [] :=
        List.filter_eq_nil_iff.mpr fun c hc heq =>
          hk (List.mem_map.mpr ⟨c, hc, of_decide_eq_true heq⟩)
      simp [hk, hnil]
  · have hgone := Classifier.gone_filter htidy (named.map (·.key)).reverse k
    rw [hcomplete]
    simp only [List.mem_reverse] at hgone
    calc ((s.gone (named.map (·.key)).reverse).map Change.deleted).filter (·.key = k)
        = ((s.gone (named.map (·.key)).reverse).filter (·.key = k)).map Change.deleted := by
          rw [List.filter_map]
          rfl
      _ = (if k ∈ named.map (·.key) then none else s.seen.find? k).toList.map .deleted := by
          rw [hgone]
      _ = _ := by
          cases (if k ∈ named.map (·.key) then none else s.seen.find? k) <;> rfl

end Undisturbed

/-- Wherever a listing comes to its end, the objects that it named are remembered, each as it was named
last, and nothing else is; of each other object that was remembered one deletion is told. Where no
listing is open, its end says nothing. And from the start of a listing to its end no deletion is told,
nor from one that was given up for it, if nothing came in between. -/
theorem relisting_exact {history : List Report} (h : Undisturbed history) :
    (∀ before rest, history = before ++ .complete :: rest →
      let s := Classifier.after {} before
      match openListing before with
      | none => s.classify .complete = ([], s)
      | some named =>
        (∀ k, (s.classify .complete).2.seen.find? k = (named.filter (·.key = k)).getLast?) ∧
          ∀ k, (s.classify .complete).1.filter (·.key = k) =
            ((if k ∈ named.map (·.key) then none else s.seen.find? k).map Change.deleted).toList) ∧
    ∀ old between rest, history = old ++ .listing :: (between ++ .complete :: rest) →
      .complete ∉ between → (.listing ∈ between → ∀ r ∈ between, r.isLive = false) →
      ∀ c, .deleted c ∉ (Classifier.after {} old).told (.listing :: between) := by
  refine ⟨fun before rest hsplit => ?_, fun old between rest hsplit hopen hagain c => ?_⟩
  · intro s
    cases hnamed : openListing before with
    | none =>
      have hrelisted : s.relisted = none := (Classifier.after_relisted before).mpr hnamed
      show s.classify .complete = ([], s)
      unfold Classifier.classify
      rw [hrelisted]
    | some named => exact h.completed hsplit hnamed
  · have hcomplete : ∀ r ∈ between, r ≠ .complete := fun r hr heq => hopen (heq ▸ hr)
    have hcalm : ∀ r ∈ between, r.isLive = false := by
      by_cases hlisting : .listing ∈ between
      · exact hagain hlisting
      · exact h old between rest hsplit fun r hr => ⟨fun heq => hlisting (heq ▸ hr), hcomplete r hr⟩
    refine Classifier.told_not_deleted (fun r hr => ?_) c
    rcases List.mem_cons.mp hr with rfl | hr
    · exact ⟨rfl, Report.noConfusion⟩
    · exact ⟨hcalm r hr, hcomplete r hr⟩

/-- Objects that come as they happen leave the listings after them undisturbed. -/
theorem undisturbed_append {early late : List Report} (hearly : ∀ r ∈ early, r ≠ .listing)
    (hlate : ∀ r ∈ late, r.isLive = false) : Undisturbed (early ++ late) := by
  intro old between rest hsplit _ r hr
  apply hlate
  rcases List.append_eq_append_iff.mp hsplit with ⟨more, -, hmore⟩ | ⟨more, hmore, hrest⟩
  · simp [hmore, hr]
  · cases more with
    | nil =>
      have heq : late = .listing :: (between ++ .complete :: rest) := hrest.symm
      simp [heq, hr]
    | cons r' more =>
      -- The start of the listing would be among the early reports.
      obtain ⟨rfl, -⟩ := List.cons.inj hrest
      exact absurd rfl (hearly .listing (by simp [hmore]))

def restarted : List Report :=
  [.applied (sighted "a" 1), .applied (sighted "b" 1)] ++
    [.listing, .listed (sighted "c" 1), .listing, .listed (sighted "a" 2), .complete]

theorem restarted_undisturbed : Undisturbed restarted := by
  refine undisturbed_append (fun r hr => ?_) (by decide)
  rcases List.mem_cons.mp hr with rfl | hr
  · exact Report.noConfusion
  · rw [List.mem_singleton.mp hr]
    exact Report.noConfusion

theorem relisting_exact_restarted :
    let s := Classifier.after {} restarted.dropLast
    (s.classify .complete).2.seen.find? ⟨"default", "a"⟩ = some (sighted "a" 2) ∧
      (s.classify .complete).2.seen.find? ⟨"default", "c"⟩ = none ∧
      (s.classify .complete).1.filter (·.key = ⟨"default", "a"⟩) = [] ∧
      (s.classify .complete).1.filter (·.key = ⟨"default", "b"⟩) = [.deleted (sighted "b" 1)] ∧
      (s.classify .complete).1.filter (·.key = ⟨"default", "c"⟩) = [.deleted (sighted "c" 1)] := by
  have hexact := (relisting_exact restarted_undisturbed).1 restarted.dropLast [] rfl
  have hopen : openListing restarted.dropLast = some [sighted "a" 2] := rfl
  simp only [hopen] at hexact
  obtain ⟨hseen, hgone⟩ := hexact
  exact ⟨hseen _, hseen _, hgone _, hgone _, hgone _⟩

end NatsFleet.Watch
