import NatsFleet.Platform
import Mathlib.Data.List.Basic

/-!
Selectors and labels: the selector of a cluster picks exactly the pods that carry its labels, and
every pod that is built for a cluster carries them.
-/
namespace NatsFleet.Platform

/-- Without a comma a selector is one term. -/
theorem terms_eq_singleton {cs : List Char} (h : ',' ∉ cs) : terms cs = [cs] := by
  induction cs with
  | nil => rfl
  | cons c rest ih =>
    rw [List.mem_cons, not_or] at h
    simp only [terms, ih h.2, if_neg (Ne.symm h.1)]

theorem terms_append_comma {cs : List Char} (h : ',' ∉ cs) (rest : List Char) :
    terms (cs ++ ',' :: rest) = cs :: terms rest := by
  induction cs with
  | nil =>
    -- The comma opens a new term, and there is always one to put it before.
    have hne : terms rest ≠ [] := by
      cases rest with
      | nil => simp [terms]
      | cons c more =>
        simp only [terms]
        split
        · simp
        · split <;> simp
    obtain ⟨t, more, ht⟩ := List.exists_cons_of_ne_nil hne
    simp [terms, ht]
  | cons c cs ih =>
    rw [List.mem_cons, not_or] at h
    simp only [List.cons_append, terms, ih h.2, if_neg (Ne.symm h.1)]

/-- A term is split at its first equality sign. -/
theorem splitTerm_append {cs : List Char} (h : '=' ∉ cs) (rest : List Char) :
    splitTerm (cs ++ '=' :: rest) = some (cs, rest) := by
  induction cs with
  | nil => simp [splitTerm]
  | cons c cs ih =>
    rw [List.mem_cons, not_or] at h
    simp [splitTerm, ih h.2, Ne.symm h.1]

theorem labelSelector_toList (cluster : String) :
    (Manifest.labelSelector cluster).toList =
      "app=nats".toList ++ ',' :: ("nats_cluster".toList ++ '=' :: cluster.toList) := by
  simp only [Manifest.labelSelector, Manifest.selectorText, Manifest.podSelector,
    String.toList_intercalate, List.intercalate, Layout.appLabel, Layout.appValue,
    Layout.clusterLabel]
  simp

def carries (cluster : String) (pod : Pod) : Bool :=
  (Manifest.podSelector cluster).all fun l => pod.metadata.label? l.1 == some l.2

/-- For a name without a comma the selector selects the pods that carry it. -/
theorem selects_labelSelector (cluster : String) (h : ',' ∉ cluster.toList) (pod : Pod) :
    selects (Manifest.labelSelector cluster) pod = carries cluster pod := by
  have happ : splitTerm "app=nats".toList = some ("app".toList, "nats".toList) := rfl
  -- Without a comma in the name of the cluster, the selector has just two terms.
  have hterms : terms (Manifest.labelSelector cluster).toList =
      ["app=nats".toList, "nats_cluster".toList ++ '=' :: cluster.toList] := by
    rw [labelSelector_toList, terms_append_comma (by decide), terms_eq_singleton]
    simp only [List.mem_append, List.mem_cons, not_or]
    exact ⟨by decide, by decide, h⟩
  simp only [selects, hterms, List.all_cons, List.all_nil, happ,
    splitTerm_append (show '=' ∉ "nats_cluster".toList by decide), String.ofList_toList,
    carries, Manifest.podSelector, Layout.appLabel, Layout.appValue, Layout.clusterLabel]

theorem lookup_cons_ite {α : Type} (name other : String) (a : α) (rest : List (String × α)) :
    List.lookup other ((name, a) :: rest) =
      if other = name then some a else rest.lookup other := by
  by_cases h : other = name
  · simp [h]
  · have hb : (other == name) = false := beq_false_of_ne h
    simp only [List.lookup_cons, hb, if_neg h]

/-- A label that is put hides what was there under its name. -/
theorem lookup_put (labels : Labels) (name value other : String) :
    (labels.put name value).lookup other =
      if other = name then some value else labels.lookup other := by
  induction labels with
  | nil => exact lookup_cons_ite name other value []
  | cons label rest ih =>
    obtain ⟨n, b⟩ := label
    simp only [Labels.put, Json.Decoder.putEntry] at ih ⊢
    -- The labels are kept in order: the new one goes before, in place of or after the first.
    by_cases hlt : name < n
    · simp only [if_pos hlt, lookup_cons_ite]
    · rw [if_neg hlt]
      by_cases heq : name = n
      · subst heq
        rw [if_pos rfl, lookup_cons_ite, lookup_cons_ite]
        split_ifs <;> rfl
      · simp only [if_neg heq, lookup_cons_ite, ih]
        split_ifs with h h' <;> first | rfl | exact absurd (h'.symm.trans h) heq

/-- The labels of a pod that is built for a cluster: those of the selector, and two on top of them. -/
theorem label?_pod (id : Identity) (spec : ClusterSpec) (name other : String) :
    (Manifest.pod id spec name).metadata.label? other =
      if other = Layout.revisionLabel then some (Revision.ofSpec spec)
      else if other = Layout.versionLabel then some spec.version
      else (Manifest.podSelector id.name).lookup other := by
  simp only [Manifest.pod, Manifest.metadata, ObjectMeta.label?, Option.getD_some,
    Manifest.podLabels, Manifest.commonLabels, lookup_put]

/-- Every pod that is built carries the name of its cluster. -/
theorem carries_pod (id : Identity) (spec : ClusterSpec) (name : String) :
    carries id.name (Manifest.pod id spec name) = true := by
  simp [carries, label?_pod, Manifest.podSelector, Layout.appLabel, Layout.clusterLabel,
    Layout.revisionLabel, Layout.versionLabel, List.lookup_cons]

end NatsFleet.Platform
