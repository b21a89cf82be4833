import NatsFleet.Cluster.Condition
import Mathlib.Data.List.Induction
import Mathlib.Data.List.Nodup

/-!
A list of conditions after any number of observations have been put into it: each type keeps its place,
new ones come at the end, and the condition of a type tells what was observed last and since when its
status has been the same.
-/
namespace NatsFleet.Condition

def types (cs : List Condition) : List String := cs.map (·.type)

def ofType? (t : String) (cs : List Condition) : Option Condition := cs.find? fun c => c.type = t

def setAll (initial calls : List Condition) : List Condition :=
  calls.foldl (fun cs new => set new cs) initial

/-- What becomes of an observation once there is a new one of its type. -/
def renewed (old new : Condition) : Condition :=
  if old.status ≠ new.status then new
  else { old with reason := new.reason, message := new.message }

/-- What has been observed of a type: the condition that was there, if any, and the calls for it. -/
def history (t : String) (initial calls : List Condition) : List Condition :=
  (ofType? t initial).toList ++ calls.filter fun c : Condition => c.type = t

def Began (observed : List Condition) (c : Condition) : Prop :=
  ∃ front run, observed = front ++ c :: run ∧ (∀ x ∈ run, x.status = c.status) ∧
    ∀ x ∈ front.getLast?, x.status ≠ c.status

/-- A condition sums up a history: it tells what was observed last, and since when the status has been
the same. -/
structure SumsUp (observed : List Condition) (e : Condition) : Prop where
  since : ∃ c, Began observed c ∧ e.status = c.status ∧ e.lastTransitionTime = c.lastTransitionTime
  last : ∃ c, observed.getLast? = some c ∧ e.reason = c.reason ∧ e.message = c.message

/-- What becomes of a list when observations are put into it. -/
structure Kept (initial calls result : List Condition) : Prop where
  distinct : (types result).Nodup
  order : types result =
    types initial ++ ((types calls).filter fun t => t ∉ types initial).eraseDups
  untouched : ∀ (i : Nat) (c : Condition), initial[i]? = some c → c.type ∉ types calls → result[i]? = some c
  observed : ∀ t ∈ types calls, ∃ e ∈ result, e.type = t ∧ SumsUp (history t initial calls) e

/-! ### One observation -/

theorem set_cons_of_eq {c new : Condition} (rest : List Condition) (h : c.type = new.type) :
    new.set (c :: rest) = c.renewed new :: rest := by
  rw [set, if_pos h]
  rfl

theorem set_cons_of_ne {c new : Condition} (rest : List Condition) (h : c.type ≠ new.type) :
    new.set (c :: rest) = c :: new.set rest := by
  rw [set, if_neg h]

theorem renewed_type {old new : Condition} (h : old.type = new.type) :
    (old.renewed new).type = new.type := by
  unfold renewed
  split
  · rfl
  · exact h

/-- An observation takes the place of the one of its type, or comes last. -/
theorem types_set (new : Condition) (cs : List Condition) :
    types (set new cs) =
      if new.type ∈ types cs then types cs else types cs ++ [new.type] := by
  induction cs with
  | nil => rfl
  | cons c rest ih =>
    unfold types at ih ⊢
    by_cases hc : c.type = new.type
    · rw [set_cons_of_eq rest hc, List.map_cons, List.map_cons, renewed_type hc, hc,
        if_pos List.mem_cons_self]
    · rw [set_cons_of_ne rest hc, List.map_cons, List.map_cons, ih]
      simp only [List.mem_cons, Ne.symm hc, false_or]
      split_ifs
      · rfl
      · exact (List.cons_append ..).symm

/-- Only what is listed for its own type is changed by an observation. -/
theorem ofType?_set (t : String) (new : Condition) (cs : List Condition) :
    ofType? t (set new cs) =
      if new.type = t then some ((ofType? t cs).elim new fun c => c.renewed new)
      else ofType? t cs := by
  unfold ofType?
  induction cs with
  | nil => simp [set]
  | cons c rest ih =>
    by_cases hc : c.type = new.type
    · rw [set_cons_of_eq rest hc, List.find?_cons, List.find?_cons, renewed_type hc, hc]
      by_cases ht : new.type = t
      · simp [ht]
      · simp [ht]
    · rw [set_cons_of_ne rest hc, List.find?_cons, List.find?_cons, ih]
      by_cases ht : c.type = t
      · have hnew : new.type ≠ t := fun h => hc (ht.trans h.symm)
        simp [ht, hnew]
      · simp [ht]

/-- Other observations stay as they are, and where they are. -/
theorem getElem?_set {new c : Condition} {cs : List Condition} {i : Nat} (hc : cs[i]? = some c)
    (htype : c.type ≠ new.type) : (set new cs)[i]? = some c := by
  induction cs generalizing i with
  | nil => cases hc
  | cons head rest ih =>
    by_cases hhead : head.type = new.type
    · rw [set_cons_of_eq rest hhead]
      cases i with
      | zero =>
        rw [List.getElem?_cons_zero, Option.some.injEq] at hc
        exact absurd (hc ▸ hhead) htype
      | succ i => exact hc
    · rw [set_cons_of_ne rest hhead]
      cases i with
      | zero => exact hc
      | succ i => exact ih hc

/-! ### What a condition sums up -/

theorem SumsUp.first (c : Condition) : SumsUp [c] c where
  since := ⟨c, ⟨[], [], rfl, by simp, by simp⟩, rfl, rfl⟩
  last := ⟨c, rfl, rfl, rfl⟩

/-- One more observation is summed up by renewing the sum. -/
theorem SumsUp.renewed {observed : List Condition} {e : Condition} (h : SumsUp observed e)
    (new : Condition) : SumsUp (observed ++ [new]) (e.renewed new) := by
  obtain ⟨c, ⟨front, run, hobserved, hrun, hfront⟩, hstatus, htime⟩ := h.since
  have hlast : (observed ++ [new]).getLast? = some new := List.getLast?_concat
  unfold Condition.renewed
  split_ifs with hchanged
  · -- The new observation is the only one of its status at the end.
    refine ⟨⟨new, ⟨observed, [], rfl, by simp, ?_⟩, rfl, rfl⟩, ⟨new, hlast, rfl, rfl⟩⟩
    intro x hx
    have hxc : x.status = c.status := by
      rw [hobserved, List.getLast?_append, List.getLast?_cons, Option.some_or, ← List.getLast?_cons]
        at hx
      rcases List.mem_cons.mp (List.mem_of_getLast? hx) with rfl | hx
      · rfl
      · exact hrun x hx
    rw [hxc, ← hstatus]
    exact hchanged
  · rw [not_not] at hchanged
    refine ⟨⟨c, ⟨front, run ++ [new], ?_, ?_, hfront⟩, hstatus, htime⟩, ⟨new, hlast, rfl, rfl⟩⟩
    · rw [hobserved, List.append_assoc, List.cons_append]
    · intro x hx
      rcases List.mem_append.mp hx with hx | hx
      · exact hrun x hx
      · rw [List.mem_singleton.mp hx, ← hchanged, hstatus]

/-! ### Any number of observations -/

theorem setAll_concat (initial calls : List Condition) (new : Condition) :
    setAll initial (calls ++ [new]) = set new (setAll initial calls) := by
  rw [setAll, List.foldl_append]
  rfl

theorem nodup_set {cs : List Condition} (h : (types cs).Nodup) (new : Condition) :
    (types (set new cs)).Nodup := by
  rw [types_set]
  split_ifs with hmem
  · exact h
  · rw [← List.concat_eq_append]
    exact h.concat hmem

/-- No type is listed twice, however much is observed. -/
theorem nodup_setAll {initial : List Condition} (h : (types initial).Nodup) (calls : List Condition) :
    (types (setAll initial calls)).Nodup := by
  induction calls using List.reverseRecOn with
  | nil => exact h
  | append_singleton calls new ih =>
    rw [setAll_concat]
    exact nodup_set ih new

/-- Types that are new are appended in the order in which they were first observed. -/
theorem order_setAll (initial calls : List Condition) :
    types (setAll initial calls) =
      types initial ++ ((types calls).filter fun t => t ∉ types initial).eraseDups := by
  induction calls using List.reverseRecOn with
  | nil => simp [setAll, types]
  | append_singleton calls new ih =>
    have hcalls : types (calls ++ [new]) = types calls ++ [new.type] := List.map_append
    rw [setAll_concat, types_set, ih, hcalls, List.filter_append, List.eraseDups_append]
    by_cases hinitial : new.type ∈ types initial
    · simp [hinitial]
    · by_cases hcalled : new.type ∈ types calls
      · simp [hinitial, hcalled, List.removeAll]
      · simp [hinitial, hcalled, List.removeAll, List.eraseDups_cons]

/-- What nobody observes any more stays as it was. -/
theorem untouched_setAll {initial calls : List Condition} {i : Nat} {c : Condition}
    (hc : initial[i]? = some c) (htype : c.type ∉ types calls) :
    (setAll initial calls)[i]? = some c := by
  induction calls using List.reverseRecOn with
  | nil => exact hc
  | append_singleton calls new ih =>
    simp only [types, List.map_append, List.map_singleton, List.mem_append, List.mem_singleton,
      not_or] at htype
    rw [setAll_concat]
    exact getElem?_set (ih htype.1) htype.2

/-- The condition of a type sums up all that has been observed of it. -/
theorem sumsUp_setAll (t : String) (initial calls : List Condition) :
    (ofType? t (setAll initial calls) = none ∧ history t initial calls = []) ∨
      ∃ e, ofType? t (setAll initial calls) = some e ∧ SumsUp (history t initial calls) e := by
  induction calls using List.reverseRecOn with
  | nil =>
    cases hfound : ofType? t initial with
    | none => exact .inl ⟨hfound, by simp [history, hfound]⟩
    | some c =>
      refine .inr ⟨c, hfound, ?_⟩
      simpa [history, hfound] using SumsUp.first c
  | append_singleton calls new ih =>
    rw [setAll_concat, ofType?_set]
    by_cases ht : new.type = t
    · have hhistory : history t initial (calls ++ [new]) = history t initial calls ++ [new] := by
        simp [history, ht]
      refine .inr ?_
      rw [if_pos ht, hhistory]
      rcases ih with ⟨hnone, hempty⟩ | ⟨e, he, hsums⟩
      · rw [hnone, hempty]
        exact ⟨new, rfl, SumsUp.first new⟩
      · rw [he]
        exact ⟨e.renewed new, rfl, hsums.renewed new⟩
    · have hhistory : history t initial (calls ++ [new]) = history t initial calls := by
        simp [history, ht]
      rwa [if_neg ht, hhistory]

theorem find?_of_mem_types {t : String} {cs : List Condition} (h : t ∈ types cs) :
    ∃ e ∈ cs, ofType? t cs = some e ∧ e.type = t := by
  obtain ⟨c, hc, htype⟩ := List.mem_map.mp h
  cases hfound : cs.find? fun c => c.type = t with
  | none => exact absurd (decide_eq_true htype) (List.find?_eq_none.mp hfound c hc)
  | some e =>
    exact ⟨e, List.mem_of_find?_eq_some hfound, hfound, by simpa using List.find?_some hfound⟩

/-- Whatever is put into a list of conditions with distinct types: the types stay distinct, those that
were there keep their places, and new ones come at the end in the order in which they were first
observed; what is not observed stays as it is; and the condition of an observed type tells the last reason
and message, and the status with the time since when it has been the same. -/
theorem observations_kept (initial calls : List Condition) (hdistinct : (types initial).Nodup) :
    Kept initial calls (setAll initial calls) where
  distinct := nodup_setAll hdistinct calls
  order := order_setAll initial calls
  untouched _ _ hc htype := untouched_setAll hc htype
  observed t ht := by
    have hplaced : t ∈ types (setAll initial calls) := by
      rw [order_setAll, List.mem_append, List.mem_eraseDups, List.mem_filter, decide_eq_true_eq]
      exact (em (t ∈ types initial)).imp_right fun hnew => ⟨ht, hnew⟩
    obtain ⟨e, hmem, hfound, htype⟩ := find?_of_mem_types hplaced
    rcases sumsUp_setAll t initial calls with ⟨hnone, -⟩ | ⟨e', he', hsums⟩
    · rw [hnone] at hfound
      cases hfound
    · rw [hfound, Option.some.injEq] at he'
      exact ⟨e, hmem, htype, he' ▸ hsums⟩

def starting : List Condition :=
  [⟨"Ready", statusFalse, some "1", some "ServersNotReady", some "0/3 servers ready"⟩,
    ⟨"Extra", "Unknown", none, none, none⟩]

def settling : List Condition :=
  [⟨"Ready", statusTrue, some "2", some "AllReady", some "3/3 servers ready"⟩,
    ⟨"Progressing", statusFalse, some "3", some "UpToDate", none⟩,
    ⟨"Ready", statusTrue, some "4", some "StillReady", some "3/3 servers are ready"⟩]

/-- The moment is that of the change to the present status, and the reason and the message are the latest.
-/
theorem observations_kept_settling : (types starting).Nodup ∧
    Kept starting settling (setAll starting settling) ∧
      setAll starting settling =
        [⟨"Ready", statusTrue, some "2", some "StillReady", some "3/3 servers are ready"⟩,
          ⟨"Extra", "Unknown", none, none, none⟩,
          ⟨"Progressing", statusFalse, some "3", some "UpToDate", none⟩] := by
  have hdistinct : (types starting).Nodup := by decide
  exact ⟨hdistinct, observations_kept starting settling hdistinct, by decide⟩

end NatsFleet.Condition
