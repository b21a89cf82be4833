import NatsFleet.Proofs.Keys
import NatsFleet.Registry
import Mathlib.Data.List.Nodup
import Mathlib.Logic.Function.Basic

/-!
The controllers of a registry after any sequence of operations: each one is stored under its own key and
once only, and while it is not stopping it holds that key until it is taken out.
-/
namespace NatsFleet.Registry

inductive Operation where
  | insert (controller : Nat)
  | get (k : ClusterKey)
  | remove (k : ClusterKey)
  | removeController (controller : Nat)
  | stop (controller : Nat)
  deriving DecidableEq

/-- A registry in use, and which controllers are stopping. -/
structure Usage where
  registry : Registry := {}
  stopping : Nat → Bool

variable (key : Nat → ClusterKey)

def Usage.perform (u : Usage) : Operation → Usage
  | .insert n =>
    match u.registry.insert u.stopping (key n) n with
    | .ok registry => { u with registry := registry }
    | .error _ => u
  | .get _ => u
  | .remove k => { u with registry := (u.registry.remove k).2 }
  | .removeController n => { u with registry := (u.registry.removeController (key n) n).2 }
  | .stop n => { u with stopping := Function.update u.stopping n true }

def Usage.performAll (u : Usage) (ops : List Operation) : Usage := ops.foldl (Usage.perform key) u

/-- The entries have different keys, and each controller is stored under its own. -/
structure Usage.Orderly (u : Usage) : Prop where
  distinct : (u.registry.entries.map (·.1)).Nodup
  own : ∀ e ∈ u.registry.entries, key e.2 = e.1

structure Usage.Sound (u : Usage) : Prop where
  own : ∀ k n, u.registry.find? k = some n → key n = k
  listed : ∀ n, n ∈ u.registry.snapshot ↔ u.registry.find? (key n) = some n
  once : u.registry.snapshot.Nodup
  -- Only a controller that is not stopping keeps another one out.
  refused_iff : ∀ n, (∃ e, u.registry.insert u.stopping (key n) n = .error e) ↔
    ∃ m, u.registry.find? (key n) = some m ∧ u.stopping m = false
  refused : ∀ n e, u.registry.insert u.stopping (key n) n = .error e →
    e = .duplicateRegistration (key n).text ∧ u.perform key (.insert n) = u
  accepted : ∀ n registry, u.registry.insert u.stopping (key n) n = .ok registry →
    ∀ k, registry.find? k = if key n = k then some n else u.registry.find? k
  stays : ∀ n ops, u.registry.find? (key n) = some n → .remove (key n) ∉ ops →
    .removeController n ∉ ops → (u.performAll key ops).stopping n = false →
      (u.performAll key ops).registry.find? (key n) = some n
  -- What is stored under a key that is removed is given back, and the other keys keep theirs.
  removed : ∀ k, (u.registry.remove k).1 = u.registry.find? k ∧
    ∀ other, (u.perform key (.remove k)).registry.find? other =
      if k = other then none else u.registry.find? other
  -- A controller is taken out only if it is the one stored under its key.
  takenOut : ∀ n, u.registry.find? (key n) = some n →
    (u.registry.removeController (key n) n).1 = true ∧
      n ∉ (u.perform key (.removeController n)).registry.snapshot ∧
      ∀ other, (u.perform key (.removeController n)).registry.find? other =
        if key n = other then none else u.registry.find? other
  others : ∀ n, u.registry.find? (key n) ≠ some n →
    u.registry.removeController (key n) n = (false, u.registry) ∧
      u.perform key (.removeController n) = u

variable {key} {u : Usage}

/-! ### One operation -/

/-- A controller is kept out by one that is not stopping, and only by such a one. -/
theorem insert_cases (r : Registry) (stopping : Nat → Bool) (k : ClusterKey) (n : Nat) :
    (∃ m, r.find? k = some m ∧ stopping m = false ∧
        r.insert stopping k n = .error (.duplicateRegistration k.text)) ∨
      (∀ m, r.find? k = some m → stopping m = true) ∧
        r.insert stopping k n = .ok ⟨r.entries.put k n⟩ := by
  unfold insert holds
  cases hfind : r.find? k with
  | none => exact .inr ⟨by rintro m ⟨⟩, rfl⟩
  | some m =>
    cases hm : stopping m with
    | false => exact .inl ⟨m, rfl, hm, by simp [hm]⟩
    | true =>
      refine .inr ⟨?_, by simp [hm]⟩
      rintro m' ⟨⟩
      exact hm

inductive Usage.Effect (key : Nat → ClusterKey) (u : Usage) (op : Operation) : Usage → Prop
  | nothing : Effect key u op u
  | stored (n : Nat) (hop : op = .insert n)
      (hfree : ∀ m, u.registry.find? (key n) = some m → u.stopping m = true) :
      Effect key u op { u with registry := ⟨u.registry.entries.put (key n) n⟩ }
  -- The key is removed, or the controller that is stored under it.
  | erased (k : ClusterKey) (hop : op = .remove k ∨
      ∃ n, op = .removeController n ∧ u.registry.find? k = some n) :
      Effect key u op { u with registry := ⟨u.registry.entries.erase k⟩ }
  | stopped (n : Nat) (hop : op = .stop n) :
      Effect key u op { u with stopping := Function.update u.stopping n true }

theorem Usage.perform_insert_of_error {n : Nat} {e : Failure}
    (h : u.registry.insert u.stopping (key n) n = .error e) : u.perform key (.insert n) = u := by
  simp only [Usage.perform, h]

theorem Usage.perform_insert_of_ok {n : Nat} {registry : Registry}
    (h : u.registry.insert u.stopping (key n) n = .ok registry) :
    u.perform key (.insert n) = { u with registry := registry } := by
  simp only [Usage.perform, h]

variable (key) in
/-- Whatever is done with a registry has one of a few effects. -/
theorem Usage.effect (u : Usage) (op : Operation) : u.Effect key op (u.perform key op) := by
  cases op with
  | insert n =>
    rcases insert_cases u.registry u.stopping (key n) n with ⟨m, -, -, hresult⟩ | ⟨hfree, hresult⟩
    · rw [perform_insert_of_error hresult]
      exact .nothing
    · rw [perform_insert_of_ok hresult]
      exact .stored n rfl hfree
  | get k => exact .nothing
  | remove k => exact .erased k (.inl rfl)
  | removeController n =>
    have hperform : u.perform key (.removeController n) =
      { u with registry := (u.registry.removeController (key n) n).2 } := rfl
    rw [hperform, removeController]
    split_ifs with hstored
    · exact .erased (key n) (.inr ⟨n, rfl, hstored⟩)
    · exact .nothing
  | stop n => exact .stopped n rfl

/-- No operation brings disorder. -/
theorem Usage.Orderly.perform (h : u.Orderly key) (op : Operation) : (u.perform key op).Orderly key := by
  have heffect := u.effect key op
  generalize u.perform key op = next at heffect ⊢
  cases heffect with
  | nothing => exact h
  | stored n =>
    refine ⟨KeyMap.keys_put_nodup _ _ _ h.distinct, ?_⟩
    rintro ⟨k, m⟩ hmem
    rcases KeyMap.mem_put _ _ _ hmem with heq | hmem
    · obtain ⟨rfl, rfl⟩ := Prod.mk.inj heq
      rfl
    · exact h.own _ hmem
  | erased k =>
    exact ⟨KeyMap.keys_filter_nodup _ _ h.distinct, fun e he => h.own e (List.mem_of_mem_filter he)⟩
  | stopped n => exact ⟨h.distinct, h.own⟩

/-- A controller that is stopping never works again. -/
theorem Usage.stopping_of_perform {op : Operation} {n : Nat}
    (h : (u.perform key op).stopping n = false) : u.stopping n = false := by
  have heffect := u.effect key op
  generalize u.perform key op = next at heffect h
  cases heffect with
  | nothing => exact h
  | stored m => exact h
  | erased k => exact h
  | stopped m =>
    dsimp only at h
    rw [Function.update_apply] at h
    split_ifs at h
    exact h

/-- A controller that is not stopping is taken out on purpose only. -/
theorem Usage.find?_perform {op : Operation} {n : Nat} (hfind : u.registry.find? (key n) = some n)
    (hstopping : u.stopping n = false) (hremove : op ≠ .remove (key n))
    (hcontroller : op ≠ .removeController n) :
    (u.perform key op).registry.find? (key n) = some n := by
  have heffect := u.effect key op
  generalize u.perform key op = next at heffect ⊢
  cases heffect with
  | nothing => exact hfind
  | stored m hop hfree =>
    have hkey : key m ≠ key n := by
      intro hkey
      have hstops := hfree n (hkey ▸ hfind)
      rw [hstopping] at hstops
      cases hstops
    simpa only [find?, KeyMap.find?_put, if_neg hkey] using hfind
  | erased k hop =>
    have hkey : k ≠ key n := by
      rintro rfl
      rcases hop with hop | ⟨m, hop, hm⟩
      · exact hremove hop
      · rw [hfind, Option.some.injEq] at hm
        exact hcontroller (hm ▸ hop)
    simpa only [find?, KeyMap.find?_erase, if_neg hkey] using hfind
  | stopped m => exact hfind

/-! ### Any number of operations -/

theorem Usage.Orderly.performAll (h : u.Orderly key) (ops : List Operation) :
    (u.performAll key ops).Orderly key := by
  induction ops generalizing u with
  | nil => exact h
  | cons op ops ih => exact ih (h.perform op)

theorem Usage.stopping_of_performAll {ops : List Operation} {n : Nat}
    (h : (u.performAll key ops).stopping n = false) : u.stopping n = false := by
  induction ops generalizing u with
  | nil => exact h
  | cons op ops ih => exact stopping_of_perform (ih h)

/-- A controller that is not stopping stays through all operations that do not take it out. -/
theorem Usage.find?_performAll {ops : List Operation} {n : Nat}
    (hfind : u.registry.find? (key n) = some n) (hremove : .remove (key n) ∉ ops)
    (hcontroller : .removeController n ∉ ops) (hstopping : (u.performAll key ops).stopping n = false) :
    (u.performAll key ops).registry.find? (key n) = some n := by
  induction ops generalizing u with
  | nil => exact hfind
  | cons op ops ih =>
    rw [List.mem_cons, not_or] at hremove hcontroller
    have hnext : (u.perform key op).stopping n = false := stopping_of_performAll hstopping
    have hkept := find?_perform hfind (stopping_of_perform hnext) (Ne.symm hremove.1)
      (Ne.symm hcontroller.1)
    exact ih hkept hremove.2 hcontroller.2 hstopping

/-- The snapshot has the controllers that are found under their own keys. -/
theorem Usage.Orderly.mem_snapshot (h : u.Orderly key) (n : Nat) :
    n ∈ u.registry.snapshot ↔ u.registry.find? (key n) = some n := by
  constructor
  · intro hmem
    obtain ⟨⟨k, m⟩, he, rfl⟩ := List.mem_map.mp hmem
    rw [h.own _ he]
    exact KeyMap.find?_of_mem _ _ h.distinct he
  · intro hfind
    exact List.mem_map.mpr ⟨_, KeyMap.mem_of_find? _ _ hfind, rfl⟩

/-- A controller that is found is taken out with its entry. -/
theorem Usage.perform_removeController {n : Nat} (hfind : u.registry.find? (key n) = some n) :
    u.perform key (.removeController n) =
      { u with registry := ⟨u.registry.entries.erase (key n)⟩ } := by
  have hresult : u.registry.removeController (key n) n =
      (true, ⟨u.registry.entries.erase (key n)⟩) := if_pos hfind
  rw [Usage.perform, hresult]

/-- Order among the entries is all that it takes. -/
theorem Usage.Orderly.sound (h : u.Orderly key) : u.Sound key where
  own k n hfind := h.own (k, n) (KeyMap.mem_of_find? _ _ hfind)
  listed := h.mem_snapshot
  once := by
    have hkeys : u.registry.snapshot.map key = u.registry.entries.map (·.1) := by
      rw [snapshot, List.map_map]
      exact List.map_congr_left h.own
    exact List.Nodup.of_map key (hkeys ▸ h.distinct)
  refused_iff n := by
    rcases insert_cases u.registry u.stopping (key n) n with ⟨m, hm, hstopping, hresult⟩ | ⟨hfree, hresult⟩
    · exact iff_of_true ⟨_, hresult⟩ ⟨m, hm, hstopping⟩
    · refine iff_of_false (by rw [hresult]; rintro ⟨e, ⟨⟩⟩) ?_
      rintro ⟨m, hm, hstopping⟩
      rw [hfree m hm] at hstopping
      cases hstopping
  refused n e hresult := by
    refine ⟨?_, Usage.perform_insert_of_error hresult⟩
    rcases insert_cases u.registry u.stopping (key n) n with ⟨_, -, -, hother⟩ | ⟨-, hother⟩
    · exact (Except.error.inj (hother.symm.trans hresult)).symm
    · rw [hresult] at hother
      cases hother
  accepted n registry hresult k := by
    rcases insert_cases u.registry u.stopping (key n) n with ⟨m, -, -, hother⟩ | ⟨-, hother⟩
    · rw [hresult] at hother
      cases hother
    · rw [hresult, Except.ok.injEq] at hother
      rw [hother]
      exact KeyMap.find?_put _ _ _ _
  stays n ops hfind hremove hcontroller hstopping :=
    Usage.find?_performAll hfind hremove hcontroller hstopping
  removed k := ⟨rfl, fun other => KeyMap.find?_erase _ _ _⟩
  takenOut n hfind := by
    have herased (other : ClusterKey) :
        (u.perform key (.removeController n)).registry.find? other =
          if key n = other then none else u.registry.find? other := by
      rw [Usage.perform_removeController hfind]
      exact KeyMap.find?_erase _ _ _
    refine ⟨congrArg Prod.fst (if_pos hfind), fun hmem => ?_, herased⟩
    have hfound := ((h.perform (.removeController n)).mem_snapshot n).mp hmem
    rw [herased, if_pos rfl] at hfound
    cases hfound
  others n hfind := by
    have hnothing : u.registry.removeController (key n) n = (false, u.registry) := if_neg hfind
    exact ⟨hnothing, by rw [Usage.perform, hnothing]⟩

/-- However a registry is used from its beginning on, and whichever controllers are stopping: each stored
controller is stored under its own key and once only, keeps out every other one of its key while it is not
stopping, and stays until the key is removed or it is removed itself. Then it is out, and all others are
where they were. -/
theorem holders_sound (key : Nat → ClusterKey) (stopping : Nat → Bool) (ops : List Operation) :
    (Usage.performAll key { stopping := stopping } ops).Sound key := by
  have hstart : ({ stopping := stopping } : Usage).Orderly key :=
    { distinct := List.nodup_nil
      own := by rintro e ⟨⟩ }
  exact (hstart.performAll ops).sound

/-- A late clean-up after a controller that was replaced leaves the new one in place. -/
example : (Usage.performAll (fun _ => ⟨"ns", "c1"⟩) { stopping := fun _ => false }
    [.insert 0, .insert 1, .stop 0, .insert 1, .removeController 0]).registry.find? ⟨"ns", "c1"⟩ =
      some 1 := by
  decide

end NatsFleet.Registry
