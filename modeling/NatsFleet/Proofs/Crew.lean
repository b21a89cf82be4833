import NatsFleet.Proofs.Dispatch
import NatsFleet.Proofs.Rounds
import Mathlib.Logic.Function.Basic

/-!
Which tasks are the loops of which controllers, and what everything that is done to an operator has to do
with them and with what the controllers go by: a controller is accepted and its loop starts, or a
controller is given another spec and its signal.
-/
namespace NatsFleet

def Task.loop? : Task → Option (Nat × Bool × Loop)
  | .loop n first state => some (n, first, state)
  | _ => none

namespace Controller

variable {c : Controller} {spec : ClusterSpec}

/-- The spec that a controller has already is not another one. -/
theorem update_same (c : Controller) :
    (c.update c.spec).1.isEmpty = true ∧ (c.update c.spec).2 = c := by
  have hempty : (SpecDiff.between c.spec c.spec).isEmpty = true := by
    simp [SpecDiff.between, SpecDiff.isEmpty]
  exact ⟨hempty, if_pos hempty⟩

/-- Another spec is stored whatever it differs in, and the signal is given. -/
theorem update_other (h : c.spec ≠ spec) : (c.update spec).1.isEmpty = false ∧
    (c.update spec).2 = { c with spec := spec, wake := c.wake.give } := by
  have hdiffers : ¬(SpecDiff.between c.spec spec).isEmpty = true := fun hempty =>
    h (Fleet.eq_of_isEmpty hempty)
  exact ⟨eq_false_of_ne_true hdiffers, if_neg hdiffers⟩

/-- What a controller is given is stored, field for field. -/
theorem update_spec (c : Controller) (spec : ClusterSpec) : (c.update spec).2.spec = spec := by
  by_cases h : c.spec = spec
  · rw [← h, c.update_same.2]
  · rw [(update_other h).2]

end Controller

namespace Fleet

def loopAt (f : Fleet) (i : Nat) : Option (Nat × Bool × Loop) := f.tasks[i]?.bind Task.loop?

def crew (f : Fleet) (i : Nat) : Option Nat := (f.loopAt i).map (·.1)

variable {f g : Fleet} {i n : Nat} {t t' : Task}

/-- A task is the loop of a controller, wherever that loop stands. -/
theorem crew_eq_some : f.crew i = some n ↔ ∃ first state, f.loopAt i = some (n, first, state) := by
  unfold crew
  constructor
  · intro h
    obtain ⟨⟨m, first, state⟩, hloop, rfl⟩ := Option.map_eq_some_iff.mp h
    exact ⟨first, state, hloop⟩
  · rintro ⟨first, state, hloop⟩
    rw [hloop]
    rfl

theorem crew_congr (hloops : g.loopAt = f.loopAt) : g.crew = f.crew := by
  unfold crew
  rw [hloops]

theorem loopAt_eq_some {first : Bool} {state : Loop} :
    f.loopAt i = some (n, first, state) ↔ f.tasks[i]? = some (.loop n first state) := by
  unfold loopAt
  constructor
  · intro h
    obtain ⟨t, ht, hloop⟩ := Option.bind_eq_some_iff.mp h
    cases t with
    | loop n' first' state' =>
      cases hloop
      exact ht
    | _ => cases hloop
  · intro h
    rw [h]
    rfl

/-- A task that goes on is the only one that can change its loop. -/
theorem loopAt_set (ht : f.tasks[i]? = some t) (htasks : g.tasks = f.tasks.set i t') :
    g.loopAt = Function.update f.loopAt i t'.loop? := by
  funext j
  rw [Function.update_apply, loopAt, htasks]
  split_ifs with hj
  · rw [hj, List.getElem?_set_self (List.getElem?_eq_some_iff.mp ht).1]
    rfl
  · rw [List.getElem?_set_ne (Ne.symm hj)]
    rfl

/-- A task that is no loop, and does not become one, leaves the loops as they are. -/
theorem loopAt_kept (ht : f.tasks[i]? = some t) (htasks : g.tasks = f.tasks.set i t')
    (hsame : t'.loop? = t.loop?) : g.loopAt = f.loopAt := by
  have hself : f.loopAt i = t'.loop? := by rw [loopAt, ht, hsame]; rfl
  rw [loopAt_set ht htasks, ← hself, Function.update_eq_self]

/-- A new task is the loop that it is spawned as. -/
theorem loopAt_concat (htasks : g.tasks = f.tasks ++ [t]) :
    g.loopAt = Function.update f.loopAt f.tasks.length t.loop? := by
  funext j
  rw [Function.update_apply, loopAt, htasks]
  split_ifs with hj
  · rw [hj, List.getElem?_concat_length]
    rfl
  · rcases Nat.lt_or_gt_of_ne hj with hlt | hgt
    · rw [List.getElem?_append_left hlt]
      rfl
    · have hnone : (f.tasks ++ [t])[j]? = none := by
        rw [List.getElem?_eq_none_iff, List.length_append, List.length_singleton]
        omega
      rw [hnone, loopAt, List.getElem?_eq_none_iff.mpr (Nat.le_of_lt hgt)]

theorem loopAt_concat_none (htasks : g.tasks = f.tasks ++ [t]) (hnone : t.loop? = none) :
    g.loopAt = f.loopAt := by
  have hself : f.loopAt f.tasks.length = t.loop? := by
    rw [loopAt, List.getElem?_eq_none_iff.mpr (Nat.le_refl _), hnone]
    rfl
  rw [loopAt_concat htasks, ← hself, Function.update_eq_self]

/-- What dealing with something can do to the controllers' wishes and to the loops: nothing, accept a
controller and start its loop, or give a controller another spec and its signal. -/
inductive Tells (f : Fleet) : Fleet → Prop
  | nothing {g : Fleet} (hwishes : g.wishes = f.wishes) (hloops : g.loopAt = f.loopAt) : Tells f g
  | accept {g : Fleet} (id : Identity) (spec : ClusterSpec)
      (hwishes : g.wishes = f.wishes ++ [⟨id, spec, {}⟩])
      (hloops : g.loopAt = Function.update f.loopAt f.tasks.length
        (some (f.controllers.length, true, .unborn))) : Tells f g
  | update {g : Fleet} {n : Nat} {w : Wish} (spec : ClusterSpec) (hw : f.wishes[n]? = some w)
      (hother : w.spec ≠ spec)
      (hwishes : g.wishes = f.wishes.set n ⟨w.identity, spec, w.wake.give⟩)
      (hloops : g.loopAt = f.loopAt) : Tells f g

theorem loopAt_congr (htasks : g.tasks = f.tasks) : g.loopAt = f.loopAt := by
  unfold loopAt
  rw [htasks]

theorem spawnLoop_wishes (f : Fleet) (n : Nat) : (f.spawnLoop n).wishes = f.wishes := by
  have hstarted : (f.changeController n fun c => { c with started := true }).wishes = f.wishes :=
    traits_changeController f n fun _ => rfl
  exact hstarted

/-- The loop of a controller that has just been accepted is its first. -/
theorem spawnLoop_tasks {c : Controller} (hc : f.controller? n = some c) (hstarted : c.started = false) :
    (f.spawnLoop n).tasks = f.tasks ++ [.loop n true .unborn] := by
  unfold spawnLoop
  rw [hc]
  dsimp only [Option.any_some]
  rw [hstarted]
  rfl

/-- To accept a cluster is to accept one controller and to start its loop. -/
theorem add_tells (f : Fleet) (c : Cluster) : f.Tells (f.add c).2 := by
  unfold add
  dsimp only
  split_ifs
  · exact .nothing rfl rfl
  · split
    · exact .nothing rfl rfl
    · refine .accept c.identity c.spec ?_ ?_
      · rw [spawnLoop_wishes]
        exact List.map_append
      · exact loopAt_concat (spawnLoop_tasks List.getElem?_concat_length rfl)

/-- A new spec comes with its signal. -/
theorem update_tells {c : Controller} (hc : f.controller? n = some c) (spec : ClusterSpec)
    (hwishes : g.wishes = f.wishes.set n (c.update spec).2.wish) (htasks : g.tasks = f.tasks) :
    f.Tells g := by
  have hw := wishes_getElem? hc
  have hloops := loopAt_congr htasks
  by_cases hspec : c.spec = spec
  · refine .nothing ?_ hloops
    rw [hwishes, ← hspec, c.update_same.2, Board.set_same hw]
  · refine .update spec hw hspec ?_ hloops
    rw [hwishes, (Controller.update_other hspec).2]
    rfl

theorem Tells.of_note {e : Log.Entry} (h : (f.note e).Tells g) : f.Tells g := by
  cases h with
  | nothing hwishes hloops => exact .nothing hwishes hloops
  | accept id spec hwishes hloops => exact .accept id spec hwishes hloops
  | update spec hw hother hwishes hloops => exact .update spec hw hother hwishes hloops

theorem stop_tasks (f : Fleet) (n : Nat) : (f.stop n).tasks = f.tasks := by
  unfold stop
  split <;> rfl

/-- Dealing with a change tells one controller, or none. -/
theorem handle_tells (f : Fleet) (change : Watch.Change) : f.Tells (f.handle change) := by
  unfold handle
  split_ifs
  · exact .nothing rfl rfl
  · cases change with
    | added c => exact f.add_tells c
    | updated old c =>
      dsimp only
      unfold update
      split
      · exact (add_tells (f.note _) c).of_note
      · split
        · exact .nothing rfl rfl
        · rename_i n _ controller hc
          exact update_tells hc c.spec List.map_set rfl
    | deleted c =>
      dsimp only
      unfold delete
      split
      · exact .nothing rfl rfl
      · rename_i n _
        have hstopped := stop_tasks
          (f.note (Log.info "Cluster deleted, stopping controller" (Controller.fields c.key))) n
        have hspawned : (((f.note (Log.info "Cluster deleted, stopping controller"
            (Controller.fields c.key))).stop n).spawn (.cleanUp n .unborn)).tasks =
              f.tasks ++ [.cleanUp n .unborn] := congrArg (· ++ [Task.cleanUp n .unborn]) hstopped
        exact .nothing (stop_traits (fun _ _ => rfl) (f.note _) n) (loopAt_concat_none hspawned rfl)

/-- What is done from outside tells none. -/
theorem Prompt.tells {meddled : Bool} (h : f.Prompt meddled g) : f.Tells g := by
  cases h with
  | handle change => exact f.handle_tells change
  | run mailbox => exact .nothing rfl (loopAt_concat_none rfl rfl)
  | send i change =>
    rcases send_cases f i change with hsend | ⟨mailbox, mailbox', state, -, ht, hsend⟩
    · rw [hsend]
      exact .nothing rfl rfl
    · rw [hsend]
      exact .nothing rfl (loopAt_kept ht rfl rfl)
  | close i =>
    rcases closeMailbox_cases f i with hclose | ⟨mailbox, state, ht, hclose⟩
    · rw [hclose]
      exact .nothing rfl rfl
    · rw [hclose]
      exact .nothing rfl (loopAt_kept ht rfl rfl)
  | shutdown => exact .nothing rfl (loopAt_concat_none rfl rfl)
  | cancel => exact .nothing (cancel_traits (fun _ _ => rfl) f) rfl
  | elapse moment => exact .nothing rfl rfl
  | outside platforms => exact .nothing rfl rfl

def tell (f : Fleet) (n : Nat) (spec : ClusterSpec) : Fleet :=
  f.changeController n fun c => (c.update spec).2

theorem tell_eq {c : Controller} (hc : f.controller? n = some c) (spec : ClusterSpec) :
    f.tell n spec = f.setController n (c.update spec).2 := by
  have hget : f.controllers[n]? = some c := hc
  rw [tell, changeController, List.modify_eq_set_getElem?, hget]
  rfl

/-- A controller that is given the spec that it has already does not notice. -/
theorem tell_same {c : Controller} (hc : f.controller? n = some c) : f.tell n c.spec = f := by
  rw [tell_eq hc, c.update_same.2, setController, Board.set_same hc]

theorem tell_tells (f : Fleet) (n : Nat) (spec : ClusterSpec) : f.Tells (f.tell n spec) := by
  cases hc : f.controller? n with
  | none =>
    rw [tell, changeController_none hc]
    exact .nothing rfl rfl
  | some c =>
    rw [tell_eq hc]
    exact update_tells hc spec List.map_set rfl

/-- On the board only the spec changes. -/
theorem tell_board (f : Fleet) (n : Nat) (spec : ClusterSpec) :
    (f.tell n spec).board = f.board.change n fun c => { c with spec := spec } :=
  board_changeController n fun c => update_card c spec

end Fleet

end NatsFleet
