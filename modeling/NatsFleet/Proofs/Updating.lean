import NatsFleet.Proofs.Diary
import NatsFleet.Proofs.Ticks

/-!
No spec that a controller is given is lost: while nobody cancels the controller, its latest pass reads the
present spec, or it owes a pass and its loop sees to it without waiting for a tick.
-/
namespace NatsFleet

namespace Fleet

variable {f : Fleet} {i n : Nat} {c : Controller} {first : Bool} {state : Loop}

/-- A loop that owes a pass and is in none can go on at once. -/
theorem Owed.isReady (howed : Owed c state) (hc : f.controller? n = some c)
    (hidle : ∀ s tick, state ≠ .passing s tick) (hstate : state ≠ .finished) :
    f.isLoopReady n state = true := by
  cases state with
  | unborn => rfl
  | passing s tick => exact absurd rfl (hidle s tick)
  | waiting tick =>
    have hwake : c.wake.isGiven = true := howed.resolve_left fun h => by cases h
    simp [isLoopReady, hc, hwake]
  | finished => exact absurd rfl hstate

end Fleet

namespace Diary

variable {d d' : Diary} {f : Fleet} {i n : Nat} {c : Controller}

/-! ## What has been written down stays -/

/-- A history only grows at its front. -/
theorem next_suffix (d : Diary) (f : Fleet) (n : Nat) : d.history n <:+ (d.next f).history n := by
  unfold next
  dsimp only
  split
  · exact List.suffix_rfl
  · split_ifs
    · exact List.suffix_rfl
    · exact List.suffix_cons _ _

/-- Changes that are handled add to it. -/
theorem handleAll_suffix (d : Diary) (changes : List Watch.Change) (n : Nat) :
    d.history n <:+ (d.handleAll changes).history n := by
  induction changes generalizing d with
  | nil => exact List.suffix_rfl
  | cons change rest ih => exact (d.next_suffix _ n).trans (ih _)

theorem receive_suffix (d : Diary) (mailbox : Mailbox) (n : Nat) :
    d.history n <:+ d.receive mailbox n := by
  unfold receive
  split_ifs
  · exact List.suffix_rfl
  · exact d.handleAll_suffix _ n

/-- Only a task that receives touches the history. -/
theorem step_history (d : Diary) (i : Nat) : (d.step i).history = d.history ∨ ∃ mailbox,
    (d.step i).history = { d with fleet := d.fleet.begun }.receive mailbox ∨
      (d.step i).history = d.receive mailbox := by
  unfold step
  dsimp only
  split
  · exact .inr ⟨_, .inl rfl⟩
  · exact .inr ⟨_, .inr rfl⟩
  · exact .inl rfl

/-- Hence a step leaves all earlier entries. -/
theorem step_suffix (d : Diary) (i n : Nat) : d.history n <:+ (d.step i).history n := by
  rcases d.step_history i with hsame | ⟨mailbox, hbegun | hreceived⟩
  · exact hsame ▸ List.suffix_rfl
  · rw [hbegun]
    exact receive_suffix { d with fleet := d.fleet.begun } mailbox n
  · rw [hreceived]
    exact d.receive_suffix mailbox n

/-- The specs that a controller has had only become more. -/
theorem runs_suffix (hruns : Relation.ReflTransGen Move d d') (n : Nat) :
    d.history n <:+ d'.history n := by
  induction hruns with
  | refl => exact List.suffix_rfl
  | tail _ hmove ih =>
    refine ih.trans ?_
    cases hmove with
    | progress i => exact step_suffix _ i n
    | prompt h => exact next_suffix _ _ n
    | update n' spec => exact next_suffix _ _ n
    | stop n' => exact next_suffix _ _ n

/-! ## The present state of a controller -/

def latest (d : Diary) (n : Nat) (c : Controller) : Read := c.wish.read (d.history n).length

/-- Another spec that a controller is given is written down. -/
theorem Kept.told_history (hkept : d.Kept) (hc : d.fleet.controller? n = some c) {spec : ClusterSpec}
    (hother : c.spec ≠ spec) :
    (d.next (d.fleet.tell n spec)).history n = spec :: d.history n := by
  have hstored : (d.fleet.tell n spec).controller? n = some (c.update spec).2 :=
    Fleet.controller?_changeController hc _
  have hspec : (c.update spec).2.wish.spec = spec := c.update_spec spec
  have hbefore : (d.history n).head? = some c.spec := hkept.told n _ (Fleet.wishes_getElem? hc)
  have hnew : ¬(d.history n).head? = some spec := by
    rw [hbefore]
    exact fun h => hother (Option.some.inj h)
  rw [next_history (Fleet.wishes_getElem? hstored), hspec, if_neg hnew]

/-- The latest pass has read the present spec, unless one is owed. -/
theorem current_or_owed {version : Nat} {sights : List Sight} {state : Loop}
    (hheeds : c.wish.Heeds version sights state) (hstate : state ≠ .finished) :
    (∃ sight older, sights = sight :: older ∧ sight.Current (c.wish.read version)) ∨
      Fleet.Owed c state := by
  cases hheeds with
  | unborn => exact .inr (.inl rfl)
  | passing habreast _ => exact habreast.symm.imp (fun h => ⟨_, _, rfl, h⟩) .inr
  | waiting habreast _ => exact habreast.symm.imp (fun h => ⟨_, _, rfl, h⟩) .inr
  | finished => exact absurd rfl hstate

/-- No spec that a controller is given is lost. Whatever has happened to an operator from its start on, and
as long as nobody has cancelled the controller: a spec that it is given is stored, and one that it has
already changes nothing. Its one loop goes on; while the loop waits and the signal is not given, the
latest pass has read the present spec, both times, and no pass follows before the next tick. Otherwise a
pass is owed, unless the latest one has read the present spec: then the loop can go on at once, if it is
in no pass, and when it goes on it begins a pass that reads the present spec, unless the pass before
still waits. -/
theorem updates_heeded {f : Fleet} (hfresh : f.Fresh) (hperiod : 0 < f.settings.interval)
    (hruns : Relation.ReflTransGen Move { fleet := f } d) (hc : d.fleet.controller? n = some c)
    (hworks : c.cancelled = false) :
    (d.history n).head? = some c.spec ∧
    (∀ spec, (c.update spec).2.spec = spec ∧ (c.spec = spec → d.next (d.fleet.tell n spec) = d) ∧
      (c.spec ≠ spec → (d.next (d.fleet.tell n spec)).history n = spec :: d.history n ∧
        (c.update spec).2.wake.isGiven = true)) ∧
    ∃ (i : Nat) (state : Loop), d.fleet.tasks[i]? = some (.loop n true state) ∧
      (∀ (j : Nat) (first : Bool) (state' : Loop),
        d.fleet.tasks[j]? = some (.loop n first state') → j = i) ∧
      (∀ tick, state = .waiting tick → c.wake.isGiven = false →
        (∃ older, d.rounds n = ⟨d.latest n c, some (d.latest n c)⟩ :: older) ∧
        (d.fleet.now < tick → (d.step i).rounds n = d.rounds n)) ∧
      ((∃ sight older, d.rounds n = sight :: older ∧ sight.Current (d.latest n c)) ∨
        Fleet.Owed c state) ∧
      (Fleet.Owed c state →
        ((∀ s tick, state ≠ .passing s tick) → i ∈ d.fleet.readyTasks) ∧
        ((∃ s s' tick, state = .passing s tick ∧
          (d.step i).fleet.tasks[i]? = some (.loop n true (.passing s' tick)) ∧
          Fleet.Begins (d.latest n c) 0 (d.rounds n) ((d.step i).rounds n)) ∨
        ∃ count, Fleet.Begins (d.latest n c) (count + 1) (d.rounds n) ((d.step i).rounds n))) ∧
      ∀ d', Relation.ReflTransGen Move d d' → d.history n <:+ d'.history n := by
  have hkept := runs_kept hruns (kept_of_fresh hfresh (Nat.ne_of_gt hperiod))
  have hw := Fleet.wishes_getElem? hc
  obtain ⟨i, state, ht, hsole, hheeds⟩ := hkept.loop hc
  have hstate := hkept.runs_on hc hworks ht
  have hrounds := step_loop_rounds ht
  have htask := step_loop_task ht
  rw [← Fleet.recordLoop_fst (d.history n).length d.fleet n true state (d.rounds n)] at htask
  -- All of it is read off the invariant at this moment, but for what the next turn of the loop does.
  refine ⟨hkept.told n _ hw, fun spec => ⟨c.update_spec spec, fun hsame => ?_, fun hother => ?_⟩, i,
    state, ht, hsole, fun tick hwaiting hquiet => ⟨?_, fun hearly => ?_⟩, ?_,
    fun howed => ⟨fun hidle => ?_, ?_⟩, fun d' hmore => runs_suffix hmore n⟩
  · rw [← hsame, Fleet.tell_same hc, hkept.next_nothing rfl]
  · exact ⟨hkept.told_history hc hother, by
      rw [(Controller.update_other hother).2]
      exact c.wake.give_isGiven⟩
  · exact (hwaiting ▸ hheeds).parked hquiet
  · subst hwaiting
    rw [hrounds, Fleet.recordLoop]
    simp only [hc]
    exact Fleet.recordTurn_idle hc (.inr ⟨hearly, hquiet⟩) _ _
  · exact current_or_owed hheeds hstate
  · exact Fleet.mem_readyTasks.mpr ⟨_, ht, howed.isReady hc hidle hstate⟩
  · rw [hrounds]
    rcases Fleet.recordLoop_owed hc hworks hkept.period howed hstate (d.history n).length true
      (d.rounds n) with ⟨s, s', tick, hpassing, hstill, hbegins⟩ | hbegins
    · exact .inl ⟨s, s', tick, hpassing, by rw [htask, hstill], hbegins⟩
    · exact .inr hbegins

def retold : Diary :=
  let declared : Diary := ({ fleet := { draws := ⟨id, 0⟩ } } : Diary).next
    (({ draws := ⟨id, 0⟩ } : Fleet).handle (.added (Watch.sighted "demo" 1)))
  declared.next (declared.fleet.tell 0 (Watch.sighted "demo" 2).spec)

theorem retold_runs : Relation.ReflTransGen Move { fleet := { draws := ⟨id, 0⟩ } } retold :=
  (Relation.ReflTransGen.single (.prompt (.handle _))).tail (.update 0 _)

/-- Its first pass reads that spec. -/
theorem updates_heeded_retold :
    retold.history 0 = [(Watch.sighted "demo" 2).spec, (Watch.sighted "demo" 1).spec] ∧
    ∃ count, Fleet.Begins ⟨(Watch.sighted "demo" 2).spec, 2⟩ (count + 1) []
      ((retold.step 0).rounds 0) := by
  have hfresh : Fleet.Fresh { draws := ⟨id, 0⟩ } := ⟨rfl, rfl, rfl, rfl, rfl⟩
  have hhistory : retold.history 0 =
      [(Watch.sighted "demo" 2).spec, (Watch.sighted "demo" 1).spec] := by decide +kernel
  have htask : retold.fleet.tasks[0]? = some (.loop 0 true .unborn) := rfl
  have hheeded := updates_heeded hfresh (by decide) retold_runs (n := 0) rfl rfl
  obtain ⟨-, -, i, state, ht, hsole, -, -, howed, -⟩ := hheeded
  obtain rfl := hsole 0 true .unborn htask
  obtain ⟨-, -, rfl⟩ := Task.loop.inj (Option.some.inj (ht.symm.trans htask))
  refine ⟨hhistory, ?_⟩
  rcases (howed (.inl rfl)).2 with ⟨s, s', tick, hpassing, -⟩ | hbegins
  · cases hpassing
  · exact hbegins

end Diary
end NatsFleet
