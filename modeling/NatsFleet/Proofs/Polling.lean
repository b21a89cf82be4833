import NatsFleet.Registrar
import Mathlib.Algebra.GroupWithZero.Nat
import Mathlib.Data.List.Basic

/-!
When a definition is read while it is being registered, and which reading is the last one: the first that
finds the names refused or the definition established, or else the first after which another one would
come too late. There always is such a reading.
-/
namespace NatsFleet

namespace DefinitionCondition

def Refuses (c : DefinitionCondition) : Prop :=
  c.type = "NamesAccepted" ∧ c.status = Condition.statusFalse

def Establishes (c : DefinitionCondition) : Prop :=
  c.type = "Established" ∧ c.status = Condition.statusTrue

theorem refuses_iff {c : DefinitionCondition} :
    (c.type == "NamesAccepted" && c.status == Condition.statusFalse) = true ↔ c.Refuses := by
  rw [Bool.and_eq_true, beq_iff_eq, beq_iff_eq, Refuses]

theorem establishes_iff {c : DefinitionCondition} :
    (c.type == "Established" && c.status == Condition.statusTrue) = true ↔ c.Establishes := by
  rw [Bool.and_eq_true, beq_iff_eq, beq_iff_eq, Establishes]

end DefinitionCondition

open DefinitionCondition

def Reading.conditions : Reading → List DefinitionCondition
  | .ok (some conditions) => conditions.getD []
  | _ => []

/-- What the conditions of a definition tell, in one case for each answer. -/
theorem Readiness.ofConditions_cases (cs : List DefinitionCondition) :
    (∃ front c rest, cs = front ++ c :: rest ∧ c.Refuses ∧ (∀ b ∈ front, ¬ b.Refuses) ∧
        ofConditions cs = .nameConflict (c.reason.getD "")) ∨
      ((∀ c ∈ cs, ¬ c.Refuses) ∧ (∃ c ∈ cs, c.Establishes) ∧ ofConditions cs = .established) ∨
      ((∀ c ∈ cs, ¬ c.Refuses ∧ ¬ c.Establishes) ∧ ofConditions cs = .pending) := by
  unfold ofConditions
  split
  case h_1 c hfound =>
    obtain ⟨hc, front, rest, hcs, hfront⟩ := List.find?_eq_some_iff_append.mp hfound
    refine .inl ⟨front, c, rest, hcs, refuses_iff.mp hc, fun b hb hrefuses => ?_, rfl⟩
    have hb' := hfront b hb
    rw [refuses_iff.mpr hrefuses] at hb'
    cases hb'
  case h_2 hnone =>
    have hnames : ∀ c ∈ cs, ¬ c.Refuses := fun c hc hrefuses =>
      List.find?_eq_none.mp hnone c hc (refuses_iff.mpr hrefuses)
    split_ifs with hany
    · obtain ⟨c, hc, hestablishes⟩ := List.any_eq_true.mp hany
      exact .inr (.inl ⟨hnames, ⟨c, hc, establishes_iff.mp hestablishes⟩, rfl⟩)
    · refine .inr (.inr ⟨fun c hc => ⟨hnames c hc, fun hestablishes => hany ?_⟩, rfl⟩)
      exact List.any_eq_true.mpr ⟨c, hc, establishes_iff.mpr hestablishes⟩

namespace Registrar

variable (r : Registrar) (answers : Nat → Nat × Reading) (start : Nat)

/-- The moment of a reading when the first one is made at `start`: a reading waits for one period after
the one before it has come back. -/
def issued (i : Nat) : Nat :=
  start + i * r.interval + ((List.range i).map fun j => (answers j).1).sum

def received (i : Nat) : Nat := r.issued answers start i + (answers i).1

theorem issued_zero : r.issued answers start 0 = start := by
  simp [issued]

theorem issued_succ (i : Nat) :
    r.issued answers start (i + 1) = r.received answers start i + r.interval := by
  simp only [issued, received, List.range_succ, List.map_append, List.map_singleton, List.sum_append,
    List.sum_singleton, Nat.succ_mul]
  omega

inductive Ends (i : Nat) : Except Failure Registration → Prop
  -- It shows that the names are refused, whatever else it shows.
  | refused {front rest : List DefinitionCondition} {c : DefinitionCondition}
      (hshown : (answers i).2.conditions = front ++ c :: rest) (hc : c.Refuses)
      (hfront : ∀ b ∈ front, ¬ b.Refuses) :
      Ends i (.error (.registration (.nameConflict (c.reason.getD ""))))
  | established {c : DefinitionCondition} (hnames : ∀ b ∈ (answers i).2.conditions, ¬ b.Refuses)
      (hc : c ∈ (answers i).2.conditions) (hestablishes : c.Establishes) : Ends i (.ok .established)
  -- It shows neither, and the next reading would be made after the deadline.
  | late (hopen : ∀ c ∈ (answers i).2.conditions, ¬ c.Refuses ∧ ¬ c.Establishes)
      (hlate : start + r.timeout < r.received answers start i + r.interval) : Ends i (.ok .timedOut)

/-- A registration ends with a certain reading, the first one that can end it. -/
structure Concludes (o : Outcome) (n : Nat) (verdict : Except Failure Registration) : Prop where
  ends : r.Ends answers start n verdict
  earlier : ∀ i < n, ∀ other, ¬ r.Ends answers start i other
  readings : o.readings = (List.range (n + 1)).map (r.issued answers start)
  finished : o.finished = r.received answers start n
  result : o.result = some verdict
  timely : ∀ moment ∈ o.readings, moment ≤ start + r.timeout
  -- If no reading takes time, a timeout takes as many readings as fit in.
  prompt : verdict = .ok .timedOut → (∀ i ≤ n, (answers i).1 = 0) →
    o.readings.length = r.timeout / r.interval + 1

variable {r answers start}

/-- What a reading leads to depends on its conditions, and otherwise on the time that is left. -/
theorem read_stage (now deadline : Nat) (reading : Reading) :
    (r.read now deadline reading).2 = match Readiness.ofConditions reading.conditions with
      | .established => .finished (.ok .established)
      | .nameConflict reason => .finished (.error (.registration (.nameConflict reason)))
      | .pending => (r.wait now deadline).2 := by
  rcases reading with e | _ | conditions
  · rfl
  · rfl
  · simp only [read, Reading.conditions]
    cases Readiness.ofConditions (conditions.getD []) <;> rfl

variable (r answers start) in
/-- A reading that comes back ends the registration, or the next one is made in time. -/
theorem read_cases (i : Nat) :
    (∃ result, r.Ends answers start i result ∧
        (r.read (r.received answers start i) (start + r.timeout) (answers i).2).2 =
          .finished result) ∨
      ((∀ other, ¬ r.Ends answers start i other) ∧
        (r.read (r.received answers start i) (start + r.timeout) (answers i).2).2 =
          .pausing (start + r.timeout) (r.issued answers start (i + 1)) ∧
        r.issued answers start (i + 1) ≤ start + r.timeout) := by
  rw [read_stage]
  rcases Readiness.ofConditions_cases (answers i).2.conditions with
    ⟨front, c, rest, hshown, hc, hfront, hready⟩ | ⟨hnames, ⟨c, hc, hestablishes⟩, hready⟩ |
      ⟨hopen, hready⟩
  · exact .inl ⟨_, .refused hshown hc hfront, by rw [hready]⟩
  · exact .inl ⟨_, .established hnames hc hestablishes, by rw [hready]⟩
  · rw [hready]
    dsimp only
    unfold wait
    split_ifs with hlate
    · exact .inl ⟨_, .late hopen hlate, rfl⟩
    · refine .inr ⟨?_, ?_, ?_⟩
      · rintro other (⟨hshown, hc, -⟩ | ⟨-, hc, hestablishes⟩ | ⟨-, hlate'⟩)
        · exact (hopen _ (hshown ▸ List.mem_append_right _ List.mem_cons_self)).1 hc
        · exact (hopen _ hc).2 hestablishes
        · exact hlate hlate'
      · rw [issued_succ]
      · rw [issued_succ]
        exact Nat.le_of_not_lt hlate

structure Underway (r : Registrar) (answers : Nat → Nat × Reading) (start i : Nat) (o : Outcome) :
    Prop where
  earlier : ∀ j < i, ∀ other, ¬ r.Ends answers start j other
  readings : o.readings = (List.range i).map (r.issued answers start)
  timely : ∀ j ≤ i, r.issued answers start j ≤ start + r.timeout

theorem map_range_succ {i : Nat} {o o' : Outcome}
    (h : o.readings = (List.range i).map (r.issued answers start))
    (hreadings : o'.readings = o.readings ++ [r.issued answers start i]) :
    o'.readings = (List.range (i + 1)).map (r.issued answers start) := by
  rw [hreadings, h, List.range_succ, List.map_append, List.map_singleton]

/-- A reading that ends nothing and is due in time is followed by another one. -/
theorem Underway.next {i : Nat} {o o' : Outcome} (h : r.Underway answers start i o)
    (hopen : ∀ other, ¬ r.Ends answers start i other)
    (hdue : r.issued answers start (i + 1) ≤ start + r.timeout)
    (hreadings : o'.readings = o.readings ++ [r.issued answers start i]) :
    r.Underway answers start (i + 1) o' where
  earlier j hj := by
    rcases Nat.lt_succ_iff_lt_or_eq.mp hj with hj | rfl
    · exact h.earlier j hj
    · exact hopen
  readings := map_range_succ h.readings hreadings
  timely j hj := by
    rcases Nat.le_succ_iff.mp hj with hj | rfl
    · exact h.timely j hj
    · exact hdue

/-- Without delays the readings are one period apart. -/
theorem issued_eq {n : Nat} (hdelays : ∀ i < n, (answers i).1 = 0) :
    r.issued answers start n = start + n * r.interval := by
  have hsum : ((List.range n).map fun j => (answers j).1).sum = 0 := by
    rw [List.sum_eq_zero_iff_forall_eq_nat]
    intro m hm
    obtain ⟨i, hi, rfl⟩ := List.mem_map.mp hm
    exact hdelays i (List.mem_range.mp hi)
  rw [issued, hsum, Nat.add_zero]

/-- The first reading that ends the registration does end it. -/
theorem Underway.concludes {n : Nat} {o o' : Outcome} {verdict : Except Failure Registration}
    (h : r.Underway answers start n o) (hends : r.Ends answers start n verdict)
    (hreadings : o'.readings = o.readings ++ [r.issued answers start n])
    (hfinished : o'.finished = r.received answers start n) (hresult : o'.result = some verdict) :
    r.Concludes answers start o' n verdict where
  ends := hends
  earlier := h.earlier
  readings := map_range_succ h.readings hreadings
  finished := hfinished
  result := hresult
  timely moment hmoment := by
    rw [map_range_succ h.readings hreadings] at hmoment
    obtain ⟨i, hi, rfl⟩ := List.mem_map.mp hmoment
    exact h.timely i (Nat.le_of_lt_succ (List.mem_range.mp hi))
  prompt hverdict hdelays := by
    subst hverdict
    obtain _ | _ | ⟨-, hlate⟩ := hends
    have hissued : r.issued answers start n = start + n * r.interval :=
      issued_eq fun i hi => hdelays i (Nat.le_of_lt hi)
    have htimely := h.timely n (Nat.le_refl n)
    rw [received, hdelays n (Nat.le_refl n), hissued] at hlate
    rw [hissued] at htimely
    -- The timeout lies between this reading and the next one.
    have hcount : r.timeout / r.interval = n :=
      Nat.div_eq_of_lt_le (by omega) (by rw [Nat.succ_mul]; omega)
    rw [map_range_succ h.readings hreadings, List.length_map, List.length_range, hcount]

theorem poll_of_finished {fuel i now deadline : Nat} {o : Outcome}
    {verdict : Except Failure Registration}
    (h : (r.read (now + (answers i).1) deadline (answers i).2).2 = .finished verdict) :
    (r.poll answers deadline (fuel + 1) i now o).readings = o.readings ++ [now] ∧
      (r.poll answers deadline (fuel + 1) i now o).finished = now + (answers i).1 ∧
        (r.poll answers deadline (fuel + 1) i now o).result = some verdict := by
  simp only [poll, h, and_self]

theorem poll_of_pausing {fuel i now deadline wakeUp : Nat} {o : Outcome}
    (h : (r.read (now + (answers i).1) deadline (answers i).2).2 = .pausing deadline wakeUp) :
    ∃ o' : Outcome, o'.readings = o.readings ++ [now] ∧
      r.poll answers deadline (fuel + 1) i now o = r.poll answers deadline fuel (i + 1) wakeUp o' := by
  simp only [poll, h]
  exact ⟨_, rfl, rfl⟩

/-- The readings come to an end. Each one takes one period off the time that is left, so the fuel is
enough if it covers the periods in the timeout. -/
theorem poll_concludes (hinterval : 0 < r.interval) (fuel : Nat) {i : Nat} {o : Outcome}
    (h : r.Underway answers start i o) (hfuel : r.timeout / r.interval < i + fuel) :
    ∃ n verdict, r.Concludes answers start
      (r.poll answers (start + r.timeout) fuel i (r.issued answers start i) o) n verdict := by
  induction fuel generalizing i o with
  | zero =>
    have hdue := h.timely i (Nat.le_refl i)
    have hi : i * r.interval ≤ r.timeout := by
      unfold issued at hdue
      omega
    exact absurd ((Nat.le_div_iff_mul_le hinterval).mpr hi) (Nat.not_le_of_lt hfuel)
  | succ fuel ih =>
    rcases read_cases r answers start i with
      ⟨verdict, hends, hread⟩ | ⟨hopen, hread, hdue⟩
    · obtain ⟨hreadings, hfinished, hresult⟩ := poll_of_finished hread
      exact ⟨i, verdict, h.concludes hends hreadings hfinished hresult⟩
    · obtain ⟨o', hreadings, hpoll⟩ := poll_of_pausing hread
      rw [hpoll]
      exact ih (h.next hopen hdue hreadings) (by omega)

/-- A registration whose definition can be neither created nor found in place fails without a reading. Any
other one comes to an end, whatever the readings show and however long they take: with the first reading
that can end it, at the moment when that comes back, and no reading is made after the deadline. -/
theorem registration_concludes {fuel : Nat} (hinterval : 0 < r.interval)
    (hfuel : r.timeout / r.interval < fuel) (now : Nat) (creation : Nat × Except Failure Unit)
    (answers : Nat → Nat × Reading) :
    (∃ e, creation.2 = .error e ∧ e.isAlreadyExists = false ∧
        (r.run fuel now creation answers).readings = [] ∧
        (r.run fuel now creation answers).finished = now + creation.1 ∧
        (r.run fuel now creation answers).result =
          some (.error (.registration (.createFailed e.message)))) ∨
      (∀ e, creation.2 = .error e → e.isAlreadyExists = true) ∧
        ∃ n verdict, r.Concludes answers (now + creation.1) (r.run fuel now creation answers) n
          verdict := by
  obtain ⟨delay, created⟩ := creation
  -- Once the definition is in place, the readings start with nothing read so far.
  have hpoll (o : Outcome) (hreadings : o.readings = []) : ∃ n verdict,
      r.Concludes answers (now + delay)
        (r.poll answers (now + delay + r.timeout) fuel 0 (now + delay) o) n verdict := by
    have hstart : r.Underway answers (now + delay) 0 o :=
      { earlier := fun j hj => absurd hj (Nat.not_lt_zero j)
        readings := hreadings
        timely := fun j hj => by
          rw [Nat.le_zero.mp hj, issued_zero]
          exact Nat.le_add_right _ _ }
    have hconcludes := poll_concludes hinterval fuel hstart (by omega)
    rwa [issued_zero] at hconcludes
  cases created with
  | ok =>
    exact .inr ⟨by rintro e ⟨⟩, hpoll _ rfl⟩
  | error e =>
    cases hknown : e.isAlreadyExists with
    | false =>
      refine .inl ⟨e, rfl, hknown, ?_⟩
      cases e with
      | alreadyExists what => cases hknown
      | _ => exact ⟨rfl, rfl, rfl⟩
    | true =>
      cases e with
      | alreadyExists what =>
        refine .inr ⟨?_, hpoll _ rfl⟩
        rintro e ⟨⟩
        rfl
      | _ => cases hknown

def patient : Registrar := ⟨"natsclusters.messaging.nats.io", 3, 30⟩

def contested : Nat → Nat × Reading
  | 0 => (1, .error (.kubeApi "unavailable"))
  | 1 => (2, .ok none)
  | _ => (0, .ok (some (some [⟨"Established", Condition.statusTrue, none⟩,
      ⟨"NamesAccepted", Condition.statusFalse, some "AlreadyInUse"⟩])))

def unreachable (_ : Nat) : Nat × Reading := (0, .error (.kubeApi "unavailable"))

/-- A definition whose name is refused fails, although it is served; and one that stays unreachable times
out. -/
theorem registration_concludes_contested :
    (∃ n verdict, patient.Concludes contested 5
        (patient.run 11 0 (5, .error (.alreadyExists "crd")) contested) n verdict ∧
          verdict = .error (.registration (.nameConflict "AlreadyInUse"))) ∧
      (patient.run 11 0 (0, .ok ()) unreachable).readings.length = 30 / 3 + 1 := by
  have hinterval : 0 < patient.interval := by decide
  have hfuel : patient.timeout / patient.interval < 11 := by decide
  constructor
  · rcases registration_concludes hinterval hfuel 0 (5, .error (.alreadyExists "crd")) contested with
      ⟨e, he, hknown, -⟩ | ⟨-, n, verdict, hconcludes⟩
    · cases he
      cases hknown
    · exact ⟨n, verdict, hconcludes, Option.some.inj hconcludes.result.symm⟩
  · rcases registration_concludes hinterval hfuel 0 (0, .ok ()) unreachable with
      ⟨e, he, -⟩ | ⟨-, n, verdict, hconcludes⟩
    · cases he
    · have hverdict : verdict = .ok .timedOut := Option.some.inj hconcludes.result.symm
      exact hconcludes.prompt hverdict fun _ _ => rfl

end Registrar
end NatsFleet
