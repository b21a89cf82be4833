import NatsFleet.Proofs.Crew
import NatsFleet.Proofs.Heeding

/-!
An operator beside a diary of its controllers: the specs that each has had, and what its passes have read
of them. Each controller is manned by one loop, and heeds the spec that it has been given last.
-/
namespace NatsFleet

/-- What holds of an operator later on if it is in order now. -/
structure Board.Sequel (b b' : Board) : Prop where
  orderly : b'.Orderly
  settings : b'.settings = b.settings
  halted : ∀ n, b.Halted n → b'.Halted n

theorem Board.Sequel.period {b b' : Board} (h : b.Sequel b') (hperiod : b.settings.interval ≠ 0) :
    b'.settings.interval ≠ 0 := by
  rw [h.settings]
  exact hperiod

theorem Fleet.begun_acts (f : Fleet) : f.board.Acts f.begun.board := by
  rw [begun_board]
  split_ifs with hphase
  · have hrank : f.board.phase.rank ≤ FleetPhase.running.rank := by
      rw [show f.board.phase = .starting from hphase]
      decide
    exact .single (.advance .running hrank)
  · exact .refl

/-- What an operator does keeps everything in order, and revives no controller. -/
theorem Board.Acts.sequel {b b' : Board} (h : b.Acts b') (hb : b.Orderly) : b.Sequel b' :=
  ⟨h.orderly hb, h.settings, fun _ => h.halted⟩

theorem Board.Sequel.change {b : Board} (hb : b.Orderly) (n : Nat) {g : Card → Card}
    (hkey : ∀ c, (g c).key = c.key) (hcancelled : ∀ c, c.cancelled = true → (g c).cancelled = true) :
    b.Sequel (b.change n g) :=
  ⟨hb.change n hkey hcancelled, rfl, fun _ => Halted.change hcancelled n⟩

/-- An operator, the specs that each of its controllers has had, the present one first, and what the
passes of each have read of them, the latest pass first. -/
structure Diary where
  fleet : Fleet
  history : Nat → List ClusterSpec := fun _ => []
  rounds : Nat → List Sight := fun _ => []

namespace Diary

def next (d : Diary) (f : Fleet) : Diary where
  fleet := f
  history n := match f.controller? n with
    | none => d.history n
    | some c => if (d.history n).head? = some c.spec then d.history n else c.spec :: d.history n
  rounds := d.rounds

def handleAll (d : Diary) : List Watch.Change → Diary
  | [] => d
  | change :: rest => (d.next (d.fleet.handle change)).handleAll rest

def receive (d : Diary) (mailbox : Mailbox) : Nat → List ClusterSpec :=
  if d.fleet.cancelled then d.history else (d.handleAll mailbox.waiting).history

def step (d : Diary) (i : Nat) : Diary where
  fleet := d.fleet.step i
  history := match d.fleet.tasks[i]? with
    | some (.dispatch mailbox .unborn) => { d with fleet := d.fleet.begun }.receive mailbox
    | some (.dispatch mailbox .receiving) => d.receive mailbox
    | _ => d.history
  rounds := match d.fleet.tasks[i]? with
    | some (.loop n first state) => Function.update d.rounds n
        (d.fleet.recordLoop (d.history n).length n first state (d.rounds n)).2
    | _ => d.rounds

/-- What can happen to an operator: one of its tasks goes on, something is done to it from outside, or
somebody gives one of its controllers a spec or stops it. -/
inductive Move (d : Diary) : Diary → Prop
  | progress (i : Nat) : Move d (d.step i)
  | prompt {f : Fleet} (h : d.fleet.Prompt true f) : Move d (d.next f)
  | update (n : Nat) (spec : ClusterSpec) : Move d (d.next (d.fleet.tell n spec))
  | stop (n : Nat) : Move d (d.next (d.fleet.stop n))

structure Kept (d : Diary) : Prop where
  orderly : d.fleet.board.Orderly
  period : d.fleet.settings.interval ≠ 0
  told : ∀ n w, d.fleet.wishes[n]? = some w → (d.history n).head? = some w.spec
  unborn : ∀ n, d.fleet.wishes.length ≤ n → d.rounds n = []
  heeds : ∀ i n first state, d.fleet.loopAt i = some (n, first, state) → first = true ∧
    ∃ w, d.fleet.wishes[n]? = some w ∧ w.Heeds (d.history n).length (d.rounds n) state
  sole : ∀ i j n, d.fleet.crew i = some n → d.fleet.crew j = some n → i = j
  manned : ∀ n, n < d.fleet.wishes.length → ∃ i, d.fleet.crew i = some n
  returned : ∀ i n first, d.fleet.loopAt i = some (n, first, .finished) → d.fleet.board.Halted n

variable {d d' : Diary} {f : Fleet} {i : Nat}

/-- Nothing that a diary is about has changed. -/
theorem Kept.same (hkept : d.Kept) (hsequel : d.fleet.board.Sequel f.board)
    (hwishes : f.wishes = d.fleet.wishes) (hloops : f.loopAt = d.fleet.loopAt) :
    Kept { d with fleet := f } where
  orderly := hsequel.orderly
  period := hsequel.period hkept.period
  told n w hw := hkept.told n w (hwishes ▸ hw)
  unborn n hn := hkept.unborn n (hwishes ▸ hn)
  heeds i n first state hloop := by
    obtain ⟨hfirst, w, hw, hheeds⟩ := hkept.heeds i n first state (hloops ▸ hloop)
    exact ⟨hfirst, w, hwishes.symm ▸ hw, hheeds⟩
  sole i j n := by
    rw [Fleet.crew_congr hloops]
    exact hkept.sole i j n
  manned n hn := by
    rw [Fleet.crew_congr hloops]
    exact hkept.manned n (hwishes ▸ hn)
  returned i n first hloop := hsequel.halted n (hkept.returned i n first (hloops ▸ hloop))

/-! ## Something is done -/

/-- A spec is written down if it is not the one before. -/
theorem next_history {n : Nat} {w : Wish} (hw : f.wishes[n]? = some w) (d : Diary) :
    (d.next f).history n =
      if (d.history n).head? = some w.spec then d.history n else w.spec :: d.history n := by
  rw [Fleet.traits_getElem?] at hw
  obtain ⟨c, hc, rfl⟩ := Option.map_eq_some_iff.mp hw
  simp only [next, hc]
  rfl

/-- The last spec that was written down is the present one. -/
theorem next_told {n : Nat} {w : Wish} (hw : f.wishes[n]? = some w) (d : Diary) :
    ((d.next f).history n).head? = some w.spec := by
  rw [next_history hw]
  split_ifs with hhead
  · exact hhead
  · rfl

/-- A controller whose spec has not changed has had no other. -/
theorem Kept.next_same (hkept : d.Kept) {n : Nat} (hsame : f.wishes[n]? = d.fleet.wishes[n]?) :
    (d.next f).history n = d.history n := by
  cases hw : d.fleet.wishes[n]? with
  | some w => rw [next_history (hsame.trans hw), if_pos (hkept.told n w hw)]
  | none =>
    have hnone : f.controller? n = none := by
      rw [hw, Fleet.traits_getElem?, Option.map_eq_none_iff] at hsame
      exact hsame
    simp only [next, hnone]

theorem Kept.next_nothing (hkept : d.Kept) (hwishes : f.wishes = d.fleet.wishes) :
    d.next f = { d with fleet := f } := by
  have hhistory : (d.next f).history = d.history := funext fun n => hkept.next_same (by rw [hwishes])
  rw [← hhistory]
  rfl

/-- A controller that is left alone goes on to heed its spec. -/
theorem Kept.heeds_still (hkept : d.Kept) {n : Nat} {first : Bool} {state : Loop}
    (hloop : d.fleet.loopAt i = some (n, first, state))
    (hsame : f.wishes[n]? = d.fleet.wishes[n]?) : first = true ∧
      ∃ w, f.wishes[n]? = some w ∧ w.Heeds ((d.next f).history n).length (d.rounds n) state := by
  obtain ⟨hfirst, w, hw, hheeds⟩ := hkept.heeds i n first state hloop
  rw [hkept.next_same hsame]
  exact ⟨hfirst, w, hsame.trans hw, hheeds⟩

/-- After a controller has been accepted, a loop is its own or one that was there before. -/
theorem Kept.loop_accepted (hkept : d.Kept) (hloops : f.loopAt = Function.update d.fleet.loopAt
      d.fleet.tasks.length (some (d.fleet.wishes.length, true, .unborn))) {i n : Nat} {first : Bool}
    {state : Loop} (hloop : f.loopAt i = some (n, first, state)) :
    i = d.fleet.tasks.length ∧ n = d.fleet.wishes.length ∧ first = true ∧ state = .unborn ∨
      d.fleet.loopAt i = some (n, first, state) ∧ n < d.fleet.wishes.length := by
  rw [hloops, Function.update_apply] at hloop
  split_ifs at hloop with hi
  · cases hloop
    exact .inl ⟨hi, rfl, rfl, rfl⟩
  · obtain ⟨-, w, hw, -⟩ := hkept.heeds i n first state hloop
    exact .inr ⟨hloop, (List.getElem?_eq_some_iff.mp hw).1⟩

/-- A controller that has just been accepted owes its first pass. -/
theorem Kept.accept (hkept : d.Kept) (hsequel : d.fleet.board.Sequel f.board) {w : Wish}
    (hwishes : f.wishes = d.fleet.wishes ++ [w])
    (hloops : f.loopAt = Function.update d.fleet.loopAt d.fleet.tasks.length
      (some (d.fleet.wishes.length, true, .unborn))) : (d.next f).Kept where
  orderly := hsequel.orderly
  period := hsequel.period hkept.period
  told n w hw := next_told hw d
  unborn n hn := by
    have hn' : f.wishes.length ≤ n := hn
    rw [hwishes, List.length_append, List.length_singleton] at hn'
    exact hkept.unborn n (Nat.le_of_succ_le hn')
  heeds i n first state hloop := by
    rcases hkept.loop_accepted hloops hloop with ⟨-, rfl, rfl, rfl⟩ | ⟨hloop', hlt⟩
    · -- The number of the new controller is one that no pass was recorded under.
      have hrounds : d.rounds d.fleet.wishes.length = [] := hkept.unborn _ (Nat.le_refl _)
      have hnew : f.wishes[d.fleet.wishes.length]? = some w := by
        rw [hwishes, List.getElem?_concat_length]
      refine ⟨rfl, w, hnew, ?_⟩
      rw [show (d.next f).rounds = d.rounds from rfl, hrounds]
      exact .unborn
    · have hold : f.wishes[n]? = d.fleet.wishes[n]? := by
        rw [hwishes, List.getElem?_append_left hlt]
      exact hkept.heeds_still hloop' hold
  sole i j n hi hj := by
    obtain ⟨first, state, hi⟩ := Fleet.crew_eq_some.mp hi
    obtain ⟨first', state', hj⟩ := Fleet.crew_eq_some.mp hj
    -- The new loop is that of a controller which had none, and the old ones are that of an old one.
    rcases hkept.loop_accepted hloops hi with ⟨rfl, hn, -, -⟩ | ⟨hi', hlt⟩
    · rcases hkept.loop_accepted hloops hj with ⟨rfl, -⟩ | ⟨-, hlt⟩
      · rfl
      · omega
    · rcases hkept.loop_accepted hloops hj with ⟨-, hn, -⟩ | ⟨hj', -⟩
      · omega
      · exact hkept.sole i j n (Fleet.crew_eq_some.mpr ⟨_, _, hi'⟩) (Fleet.crew_eq_some.mpr ⟨_, _, hj'⟩)
  manned n hn := by
    have hn' : n < f.wishes.length := hn
    rw [hwishes, List.length_append, List.length_singleton] at hn'
    rcases Nat.lt_succ_iff_lt_or_eq.mp hn' with hlt | rfl
    · obtain ⟨i, hcrew⟩ := hkept.manned n hlt
      obtain ⟨first, state, hloop⟩ := Fleet.crew_eq_some.mp hcrew
      have hi := (List.getElem?_eq_some_iff.mp (Fleet.loopAt_eq_some.mp hloop)).1
      have hold : f.loopAt i = d.fleet.loopAt i := by
        rw [hloops, Function.update_of_ne (Nat.ne_of_lt hi)]
      exact ⟨i, Fleet.crew_eq_some.mpr ⟨first, state, hold.trans hloop⟩⟩
    · have hnew : f.loopAt d.fleet.tasks.length = some (d.fleet.wishes.length, true, .unborn) := by
        rw [hloops, Function.update_self]
      exact ⟨_, Fleet.crew_eq_some.mpr ⟨_, _, hnew⟩⟩
  returned i n first hloop := by
    rcases hkept.loop_accepted hloops hloop with ⟨-, -, -, hstate⟩ | ⟨hloop', -⟩
    · cases hstate
    · exact hsequel.halted n (hkept.returned i n first hloop')

/-- A controller that is given another spec owes a pass that reads it. -/
theorem Kept.update (hkept : d.Kept) (hsequel : d.fleet.board.Sequel f.board) {n : Nat} {w : Wish}
    (spec : ClusterSpec) (hw : d.fleet.wishes[n]? = some w)
    (hwishes : f.wishes = d.fleet.wishes.set n ⟨w.identity, spec, w.wake.give⟩)
    (hloops : f.loopAt = d.fleet.loopAt) : (d.next f).Kept where
  orderly := hsequel.orderly
  period := hsequel.period hkept.period
  told n w hw := next_told hw d
  unborn n hn := by
    have hn' : f.wishes.length ≤ n := hn
    rw [hwishes, List.length_set] at hn'
    exact hkept.unborn n hn'
  heeds i m first state hloop := by
    have hloop' : d.fleet.loopAt i = some (m, first, state) := hloops ▸ hloop
    by_cases hm : n = m
    · subst hm
      obtain ⟨hfirst, w', hw', hheeds⟩ := hkept.heeds i n first state hloop'
      obtain rfl : w = w' := Option.some.inj (hw.symm.trans hw')
      have hgiven : f.wishes[n]? = some ⟨w.identity, spec, w.wake.give⟩ := by
        rw [hwishes, List.getElem?_set_self (List.getElem?_eq_some_iff.mp hw).1]
      exact ⟨hfirst, _, hgiven, hheeds.given spec _ w.wake.give_isGiven _⟩
    · have hold : f.wishes[m]? = d.fleet.wishes[m]? := by rw [hwishes, List.getElem?_set_ne hm]
      exact hkept.heeds_still hloop' hold
  sole i j m := by
    rw [show (d.next f).fleet.crew = d.fleet.crew from Fleet.crew_congr hloops]
    exact hkept.sole i j m
  manned m hm := by
    have hm' : m < f.wishes.length := hm
    rw [hwishes, List.length_set] at hm'
    rw [show (d.next f).fleet.crew = d.fleet.crew from Fleet.crew_congr hloops]
    exact hkept.manned m hm'
  returned i n first hloop := hsequel.halted n (hkept.returned i n first (hloops ▸ hloop))

/-- Whatever is done to an operator, what is true of its diary stays true. -/
theorem Kept.next (hkept : d.Kept) (htells : d.fleet.Tells f)
    (hsequel : d.fleet.board.Sequel f.board) : (d.next f).Kept := by
  cases htells with
  | nothing hwishes hloops =>
    rw [hkept.next_nothing hwishes]
    exact hkept.same hsequel hwishes hloops
  | accept id spec hwishes hloops =>
    have hlength : d.fleet.controllers.length = d.fleet.wishes.length := (List.length_map _).symm
    exact hkept.accept hsequel hwishes (hlength ▸ hloops)
  | update spec hw hother hwishes hloops => exact hkept.update hsequel spec hw hwishes hloops

/-- Dealing with a change leaves the diary true. -/
theorem Kept.handle (hkept : d.Kept) (change : Watch.Change) :
    (d.next (d.fleet.handle change)).Kept :=
  hkept.next (d.fleet.handle_tells change)
    (Fleet.Occurs.acts (.handle change) hkept.orderly |>.sequel hkept.orderly)

theorem Kept.handleAll (hkept : d.Kept) (changes : List Watch.Change) : (d.handleAll changes).Kept := by
  induction changes generalizing d with
  | nil => exact hkept
  | cons change rest ih => exact ih (hkept.handle change)

theorem handleAll_fleet (d : Diary) (changes : List Watch.Change) :
    (d.handleAll changes).fleet = d.fleet.handleAll changes := by
  induction changes generalizing d with
  | nil => rfl
  | cons change rest ih => exact ih _

/-- Passes are not made while changes are dealt with. -/
theorem handleAll_rounds (d : Diary) (changes : List Watch.Change) :
    (d.handleAll changes).rounds = d.rounds := by
  induction changes generalizing d with
  | nil => rfl
  | cons change rest ih => exact ih _

end Diary

/-! ## A task goes on -/

namespace Fleet

variable {f : Fleet} {i n : Nat} {first : Bool} {state : Loop}

theorem pollLoop_tasks (f : Fleet) (n : Nat) (first : Bool) (state : Loop) :
    (f.pollLoop n first state).2.tasks = f.tasks := by
  cases hstate : state.isFinished with
  | true =>
    cases state <;> cases hstate
    rfl
  | false =>
    have htasks := congrArg Board.tasks (pollLoop_board f n first hstate)
    rw [Board.afterLoop_tasks] at htasks
    exact htasks

/-- A loop that goes on stands where its turn has left it, and the other loops stand where they were. -/
theorem step_loop_loopAt (ht : f.tasks[i]? = some (.loop n first state)) :
    (f.step i).loopAt =
      Function.update f.loopAt i (some (n, first, (f.pollLoop n first state).1)) := by
  have htasks : (f.step i).tasks = f.tasks.set i (.loop n first (f.pollLoop n first state).1) := by
    rw [← pollLoop_tasks f n first state]
    simp only [step, ht]
    rfl
  exact loopAt_set ht htasks

theorem step_loop_wishes (ht : f.tasks[i]? = some (.loop n first state)) :
    (f.step i).wishes = (f.pollLoop n first state).2.wishes := by
  simp only [step, ht]
  rfl

/-- A loop that has returned is that of a controller that is stopping. -/
theorem step_loop_returned (horderly : f.board.Orderly) (hperiod : f.settings.interval ≠ 0)
    {w : Wish} (hw : f.wishes[n]? = some w) (hstate : state.isFinished = false)
    (hfinished : (f.pollLoop n first state).1 = .finished) (i : Nat) :
    (f.step i).board.Halted n := by
  have hcancelled := pollLoop_finished hperiod hstate hfinished
  rw [traits_getElem?] at hw
  obtain ⟨c, hc, -⟩ := Option.map_eq_some_iff.mp hw
  rw [isCancelled_eq hc] at hcancelled
  exact (step_acts horderly i).halted (board_halted.mpr ⟨c, hc, hcancelled⟩)

end Fleet

namespace Diary

variable {d d' : Diary} {f : Fleet} {i : Nat}

theorem Kept.step_sequel (hkept : d.Kept) (i : Nat) : d.fleet.board.Sequel (d.fleet.step i).board :=
  (Fleet.step_acts hkept.orderly i).sequel hkept.orderly

/-- A loop that goes on stays that of its controller. -/
theorem crew_stepped {n : Nat} {first : Bool} {state state' : Loop}
    (hloop : d.fleet.loopAt i = some (n, first, state))
    (hloops : f.loopAt = Function.update d.fleet.loopAt i (some (n, first, state'))) :
    f.crew = d.fleet.crew := by
  funext j
  rw [Fleet.crew, Fleet.crew, hloops, Function.update_apply]
  split_ifs with hj
  · rw [hj, hloop]
    rfl
  · rfl

/-- After the loop of a controller has gone on, a loop is that one or that of another controller, which
is as it was. -/
theorem Kept.loop_stepped (hkept : d.Kept) {n : Nat} {first : Bool} {state state' : Loop}
    (hloop : d.fleet.loopAt i = some (n, first, state))
    (hloops : f.loopAt = Function.update d.fleet.loopAt i (some (n, first, state'))) {j m : Nat}
    {first' : Bool} {state'' : Loop} (hj : f.loopAt j = some (m, first', state'')) :
    m = n ∧ first' = first ∧ state'' = state' ∨
      n ≠ m ∧ d.fleet.loopAt j = some (m, first', state'') := by
  rw [hloops, Function.update_apply] at hj
  split_ifs at hj with hji
  · cases hj
    exact .inl ⟨rfl, rfl, rfl⟩
  · refine .inr ⟨?_, hj⟩
    rintro rfl
    exact hji (hkept.sole _ _ _ (Fleet.crew_eq_some.mpr ⟨_, _, hj⟩)
      (Fleet.crew_eq_some.mpr ⟨_, _, hloop⟩))

/-- A controller goes on to heed its spec as its loop goes on, and the others are left alone. -/
theorem Kept.progress (hkept : d.Kept) (hsequel : d.fleet.board.Sequel f.board) {n : Nat} {w : Wish}
    {wake : Signal} {first : Bool} {state state' : Loop} {sights : List Sight}
    (hloop : d.fleet.loopAt i = some (n, first, state)) (hw : d.fleet.wishes[n]? = some w)
    (hloops : f.loopAt = Function.update d.fleet.loopAt i (some (n, first, state')))
    (hwishes : f.wishes = d.fleet.wishes.set n (w.signalled wake))
    (hheeds : (w.signalled wake).Heeds (d.history n).length sights state')
    (hreturned : state' = .finished → f.board.Halted n) :
    Kept { d with fleet := f, rounds := Function.update d.rounds n sights } := by
  have hlt := (List.getElem?_eq_some_iff.mp hw).1
  have hself : f.wishes[n]? = some (w.signalled wake) := by rw [hwishes, Fleet.wishes_set_self hw]
  have hother {m : Nat} (hm : n ≠ m) : f.wishes[m]? = d.fleet.wishes[m]? := by
    rw [hwishes, List.getElem?_set_ne hm]
  have hlength : f.wishes.length = d.fleet.wishes.length := by rw [hwishes, List.length_set]
  have hcrew := crew_stepped hloop hloops
  exact {
    orderly := hsequel.orderly
    period := hsequel.period hkept.period
    told := by
      intro m w' hw'
      by_cases hm : n = m
      · subst hm
        obtain rfl := Option.some.inj (hself.symm.trans hw')
        exact hkept.told n w hw
      · exact hkept.told m w' ((hother hm).symm.trans hw')
    unborn := by
      intro m hm
      have hm' : d.fleet.wishes.length ≤ m := hlength ▸ hm
      have hne : m ≠ n := by omega
      exact (Function.update_of_ne hne _ _).trans (hkept.unborn m hm')
    heeds := by
      intro j m first' state'' hj
      rcases hkept.loop_stepped hloop hloops hj with ⟨rfl, rfl, rfl⟩ | ⟨hne, hj'⟩
      · refine ⟨(hkept.heeds i m first' state hloop).1, _, hself, ?_⟩
        dsimp only
        rw [Function.update_self]
        exact hheeds
      · obtain ⟨hfirst, w', hw', hheeds'⟩ := hkept.heeds j m first' state'' hj'
        refine ⟨hfirst, w', (hother hne).trans hw', ?_⟩
        dsimp only
        rw [Function.update_of_ne (Ne.symm hne)]
        exact hheeds'
    sole := by
      intro j k m
      rw [hcrew]
      exact hkept.sole j k m
    manned := by
      intro m hm
      rw [hcrew]
      exact hkept.manned m (hlength ▸ hm)
    returned := by
      intro j m first' hj
      rcases hkept.loop_stepped hloop hloops hj with ⟨rfl, -, hfinished⟩ | ⟨-, hj'⟩
      · exact hreturned hfinished.symm
      · exact hsequel.halted m (hkept.returned j m first' hj') }

/-- The turn of a loop leaves the diary true. -/
theorem Kept.step_loop (hkept : d.Kept) {n : Nat} {first : Bool} {state : Loop}
    (ht : d.fleet.tasks[i]? = some (.loop n first state)) : (d.step i).Kept := by
  have hloop := Fleet.loopAt_eq_some.mpr ht
  obtain ⟨-, w, hw, hheeds⟩ := hkept.heeds i n first state hloop
  have hsequel := hkept.step_sequel i
  have hstep : d.step i = { d with
      fleet := d.fleet.step i
      rounds := Function.update d.rounds n
        (d.fleet.recordLoop (d.history n).length n first state (d.rounds n)).2 } := by
    simp only [Diary.step, ht]
  obtain ⟨wake, hwishes, hheeds'⟩ := Fleet.recordLoop_heeding hw hheeds first
  rw [Fleet.recordLoop_fst] at hwishes hheeds'
  rw [← Fleet.step_loop_wishes ht] at hwishes
  rw [hstep]
  refine hkept.progress hsequel hloop hw (Fleet.step_loop_loopAt ht) hwishes hheeds' fun hfinished => ?_
  cases hstate : state.isFinished with
  | true =>
    cases state <;> cases hstate
    exact hsequel.halted n (hkept.returned i n first hloop)
  | false => exact Fleet.step_loop_returned hkept.orderly hkept.period hw hstate hfinished i

/-- A shutdown goes on, in whichever task it is. -/
theorem Kept.close (hkept : d.Kept) {t t' : Task} (ht : d.fleet.tasks[i]? = some t)
    (hloop : t.loop? = none) (hloop' : t'.loop? = none) (hproper : ∀ b : Board, b.Proper t')
    (state : Closing) : Kept { d with fleet := { (d.fleet.pollClosing state).2 with
      tasks := (d.fleet.pollClosing state).2.tasks.set i t' } } := by
  obtain ⟨-, hboard⟩ := Fleet.pollClosing_follows d.fleet state
  have htasks : (d.fleet.pollClosing state).2.tasks = d.fleet.tasks :=
    (congrArg Board.tasks hboard).trans (Board.pollClosing_tasks _ state)
  have hacts : d.fleet.board.Acts ((d.fleet.pollClosing state).2.board.setTask i t') := by
    rw [hboard]
    exact (Board.pollClosing_acts _ state).tail (Board.setTask_act i (hproper _))
  refine hkept.same (hacts.sequel hkept.orderly) ?_ (Fleet.loopAt_kept ht ?_ (hloop'.trans hloop.symm))
  · exact Fleet.pollClosing_traits (fun _ _ => rfl) (fun _ _ => rfl) (fun _ _ => rfl) d.fleet state
  · exact congrArg (·.set i t') htasks

/-- A dispatch loop goes on with its mailbox. -/
theorem Kept.receive (hkept : d.Kept) {mailbox : Mailbox} {state : Dispatching}
    (ht : d.fleet.tasks[i]? = some (.dispatch mailbox state)) :
    Kept { d with fleet := d.fleet.received i mailbox, history := d.receive mailbox } := by
  by_cases hroot : d.fleet.cancelled = true
  · -- The changes that wait are left alone.
    have hreceived : d.fleet.received i mailbox = { d.fleet with
        tasks := d.fleet.tasks.set i (.dispatch mailbox (.finished d.fleet.now)) } := by
      unfold Fleet.received
      rw [Fleet.receive_cancelled hroot]
    rw [hreceived, show d.receive mailbox = d.history from if_pos hroot]
    exact hkept.same (Board.Acts.sequel (.single (Board.setTask_act i trivial)) hkept.orderly) rfl
      (Fleet.loopAt_kept ht rfl rfl)
  · have hworks := eq_false_of_ne_true hroot
    have hhistory : d.receive mailbox = (d.handleAll mailbox.waiting).history := if_neg hroot
    have hall := hkept.handleAll mailbox.waiting
    have hfleet := d.handleAll_fleet mailbox.waiting
    have ht' : (d.handleAll mailbox.waiting).fleet.tasks[i]? = some (.dispatch mailbox state) := by
      rw [hfleet]
      exact (d.fleet.handleAll_joined mailbox.waiting).getElem? ht
    rw [hhistory, ← d.handleAll_rounds mailbox.waiting]
    by_cases hopen : mailbox.isOpen = true
    · have hreceived : d.fleet.received i mailbox = { (d.handleAll mailbox.waiting).fleet with
          tasks := (d.handleAll mailbox.waiting).fleet.tasks.set i
            (.dispatch { mailbox with waiting := [] } .receiving) } := by
        unfold Fleet.received
        rw [Fleet.receive_waits hworks hopen, hfleet]
      rw [hreceived]
      exact hall.same (Board.Acts.sequel (.single (Board.setTask_act i trivial)) hall.orderly) rfl
        (Fleet.loopAt_kept ht' rfl rfl)
    · -- No change comes any more, and the dispatch loop begins a shutdown of its own.
      have hclosed := eq_false_of_ne_true hopen
      have hwarned : Kept { d.handleAll mailbox.waiting with
          fleet := (d.handleAll mailbox.waiting).fleet.note
            (Log.warn "Event stream ended, shutting down") } :=
        hall.same (Board.Acts.sequel .refl hall.orderly) rfl rfl
      unfold Fleet.received
      rw [Fleet.receive_ends hworks hclosed, Fleet.pollDispatchClosing_eq, ← hfleet]
      refine hwarned.close ht' rfl rfl ?_ .unborn
      exact fun _ => trivial

theorem Kept.step_dispatch (hkept : d.Kept) {mailbox : Mailbox} {state : Dispatching}
    (ht : d.fleet.tasks[i]? = some (.dispatch mailbox state)) : (d.step i).Kept := by
  cases state with
  | unborn =>
    have hbegun : Kept { d with fleet := d.fleet.begun } := by
      refine hkept.same (d.fleet.begun_acts.sequel hkept.orderly) ?_
        (Fleet.loopAt_congr d.fleet.begun_tasks)
      unfold Fleet.begun
      split_ifs <;> rfl
    have hstep : d.step i = { d with
        fleet := d.fleet.begun.received i mailbox
        history := { d with fleet := d.fleet.begun }.receive mailbox } := by
      simp only [Diary.step, ht, Fleet.step_begins ht]
    rw [hstep]
    exact hbegun.receive (d.fleet.begun_tasks.symm ▸ ht)
  | receiving =>
    have hstep : d.step i = { d with
        fleet := d.fleet.received i mailbox, history := d.receive mailbox } := by
      simp only [Diary.step, ht, Fleet.step_receives ht]
    rw [hstep]
    exact hkept.receive ht
  | closing state =>
    have hstep : d.step i = { d with fleet := { (d.fleet.pollClosing state).2 with
        tasks := (d.fleet.pollClosing state).2.tasks.set i (.dispatch mailbox
          ((d.fleet.pollClosing state).1.dispatching (d.fleet.pollClosing state).2.now)) } } := by
      simp only [Diary.step, ht, Fleet.step, Fleet.run, Fleet.pollDispatch, Fleet.pollDispatchClosing_eq]
    rw [hstep]
    refine hkept.close ht rfl rfl ?_ state
    exact fun _ => trivial
  | finished moment =>
    have hstep : d.step i = d := by
      simp only [Diary.step, ht, Fleet.step_returned ht]
    rw [hstep]
    exact hkept

theorem Kept.step (hkept : d.Kept) (i : Nat) : (d.step i).Kept := by
  cases ht : d.fleet.tasks[i]? with
  | none =>
    have hstep : d.step i = d := by simp only [Diary.step, ht, Fleet.step_none ht]
    rw [hstep]
    exact hkept
  | some t =>
    have hproper := hkept.orderly.proper t (List.mem_of_getElem? ht)
    cases t with
    | loop n first state => exact hkept.step_loop ht
    | cleanUp n state =>
      have hstep : d.step i = { d with fleet := d.fleet.step i } := by simp only [Diary.step, ht]
      have hwishes : (d.fleet.step i).wishes = (d.fleet.pollCleanUp n state).2.wishes := by
        simp only [Fleet.step, ht]
        rfl
      have htasks := congrArg Board.tasks (Fleet.step_cleanUp_board ht)
      rw [Board.setTask, Board.pollCleanUp_tasks] at htasks
      rw [hstep]
      refine hkept.same (hkept.step_sequel i) (hwishes.trans ?_) (Fleet.loopAt_kept ht htasks rfl)
      exact Fleet.pollCleanUp_traits (fun _ _ => rfl) (fun _ _ => rfl) (fun _ _ => rfl) d.fleet n state
    | shutdown state =>
      have hstep : d.step i = { d with fleet := { (d.fleet.pollClosing state).2 with
          tasks := (d.fleet.pollClosing state).2.tasks.set i
            (.shutdown (d.fleet.pollClosing state).1) } } := by
        simp only [Diary.step, ht, Fleet.step, Fleet.run]
      rw [hstep]
      refine hkept.close ht rfl rfl ?_ state
      exact fun _ => trivial
    | dispatch mailbox state => exact hkept.step_dispatch ht
    | _ => exact hproper.elim

/-! ## Whole runs -/

/-- The diary of a new operator is empty. -/
theorem kept_of_fresh (hfresh : f.Fresh) (hperiod : f.settings.interval ≠ 0) :
    Kept { fleet := f } := by
  have hwishes : f.wishes = [] := congrArg (List.map Controller.wish) hfresh.controllers
  have hloops (i : Nat) : f.loopAt i = none := by
    rw [Fleet.loopAt, hfresh.tasks]
    rfl
  have hcrew (i : Nat) : f.crew i = none := by rw [Fleet.crew, hloops]; rfl
  refine ⟨Fleet.orderly_of_fresh hfresh, hperiod, fun n w hw => ?_, fun _ _ => rfl,
    fun i n first state hloop => ?_, fun i j n hi => ?_, fun n hn => ?_, fun i n first hloop => ?_⟩
  · have hw' : f.wishes[n]? = some w := hw
    rw [hwishes] at hw'
    cases hw'
  · cases (hloops i).symm.trans hloop
  · cases (hcrew i).symm.trans hi
  · have hn' : n < f.wishes.length := hn
    rw [hwishes] at hn'
    exact absurd hn' (Nat.not_lt_zero n)
  · cases (hloops i).symm.trans hloop

theorem Move.sequel (hmove : d.Move d') (hkept : d.Kept) :
    d.fleet.board.Sequel d'.fleet.board := by
  cases hmove with
  | progress i => exact hkept.step_sequel i
  | prompt h => exact (h.occurs.acts hkept.orderly).sequel hkept.orderly
  | update n spec =>
    have htold := Board.Sequel.change hkept.orderly n (g := fun c => { c with spec := spec })
      (fun _ => rfl) fun _ h => h
    rw [← Fleet.tell_board] at htold
    exact htold
  | stop n =>
    have hstopped := Board.Sequel.change hkept.orderly n (g := Card.stop) (fun _ => rfl) fun _ _ => rfl
    rw [← Fleet.stop_board] at hstopped
    exact hstopped

/-- Whatever happens, the diary stays true. -/
theorem Move.kept (hmove : d.Move d') (hkept : d.Kept) : d'.Kept := by
  have hsequel := hmove.sequel hkept
  cases hmove with
  | progress i => exact hkept.step i
  | prompt h => exact hkept.next h.tells hsequel
  | update n spec => exact hkept.next (d.fleet.tell_tells n spec) hsequel
  | stop n => exact hkept.next (.nothing (Fleet.stop_traits (fun _ _ => rfl) d.fleet n)
      (Fleet.loopAt_congr (d.fleet.stop_tasks n))) hsequel

theorem runs_kept (hruns : Relation.ReflTransGen Move d d') (hkept : d.Kept) : d'.Kept := by
  induction hruns with
  | refl => exact hkept
  | tail _ hmove ih => exact hmove.kept ih

/-! ## The loop of a controller -/

variable {n : Nat} {c : Controller}

/-- A controller has one loop. -/
theorem Kept.loop (hkept : d.Kept) (hc : d.fleet.controller? n = some c) :
    ∃ (i : Nat) (state : Loop), d.fleet.tasks[i]? = some (.loop n true state) ∧
      (∀ (j : Nat) (first : Bool) (state' : Loop),
        d.fleet.tasks[j]? = some (.loop n first state') → j = i) ∧
      c.wish.Heeds (d.history n).length (d.rounds n) state := by
  have hw := Fleet.wishes_getElem? hc
  obtain ⟨i, hcrew⟩ := hkept.manned n (List.getElem?_eq_some_iff.mp hw).1
  obtain ⟨first, state, hloop⟩ := Fleet.crew_eq_some.mp hcrew
  obtain ⟨rfl, w, hw', hheeds⟩ := hkept.heeds i n first state hloop
  obtain rfl : c.wish = w := Option.some.inj (hw.symm.trans hw')
  refine ⟨i, state, Fleet.loopAt_eq_some.mp hloop, fun j first state' hj => ?_, hheeds⟩
  have hcrew' := Fleet.crew_eq_some.mpr ⟨first, state', Fleet.loopAt_eq_some.mpr hj⟩
  exact hkept.sole j i n hcrew' hcrew

/-- The loop of a controller that nobody has cancelled goes on. -/
theorem Kept.runs_on (hkept : d.Kept) (hc : d.fleet.controller? n = some c)
    (hworks : c.cancelled = false) {first : Bool} {state : Loop}
    (ht : d.fleet.tasks[i]? = some (.loop n first state)) : state ≠ .finished := by
  rintro rfl
  obtain ⟨c', hc', hcancelled⟩ := Fleet.board_halted.mp (hkept.returned i n first
    (Fleet.loopAt_eq_some.mpr ht))
  obtain rfl : c = c' := Option.some.inj (hc.symm.trans hc')
  cases hcancelled.symm.trans hworks

/-- The turn of a loop is what is recorded of its passes. -/
theorem step_loop_rounds {first : Bool} {state : Loop}
    (ht : d.fleet.tasks[i]? = some (.loop n first state)) : (d.step i).rounds n =
      (d.fleet.recordLoop (d.history n).length n first state (d.rounds n)).2 := by
  simp only [step, ht, Function.update_self]

theorem step_loop_task {first : Bool} {state : Loop}
    (ht : d.fleet.tasks[i]? = some (.loop n first state)) :
    (d.step i).fleet.tasks[i]? = some (.loop n first (d.fleet.pollLoop n first state).1) := by
  have hloops : (d.step i).fleet.loopAt = _ := Fleet.step_loop_loopAt ht
  exact Fleet.loopAt_eq_some.mp (by rw [hloops, Function.update_self])

end Diary
end NatsFleet
