import NatsFleet.Proofs.Board

/-!
The life of a controller's stop, as far as its end is concerned: the controller works, it is called to
stop, somebody waits for its loop, and the wait is over.
-/
namespace NatsFleet

def stamp (moment : Option Nat) (flag : Bool) (now : Nat) : Option Nat :=
  moment.or (if flag then some now else none)

/-- A flag that has come up by now has been up since the stamp, or since now. -/
theorem stamp_or (moment : Option Nat) (flag : Bool) (now : Nat) :
    (stamp moment flag now).or (some now) = stamp moment true now := by
  cases moment with
  | none => cases flag <;> rfl
  | some x => rfl

theorem stamp_stamp (moment : Option Nat) (flag : Bool) (now : Nat) :
    stamp (stamp moment flag now) flag now = stamp moment flag now := by
  cases moment with
  | none => cases flag <;> rfl
  | some x => rfl

theorem stamp_eq {moment : Option Nat} {flag : Bool} (h : flag = true → moment.isSome = true)
    (now : Nat) : stamp moment flag now = moment := by
  cases moment with
  | none =>
    cases flag with
    | false => rfl
    | true => cases h rfl
  | some x => rfl

def stopEnd (grace : Nat) (returned : Option Nat) (began : Nat) : Nat :=
  match returned with
  | none => began + grace
  | some moment => min moment (began + grace)

/-- No stop lasts longer than the grace period. -/
theorem stopEnd_le (grace : Nat) (returned : Option Nat) (began : Nat) :
    stopEnd grace returned began ≤ began + grace := by
  cases returned with
  | none => exact Nat.le_refl _
  | some moment => exact Nat.min_le_right _ _

/-- Where the stop of a controller stands, given the states of the stops that ask for it, and since
when its loop has returned and somebody has waited for that. -/
inductive Account (now grace : Nat) (held : Prop) (asks : Stopping → Prop) (c : Card)
    (returned began : Option Nat) : Prop
  | working (hheld : held) (hcancelled : c.cancelled = false) (hdone : c.done = false)
      (hawaited : c.awaited = false) (hsupervised : c.supervised = true)
      (hasks : ∀ state, asks state → state = .unborn) (hreturned : returned = none)
      (hbegan : began = none)
  | called (hcancelled : c.cancelled = true) (hawaited : c.awaited = false)
      (hsupervised : c.supervised = true) (hunborn : asks .unborn)
      (hasks : ∀ state, asks state → state = .unborn)
      (hreturned : returned = if c.done then some now else none) (hbegan : began = none)
  | awaited (x : Nat) (hcancelled : c.cancelled = true) (hawaited : c.awaited = true)
      (hsupervised : c.supervised = true) (hwaits : asks (.waiting (x + grace)))
      (hasks : ∀ deadline, asks (.waiting deadline) → deadline = x + grace)
      (hreturned : returned = if c.done then some now else none) (hbegan : began = some x)
      (hpast : x ≤ now) (htimely : now ≤ x + grace)
  | ended (x : Nat) (hcancelled : c.cancelled = true) (hawaited : c.awaited = true)
      (hsupervised : c.supervised = false)
      (hasks : ∀ deadline, asks (.waiting deadline) → deadline = x + grace)
      (hreturned : returned.isSome = c.done) (hbegan : began = some x)
      (hpast : x ≤ now) (hended : stopEnd grace returned x ≤ now)

namespace Account

variable {now grace : Nat} {held : Prop} {asks asks' : Stopping → Prop} {c : Card}
  {returned began : Option Nat}

/-- The stop that somebody waits for goes on. -/
theorem waits {x : Nat} (hcancelled : c.cancelled = true) (hawaited : c.awaited = true)
    (hsupervised : c.supervised = true)
    (hreturned : returned = if c.done then some now else none) (hbegan : began = some x)
    (hpast : x ≤ now) (htimely : now ≤ x + grace) (hnew : asks' (c.check now (x + grace)).1)
    (hasks : ∀ deadline, asks' (.waiting deadline) → deadline = x + grace) :
    Account now grace held asks' (c.check now (x + grace)).2 returned began := by
  unfold Card.check at hnew ⊢
  split_ifs at hnew ⊢ with hover hlate
  · -- The loop has returned at this very moment.
    rw [if_pos hover] at hreturned
    refine .ended x hcancelled hawaited rfl hasks ?_ hbegan hpast ?_
    · rw [hreturned]
      exact hover.symm
    · rw [hreturned]
      exact Nat.min_le_left _ _
  · -- Time is up, and the loop has not returned yet.
    rw [if_neg hover] at hreturned
    refine .ended x hcancelled hawaited rfl hasks ?_ hbegan hpast ?_
    · rw [hreturned]
      exact (eq_false_of_ne_true hover).symm
    · rw [hreturned]
      exact hlate
  · exact .awaited x hcancelled hawaited hsupervised hnew hasks hreturned hbegan hpast htimely

/-- A stop that asks for the controller goes on, and the others stay as they are. -/
theorem poll (h : Account now grace held asks c returned began) {state : Stopping} (hstate : asks state)
    (hnew : asks' (c.poll now grace state).1) (hkeep : ∀ s, asks s → s ≠ state → asks' s)
    (hback : ∀ s, asks' s → asks s ∨ s = (c.poll now grace state).1) :
    Account now grace held asks' (c.poll now grace state).2 returned (began.or (some now)) := by
  -- The first stop to go on begins to wait, whether the controller has been called before or not.
  have hfirst (hawaited : c.awaited = false) (hsupervised : c.supervised = true)
      (hasks : ∀ state, asks state → state = .unborn)
      (hreturned : returned = if c.done then some now else none) (hbegan : began = none) :
      Account now grace held asks' (c.poll now grace state).2 returned (began.or (some now)) := by
    obtain rfl := hasks state hstate
    have hpoll : c.poll now grace .unborn = c.stop.await.check now (now + grace) := by
      rw [Card.poll, hawaited]
      rfl
    rw [hpoll] at hnew hback ⊢
    refine waits rfl rfl hsupervised hreturned (by rw [hbegan]; rfl) (Nat.le_refl now)
      (Nat.le_add_right _ _) hnew fun deadline hd => ?_
    have hwaiting := (hback _ hd).resolve_left fun hold => by cases hasks _ hold
    exact Card.check_waiting hwaiting.symm
  cases h with
  | working hheld hcancelled hdone hawaited hsupervised hasks hreturned hbegan =>
    exact hfirst hawaited hsupervised hasks (by rw [hreturned, hdone]; rfl) hbegan
  | called hcancelled hawaited hsupervised hunborn hasks hreturned hbegan =>
    exact hfirst hawaited hsupervised hasks hreturned hbegan
  | awaited x hcancelled hawaited hsupervised hwaits hasks hreturned hbegan hpast htimely =>
    have hbegan' : began.or (some now) = some x := by rw [hbegan]; rfl
    cases state with
    | unborn =>
      -- A second stop does not wait, since somebody does already.
      rw [Card.poll, if_pos hawaited] at hback ⊢
      exact .awaited x rfl hawaited hsupervised (hkeep _ hwaits nofun)
        (fun deadline hd => hasks deadline ((hback _ hd).resolve_right nofun)) hreturned hbegan' hpast
        htimely
    | waiting deadline =>
      obtain rfl := hasks deadline hstate
      exact waits hcancelled hawaited hsupervised hreturned hbegan' hpast htimely hnew
        fun deadline hd => (hback _ hd).elim (hasks deadline) fun h => Card.check_waiting h.symm
    | «over» outcome =>
      exact .awaited x hcancelled hawaited hsupervised (hkeep _ hwaits nofun)
        (fun deadline hd => hasks deadline ((hback _ hd).resolve_right nofun)) hreturned hbegan' hpast
        htimely
  | ended x hcancelled hawaited hsupervised hasks hreturned hbegan hpast hended =>
    have hbegan' : began.or (some now) = some x := by rw [hbegan]; rfl
    cases state with
    | unborn =>
      rw [Card.poll, if_pos hawaited] at hback ⊢
      exact .ended x rfl hawaited hsupervised
        (fun deadline hd => hasks deadline ((hback _ hd).resolve_right nofun)) hreturned hbegan' hpast
        hended
    | waiting deadline =>
      obtain rfl := hasks deadline hstate
      have hasks' (deadline : Nat) (hd : asks' (.waiting deadline)) : deadline = x + grace :=
        (hback _ hd).elim (hasks deadline) fun h => Card.check_waiting h.symm
      -- Another one waits still: it finds nothing left to complete.
      obtain ⟨hcancelled', hawaited', hreleased, hdone⟩ := Card.check_keeps
        (P := fun c' => c'.cancelled = true ∧ c'.awaited = true ∧ c'.supervised = false ∧
          c'.done = c.done)
        (fun _ h => ⟨h.1, h.2.1, rfl, h.2.2.2⟩) ⟨hcancelled, hawaited, hsupervised, rfl⟩ now (x + grace)
      exact .ended x hcancelled' hawaited' hreleased hasks' (hreturned.trans hdone.symm) hbegan' hpast
        hended
    | «over» outcome =>
      exact .ended x hcancelled hawaited hsupervised
        (fun deadline hd => hasks deadline ((hback _ hd).resolve_right nofun)) hreturned hbegan' hpast
        hended

/-- A loop returns only after its controller has been cancelled, and the account notes the moment. -/
theorem finish (h : Account now grace held asks c returned began) (hcalled : c.cancelled = true) :
    Account now grace held asks c.finish (returned.or (some now)) began := by
  cases h with
  | working hheld hcancelled => exact absurd hcalled (by simp [hcancelled])
  | called hcancelled hawaited hsupervised hunborn hasks hreturned hbegan =>
    refine .called hcancelled hawaited hsupervised hunborn hasks ?_ hbegan
    rw [hreturned]
    cases c.done <;> rfl
  | awaited x hcancelled hawaited hsupervised hwaits hasks hreturned hbegan hpast htimely =>
    refine .awaited x hcancelled hawaited hsupervised hwaits hasks ?_ hbegan hpast htimely
    rw [hreturned]
    cases c.done <;> rfl
  | ended x hcancelled hawaited hsupervised hasks hreturned hbegan hpast hended =>
    cases returned with
    | none => exact .ended x hcancelled hawaited hsupervised hasks rfl hbegan hpast (Nat.min_le_left _ _)
    | some moment => exact .ended x hcancelled hawaited hsupervised hasks rfl hbegan hpast hended

/-- Time goes by while no stop has anything to do. -/
theorem elapse (h : Account now grace held asks c returned began) {moment : Nat} (hlater : now ≤ moment)
    (hunborn : ¬ asks .unborn)
    (hwaits : ∀ deadline, asks (.waiting deadline) → c.done = false ∧ moment ≤ deadline) :
    Account moment grace held asks c returned began := by
  cases h with
  | working hheld hcancelled hdone hawaited hsupervised hasks hreturned hbegan =>
    exact .working hheld hcancelled hdone hawaited hsupervised hasks hreturned hbegan
  -- The stop that was called has yet to begin, which takes no time.
  | called _ _ _ hcalls => exact absurd hcalls hunborn
  | awaited x hcancelled hawaited hsupervised hwaiting hasks hreturned hbegan hpast htimely =>
    obtain ⟨hdone, htimely'⟩ := hwaits _ hwaiting
    refine .awaited x hcancelled hawaited hsupervised hwaiting hasks ?_ hbegan
      (Nat.le_trans hpast hlater) htimely'
    rw [hreturned, hdone]
    rfl
  | ended x hcancelled hawaited hsupervised hasks hreturned hbegan hpast hended =>
    exact .ended x hcancelled hawaited hsupervised hasks hreturned hbegan (Nat.le_trans hpast hlater)
      (Nat.le_trans hended hlater)

/-- Stops that are over may go, and new ones may come. -/
theorem arrange (h : Account now grace held asks c returned began) {held' : Prop}
    (hheld : c.cancelled = false → held → held')
    (hkeep : ∀ state, asks state → state.isOver = false → asks' state)
    (hback : ∀ state, asks' state → asks state ∨ state = .unborn) :
    Account now grace held' asks' c returned began := by
  have hwaiting : ∀ deadline, asks' (.waiting deadline) → asks (.waiting deadline) :=
    fun deadline hd => (hback _ hd).resolve_right nofun
  cases h with
  | working hold hcancelled hdone hawaited hsupervised hasks hreturned hbegan =>
    refine .working (hheld hcancelled hold) hcancelled hdone hawaited hsupervised ?_ hreturned hbegan
    exact fun state hs => (hback state hs).elim (hasks state) id
  | called hcancelled hawaited hsupervised hunborn hasks hreturned hbegan =>
    refine .called hcancelled hawaited hsupervised (hkeep _ hunborn rfl) ?_ hreturned hbegan
    exact fun state hs => (hback state hs).elim (hasks state) id
  | awaited x hcancelled hawaited hsupervised hwaits hasks hreturned hbegan hpast htimely =>
    exact .awaited x hcancelled hawaited hsupervised (hkeep _ hwaits rfl)
      (fun deadline hd => hasks deadline (hwaiting deadline hd)) hreturned hbegan hpast htimely
  | ended x hcancelled hawaited hsupervised hasks hreturned hbegan hpast hended =>
    exact .ended x hcancelled hawaited hsupervised
      (fun deadline hd => hasks deadline (hwaiting deadline hd)) hreturned hbegan hpast hended

/-- A controller is stopped by whoever begins to ask for it. -/
theorem stop (h : Account now grace held asks c returned began) (hasked : asks .unborn) :
    Account now grace held asks c.stop returned began := by
  cases h with
  | working hheld hcancelled hdone hawaited hsupervised hasks hreturned hbegan =>
    refine .called rfl hawaited hsupervised hasked hasks ?_ hbegan
    have hdone' : c.stop.done = false := hdone
    rw [hreturned, hdone']
    rfl
  | called hcancelled hawaited hsupervised hunborn hasks hreturned hbegan =>
    exact .called rfl hawaited hsupervised hunborn hasks hreturned hbegan
  | awaited x hcancelled hawaited hsupervised hwaits hasks hreturned hbegan hpast htimely =>
    exact .awaited x rfl hawaited hsupervised hwaits hasks hreturned hbegan hpast htimely
  | ended x hcancelled hawaited hsupervised hasks hreturned hbegan hpast hended =>
    exact .ended x rfl hawaited hsupervised hasks hreturned hbegan hpast hended

theorem respec (h : Account now grace held asks c returned began) (spec : ClusterSpec) :
    Account now grace held asks { c with spec := spec } returned began := by
  cases h with
  | working hheld hcancelled hdone hawaited hsupervised hasks hreturned hbegan =>
    exact .working hheld hcancelled hdone hawaited hsupervised hasks hreturned hbegan
  | called hcancelled hawaited hsupervised hunborn hasks hreturned hbegan =>
    exact .called hcancelled hawaited hsupervised hunborn hasks hreturned hbegan
  | awaited x hcancelled hawaited hsupervised hwaits hasks hreturned hbegan hpast htimely =>
    exact .awaited x hcancelled hawaited hsupervised hwaits hasks hreturned hbegan hpast htimely
  | ended x hcancelled hawaited hsupervised hasks hreturned hbegan hpast hended =>
    exact .ended x hcancelled hawaited hsupervised hasks hreturned hbegan hpast hended

/-- A controller that has not been cancelled still counts for whoever shuts down. -/
theorem held_of_works (h : Account now grace held asks c returned began) (hworks : c.cancelled = false) :
    held := by
  cases h with
  | working hheld => exact hheld
  | called hcancelled => exact absurd hworks (by simp [hcancelled])
  | awaited _ hcancelled => exact absurd hworks (by simp [hcancelled])
  | ended _ hcancelled => exact absurd hworks (by simp [hcancelled])

/-- A controller that a stop is over for has been called. -/
theorem cancelled_of_over (h : Account now grace held asks c returned began) {outcome : StopOutcome}
    (hover : asks (.over outcome)) : c.cancelled = true := by
  cases h with
  | working _ _ _ _ _ hasks => cases hasks _ hover
  | called hcancelled => exact hcancelled
  | awaited x hcancelled => exact hcancelled
  | ended x hcancelled => exact hcancelled

theorem awaited_of_asked (h : Account now grace held asks c returned began) {state : Stopping}
    (hstate : asks state) : c.awaited = true ∨ state = .unborn := by
  cases h with
  | working _ _ _ _ _ hasks => exact .inr (hasks state hstate)
  | called _ _ _ _ hasks => exact .inr (hasks state hstate)
  | awaited x _ hawaited => exact .inl hawaited
  | ended x _ hawaited => exact .inl hawaited

/-- A stop that is complete has been waited for, and its end has come. -/
theorem released (h : Account now grace held asks c returned began) (hreleased : c.supervised = false) :
    c.cancelled = true ∧ ∃ x, began = some x ∧ stopEnd grace returned x ≤ now := by
  cases h with
  | working _ _ _ _ hsupervised => exact absurd hreleased (by simp [hsupervised])
  | called _ _ hsupervised => exact absurd hreleased (by simp [hsupervised])
  | awaited _ _ _ hsupervised => exact absurd hreleased (by simp [hsupervised])
  | ended x hcancelled _ _ _ _ hbegan _ hended => exact ⟨hcancelled, x, hbegan, hended⟩

/-- A stop that is not complete is of a registered controller, or somebody deals with it. -/
theorem referenced (h : Account now grace held asks c returned began)
    (hsupervised : c.supervised = true) : held ∨ ∃ state, asks state ∧ state.isOver = false := by
  cases h with
  | working hheld => exact .inl hheld
  | called _ _ _ hunborn => exact .inr ⟨_, hunborn, rfl⟩
  | awaited x _ _ _ hwaits => exact .inr ⟨_, hwaits, rfl⟩
  | ended x _ _ hreleased => exact absurd hsupervised (by simp [hreleased])

end Account
end NatsFleet
