import NatsFleet.Fleet.Task
import NatsFleet.Proofs.Keys
import Mathlib.Data.List.Basic

/-!
What an operator goes by when it deals with clusters and stops: its registry, its tasks, and the few
facts about each controller that decide anything.
-/
namespace NatsFleet

structure Card where
  key : ClusterKey
  spec : ClusterSpec
  cancelled : Bool
  done : Bool
  awaited : Bool
  supervised : Bool

namespace Card

def stop (c : Card) : Card := { c with cancelled := true }

def await (c : Card) : Card := { c with awaited := true }

def release (c : Card) : Card := { c with supervised := false }

def finish (c : Card) : Card := { c with done := true }

def check (c : Card) (now deadline : Nat) : Stopping × Card :=
  if c.done then (.over .stopped, c.release)
  else if deadline ≤ now then (.over .timedOut, c.release)
  else (.waiting deadline, c)

def poll (c : Card) (now grace : Nat) : Stopping → Stopping × Card
  | .unborn =>
    if c.awaited then (.over .alreadyStopping, c.stop)
    else c.stop.await.check now (now + grace)
  | .waiting deadline => c.check now deadline
  | .over outcome => (.over outcome, c)

def ofCluster (c : Cluster) (cancelled : Bool) : Card :=
  ⟨c.key, c.spec, cancelled, false, false, true⟩

/-- A stop that goes on waiting keeps its deadline. -/
theorem check_waiting {c : Card} {now deadline deadline' : Nat}
    (h : (c.check now deadline).1 = .waiting deadline') : deadline' = deadline := by
  unfold check at h
  split_ifs at h
  exact (Stopping.waiting.inj h).symm

/-- Looking at a card does at most complete its stop. -/
theorem check_keeps {P : Card → Prop} (hrelease : ∀ c, P c → P c.release) {c : Card} (h : P c)
    (now deadline : Nat) : P (c.check now deadline).2 := by
  unfold check
  split_ifs
  · exact hrelease c h
  · exact hrelease c h
  · exact h

/-- A stop that goes on cancels a controller, waits for its loop or completes, and does nothing else. -/
theorem poll_keeps {P : Card → Prop} (hstop : ∀ c, P c → P c.stop) (hawait : ∀ c, P c → P c.await)
    (hrelease : ∀ c, P c → P c.release) {c : Card} (h : P c) (now grace : Nat) (state : Stopping) :
    P (c.poll now grace state).2 := by
  cases state with
  | unborn =>
    unfold poll
    split_ifs
    · exact hstop c h
    · exact check_keeps hrelease (hawait _ (hstop c h)) _ _
  | waiting deadline => exact check_keeps hrelease h _ _
  | «over» outcome => exact h

@[simp] theorem check_cancelled (c : Card) (now deadline : Nat) :
    (c.check now deadline).2.cancelled = c.cancelled :=
  check_keeps (P := fun c' => c'.cancelled = c.cancelled) (fun _ h => h) rfl _ _

@[simp] theorem poll_key (c : Card) (now grace : Nat) (state : Stopping) :
    (c.poll now grace state).2.key = c.key :=
  poll_keeps (P := fun c' => c'.key = c.key) (fun _ h => h) (fun _ h => h) (fun _ h => h) rfl _ _ _

@[simp] theorem poll_spec (c : Card) (now grace : Nat) (state : Stopping) :
    (c.poll now grace state).2.spec = c.spec :=
  poll_keeps (P := fun c' => c'.spec = c.spec) (fun _ h => h) (fun _ h => h) (fun _ h => h) rfl _ _ _

@[simp] theorem poll_done (c : Card) (now grace : Nat) (state : Stopping) :
    (c.poll now grace state).2.done = c.done :=
  poll_keeps (P := fun c' => c'.done = c.done) (fun _ h => h) (fun _ h => h) (fun _ h => h) rfl _ _ _

/-- A stop that is complete stays complete. -/
theorem poll_released (c : Card) (now grace : Nat) (state : Stopping) (h : c.supervised = false) :
    (c.poll now grace state).2.supervised = false :=
  poll_keeps (P := fun c' => c'.supervised = false) (fun _ h => h) (fun _ h => h) (fun _ _ => rfl) h
    _ _ _

/-- A stop never starts a controller again. -/
theorem poll_cancelled (c : Card) (now grace : Nat) (state : Stopping)
    (h : c.cancelled = true) : (c.poll now grace state).2.cancelled = true :=
  poll_keeps (P := fun c' => c'.cancelled = true) (fun _ _ => rfl) (fun _ h => h) (fun _ h => h) h
    _ _ _

/-- A stop begins by cancelling the controller. -/
theorem poll_unborn_cancelled (c : Card) (now grace : Nat) :
    (c.poll now grace .unborn).2.cancelled = true := by
  unfold poll
  split_ifs
  · rfl
  · rw [check_cancelled]
    rfl

/-- From its first turn on somebody waits for the loop. -/
theorem poll_awaited (c : Card) (now grace : Nat) {state : Stopping}
    (h : c.awaited = true ∨ state = .unborn) : (c.poll now grace state).2.awaited = true := by
  rcases h with hawaited | rfl
  · exact poll_keeps (P := fun c' => c'.awaited = true) (fun _ h => h) (fun _ _ => rfl)
      (fun _ h => h) hawaited _ _ _
  · unfold poll
    split_ifs with hawaited
    · exact hawaited
    · exact check_keeps (P := fun c' => c'.awaited = true) (fun _ h => h) rfl _ _

end Card

def Controller.card (c : Controller) : Card :=
  ⟨c.key, c.spec, c.cancelled, c.done, c.awaited, c.supervised⟩

structure Board where
  settings : Settings
  now : Nat
  phase : FleetPhase
  cancelled : Bool
  registry : Registry
  cards : List Card
  tasks : List Task

def Fleet.board (f : Fleet) : Board where
  settings := f.settings
  now := f.now
  phase := f.phase
  cancelled := f.cancelled
  registry := f.registry
  cards := f.controllers.map Controller.card
  tasks := f.tasks

def Loop.isFinished : Loop → Bool
  | .finished => true
  | _ => false

namespace Board

variable (b : Board)

def change (n : Nat) (g : Card → Card) : Board := { b with cards := b.cards.modify n g }

def isCancelled (n : Nat) : Bool := (b.cards[n]?).all (·.cancelled)

def spawn (t : Task) : Board := { b with tasks := b.tasks ++ [t] }

def setTask (i : Nat) (t : Task) : Board := { b with tasks := b.tasks.set i t }

/-- What a loop that goes on does to what the operator goes by: nothing until it returns, and then
the first loop of a controller tells so. -/
def afterLoop (n : Nat) (first : Bool) (state : Loop) : Board :=
  if state.isFinished && first then b.change n Card.finish else b

def pollStop (n grace : Nat) (state : Stopping) : Stopping × Board :=
  (match b.cards[n]?, state with
    | _, .over outcome => .over outcome
    | none, _ => .over .stopped
    | some c, state => (c.poll b.now grace state).1,
   b.change n fun c => (c.poll b.now grace state).2)

def pollStops (b : Board) (grace : Nat) : List (Nat × Stopping) → List (Nat × Stopping) × Board
  | [] => ([], b)
  | (n, state) :: rest =>
    let polled := b.pollStop n grace state
    let more := pollStops polled.2 grace rest
    ((n, polled.1) :: more.1, more.2)

def unregister (n : Nat) : Board :=
  match b.cards[n]? with
  | none => b
  | some c => { b with registry := (b.registry.removeController c.key n).2 }

def pollCleanUp (n : Nat) (state : Stopping) : Stopping × Board :=
  let polled := b.pollStop n b.settings.grace state
  (polled.1, if polled.1.isOver && !state.isOver then polled.2.unregister n else polled.2)

def isDrained : Bool :=
  (List.range b.cards.length).all fun n =>
    !((b.cards[n]?).any (·.supervised) &&
      (b.registry.snapshot.contains n || b.tasks.any fun t => t.controllers.contains n))

def shut : Board :=
  { b with cancelled := true, cards := b.cards.map Card.stop, phase := .stopped }

def drain (controllers : List Nat) : Closing × Board :=
  if b.isDrained then (.finished b.now, b.shut) else (.draining controllers, b)

def join (stops : List (Nat × Stopping)) : Closing × Board :=
  let polled := b.pollStops b.settings.grace stops
  if polled.1.all fun s => s.2.isOver then polled.2.drain (polled.1.map (·.1))
  else (.joining polled.1, polled.2)

def pollClosing : Closing → Closing × Board
  | .unborn =>
    if b.phase.isClosed then (.finished b.now, b)
    else { b with phase := .shuttingDown }.join (b.registry.snapshot.map fun n => (n, .unborn))
  | .joining stops => b.join stops
  | .draining controllers => b.drain controllers
  | .finished moment => (.finished moment, b)

def add (c : Cluster) : Board :=
  if b.phase.isClosed || b.registry.holds b.isCancelled c.key then b
  else { b with
    registry := ⟨b.registry.entries.put c.key b.cards.length⟩
    cards := b.cards ++ [Card.ofCluster c b.cancelled]
    tasks := b.tasks ++ [.loop b.cards.length true .unborn] }

def active? (k : ClusterKey) : Option Nat :=
  match b.registry.find? k with
  | none => none
  | some n => if b.isCancelled n then none else some n

def update (c : Cluster) : Board :=
  match b.active? c.key with
  | none => b.add c
  | some n => b.change n fun card => { card with spec := c.spec }

def delete (c : Cluster) : Board :=
  match b.registry.find? c.key with
  | none => b
  | some n => (b.change n Card.stop).spawn (.cleanUp n .unborn)

def handle (change : Watch.Change) : Board :=
  if b.phase.isClosed then b
  else match change with
    | .added c => b.add c
    | .updated _ c => b.update c
    | .deleted c => b.delete c

@[simp] theorem change_id (n : Nat) : b.change n id = b := by
  simp [change]

theorem change_none {n : Nat} (h : b.cards[n]? = none) (g : Card → Card) : b.change n g = b := by
  rw [change, List.modify_eq_self (List.getElem?_eq_none_iff.mp h)]

theorem change_change (n : Nat) (g g' : Card → Card) :
    (b.change n g).change n g' = b.change n (g' ∘ g) := by
  rw [change, change, change, List.modify_modify_eq]

/-- A change of one controller is no change of the others. -/
theorem cards_change (n m : Nat) (g : Card → Card) :
    (b.change n g).cards[m]? = if n = m then (b.cards[m]?).map g else b.cards[m]? := by
  by_cases hm : n = m
  · subst hm
    simp [change]
  · simp [change, hm]

/-- What holds of every controller after one has changed. -/
theorem forall_change {n : Nat} {g : Card → Card} {P : Nat → Card → Prop}
    (hn : ∀ c, b.cards[n]? = some c → P n (g c))
    (hothers : ∀ m c, n ≠ m → b.cards[m]? = some c → P m c) (m : Nat) (c : Card)
    (hc : (b.change n g).cards[m]? = some c) : P m c := by
  rw [cards_change] at hc
  split_ifs at hc with hm
  · subst hm
    obtain ⟨c', hc', rfl⟩ := Option.map_eq_some_iff.mp hc
    exact hn c' hc'
  · exact hothers m c hm hc

@[simp] theorem change_length (n : Nat) (g : Card → Card) :
    (b.change n g).cards.length = b.cards.length := List.length_modify _ _ _

variable {b} {n : Nat} {c : Card}

/-- What is in a place already can be put there. -/
theorem set_same {α : Type} {l : List α} {a : α} (h : l[n]? = some a) : l.set n a = l := by
  obtain ⟨hlt, rfl⟩ := List.getElem?_eq_some_iff.mp h
  exact List.set_getElem_self hlt

theorem map_modify {α β : Type} (l : List α) (n : Nat) {f : α → β} {g : α → α} {g' : β → β}
    (h : ∀ a, f (g a) = g' (f a)) : (l.modify n g).map f = (l.map f).modify n g' := by
  ext1 m
  simp only [List.getElem?_map, List.getElem?_modify]
  cases l[m]? with
  | none => rfl
  | some a =>
    by_cases hm : n = m
    · simp [hm, h]
    · simp [hm]

/-- What the change of a controller leaves as it is. -/
theorem map_change {α : Type} (b : Board) (n : Nat) {g : Card → Card} {f : Card → α}
    (hg : ∀ c, f (g c) = f c) : (b.change n g).cards.map f = b.cards.map f := by
  have hmodify : (b.cards.modify n g).map f = (b.cards.map f).modify n id := map_modify _ _ hg
  exact hmodify.trans (List.modify_id n _)

theorem unregister_cards (b : Board) (n : Nat) : (b.unregister n).cards = b.cards := by
  unfold unregister
  split <;> rfl

theorem change_congr (hc : b.cards[n]? = some c) {g g' : Card → Card} (h : g c = g' c) :
    b.change n g = b.change n g' := by
  have hcards : b.cards.modify n g = b.cards.modify n g' := by
    ext1 m
    by_cases hm : n = m
    · subst hm
      simp [hc, h]
    · simp [hm]
  rw [change, change, hcards]

theorem isCancelled_eq (hc : b.cards[n]? = some c) : b.isCancelled n = c.cancelled := by
  rw [isCancelled, hc]
  rfl

/-- A stop goes by the card of its controller, and changes this one only. -/
theorem pollStop_eq (hc : b.cards[n]? = some c) (grace : Nat) (state : Stopping) :
    b.pollStop n grace state =
      ((c.poll b.now grace state).1, b.change n fun _ => (c.poll b.now grace state).2) := by
  unfold pollStop
  rw [hc]
  refine Prod.ext ?_ (change_congr hc rfl)
  cases state <;> rfl

theorem cards_pollStop (b : Board) (n m grace : Nat) (state : Stopping) :
    (b.pollStop n grace state).2.cards[m]? =
      if n = m then (b.cards[m]?).map fun c => (c.poll b.now grace state).2 else b.cards[m]? :=
  b.cards_change n m _

theorem pollStop_cards (b : Board) (n grace : Nat) (state : Stopping) :
    (b.pollStop n grace state).2.cards[n]? =
      (b.cards[n]?).map fun c => (c.poll b.now grace state).2 :=
  (b.cards_pollStop n n grace state).trans (if_pos rfl)

@[simp] theorem pollStop_over (b : Board) (n grace : Nat) (outcome : StopOutcome) :
    b.pollStop n grace (.over outcome) = (.over outcome, b) :=
  Prod.ext (by unfold pollStop; cases b.cards[n]? <;> rfl) (b.change_id n)

/-- A clean-up is the stop of its controller, after which the controller may be unregistered. -/
theorem pollCleanUp_snd (b : Board) (n : Nat) (state : Stopping) :
    (b.pollCleanUp n state).2 = (b.pollStop n b.settings.grace state).2 ∨
      (b.pollCleanUp n state).2 = (b.pollStop n b.settings.grace state).2.unregister n := by
  unfold pollCleanUp
  dsimp only
  split_ifs
  · exact .inr rfl
  · exact .inl rfl

theorem active?_eq_some {k : ClusterKey} (h : b.active? k = some n) :
    b.registry.find? k = some n ∧ b.isCancelled n = false := by
  unfold active? at h
  cases hfind : b.registry.find? k with
  | none => simp [hfind] at h
  | some m =>
    rw [hfind] at h
    dsimp only at h
    split_ifs at h with hcancelled
    obtain rfl := Option.some.inj h
    exact ⟨rfl, by simpa using hcancelled⟩

/-! ## The registry and the controllers in it -/

def Linked (b : Board) : Prop :=
  ∀ e ∈ b.registry.entries, ∃ c, b.cards[e.2]? = some c ∧ c.key = e.1

/-- What is registered under a key is a controller of that key. -/
theorem Linked.find? (h : b.Linked) {k : ClusterKey} (hfind : b.registry.find? k = some n) :
    ∃ c, b.cards[n]? = some c ∧ c.key = k := h _ (KeyMap.mem_of_find? _ _ hfind)

theorem Linked.change (h : b.Linked) (n : Nat) {g : Card → Card} (hg : ∀ c, (g c).key = c.key) :
    (b.change n g).Linked := by
  intro e he
  obtain ⟨c, hc, hkey⟩ := h e he
  rw [cards_change]
  split_ifs with hn
  · exact ⟨g c, by rw [hc]; rfl, (hg c).trans hkey⟩
  · exact ⟨c, hc, hkey⟩

theorem unregister_linked (h : b.Linked) (n : Nat) : (b.unregister n).Linked := by
  unfold unregister
  split
  · exact h
  · unfold Registry.removeController
    split_ifs
    · exact fun e he => h e (List.mem_of_mem_filter he)
    · exact h

/-- A controller is registered under its own key. -/
theorem add_linked (h : b.Linked) (c : Cluster) : (b.add c).Linked := by
  unfold add
  split_ifs
  · exact h
  · rintro ⟨k, n⟩ hmem
    rcases KeyMap.mem_put _ _ _ hmem with heq | hmem'
    · cases heq
      exact ⟨Card.ofCluster c b.cancelled, by simp, rfl⟩
    · obtain ⟨card, hcard, hkey⟩ := h _ hmem'
      refine ⟨card, ?_, hkey⟩
      rwa [List.getElem?_append_left (List.getElem?_eq_some_iff.mp hcard).1]

def Halted (b : Board) (n : Nat) : Prop := ∃ c, b.cards[n]? = some c ∧ c.cancelled = true

theorem Halted.change {g : Card → Card} (hg : ∀ c, c.cancelled = true → (g c).cancelled = true)
    {m : Nat} (n : Nat) (h : b.Halted m) : (b.change n g).Halted m := by
  obtain ⟨c, hc, hcancelled⟩ := h
  unfold Halted
  rw [cards_change, hc]
  split_ifs
  · exact ⟨g c, rfl, hg c hcancelled⟩
  · exact ⟨c, rfl, hcancelled⟩

/-- A controller that is stopped starts no further pass. -/
theorem stop_halted (hc : b.cards[n]? = some c) : (b.change n Card.stop).Halted n := by
  refine ⟨c.stop, ?_, rfl⟩
  rw [cards_change, if_pos rfl, hc]
  rfl

/-- To accept another controller revives none. -/
theorem add_halted (h : b.Halted n) (c : Cluster) : (b.add c).Halted n := by
  obtain ⟨card, hcard, hcancelled⟩ := h
  unfold add
  split_ifs
  · exact ⟨card, hcard, hcancelled⟩
  · refine ⟨card, ?_, hcancelled⟩
    rwa [List.getElem?_append_left (List.getElem?_eq_some_iff.mp hcard).1]

theorem unregister_halted (h : b.Halted n) (m : Nat) : (b.unregister m).Halted n := by
  unfold Halted
  rw [unregister_cards]
  exact h

end Board
end NatsFleet
