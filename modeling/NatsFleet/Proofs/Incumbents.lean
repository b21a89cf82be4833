import NatsFleet.Proofs.Board
import Mathlib.Logic.Function.Basic

/-!
Which controller is at work under a key, and what is written down about it. What an operator does about
one cluster leaves the controllers of the others at work.
-/
namespace NatsFleet.Board

variable {b : Board} {n : Nat}

theorem Linked.active?_lt (h : b.Linked) {k : ClusterKey} (hactive : b.active? k = some n) :
    n < b.cards.length := by
  obtain ⟨c, hc, -⟩ := h.find? (active?_eq_some hactive).1
  exact (List.getElem?_eq_some_iff.mp hc).1

/-- Another key has another controller, since each controller has its own key. -/
theorem Linked.find?_ne (h : b.Linked) {k k' : ClusterKey} {m : Nat}
    (hfind : b.registry.find? k = some n) (hfind' : b.registry.find? k' = some m) (hk : k' ≠ k) :
    n ≠ m := by
  rintro rfl
  obtain ⟨c, hc, hkey⟩ := h.find? hfind
  obtain ⟨c', hc', hkey'⟩ := h.find? hfind'
  rw [hc, Option.some.injEq] at hc'
  rw [← hkey', ← hc', hkey] at hk
  exact hk rfl

/-- A change of one controller cancels or revives none of the others. -/
theorem isCancelled_change (n m : Nat) (g : Card → Card) : (b.change n g).isCancelled m =
    if n = m then (b.cards[m]?).all fun c => (g c).cancelled else b.isCancelled m := by
  unfold isCancelled
  rw [cards_change]
  split_ifs
  · cases b.cards[m]? <;> rfl
  · rfl

/-- Who works goes on working, unless the change is about that. -/
theorem active?_change (n : Nat) {g : Card → Card}
    (hg : ∀ c, b.cards[n]? = some c → (g c).cancelled = c.cancelled) :
    (b.change n g).active? = b.active? := by
  have hcancelled (m : Nat) : (b.change n g).isCancelled m = b.isCancelled m := by
    rw [isCancelled_change]
    split_ifs with hm
    · subst hm
      unfold isCancelled
      cases hc : b.cards[n]? with
      | none => rfl
      | some c => exact hg c hc
    · rfl
  have hregistry : (b.change n g).registry = b.registry := rfl
  funext k
  simp only [active?, hregistry, hcancelled]

/-- A registered controller that is stopped was at work under its own key only. -/
theorem active?_stop (h : b.Linked) {k : ClusterKey} (hfind : b.registry.find? k = some n) :
    (b.change n Card.stop).active? = Function.update b.active? k none := by
  have hregistry : (b.change n Card.stop).registry = b.registry := rfl
  obtain ⟨c, hc, -⟩ := h.find? hfind
  funext k'
  rw [Function.update_apply]
  split_ifs with hk
  · subst hk
    simp [active?, hregistry, hfind, isCancelled_change, hc, Card.stop]
  · simp only [active?, hregistry]
    cases hfind' : b.registry.find? k' with
    | none => rfl
    | some m =>
      dsimp only
      rw [isCancelled_change, if_neg (h.find?_ne hfind hfind' hk)]

/-- A key is free if no controller holds it. -/
theorem active?_isNone (b : Board) (k : ClusterKey) :
    (b.active? k).isNone = !(b.registry.holds b.isCancelled k) := by
  unfold active? Registry.holds
  cases b.registry.find? k with
  | none => rfl
  | some n => cases hcancelled : b.isCancelled n <;> simp [hcancelled]

/-- A controller is accepted where none is at work. -/
theorem active?_add (h : b.Linked) (hopen : b.phase.isClosed = false) (hroot : b.cancelled = false)
    (c : Cluster) : (b.add c).active? = if (b.active? c.key).isNone
      then Function.update b.active? c.key (some b.cards.length) else b.active? := by
  unfold add
  rw [active?_isNone, hopen, Bool.false_or]
  cases hholds : b.registry.holds b.isCancelled c.key with
  | true => rfl
  | false =>
    rw [if_neg Bool.false_ne_true, Bool.not_false, if_pos rfl]
    funext k
    rw [Function.update_apply]
    split_ifs with hk
    · simp [active?, Registry.find?, KeyMap.find?_put, hk, isCancelled, Card.ofCluster, hroot]
    · -- Another key keeps its controller, whose number is a smaller one.
      simp only [active?, Registry.find?, KeyMap.find?_put, if_neg (Ne.symm hk)]
      cases hfind : b.registry.entries.find? k with
      | none => rfl
      | some m =>
        obtain ⟨card, hcard, -⟩ := h.find? hfind
        have hlt : m < b.cards.length := (List.getElem?_eq_some_iff.mp hcard).1
        have hkeep {b' : Board} (hcards : b'.cards = b.cards ++ [Card.ofCluster c b.cancelled]) :
            b'.isCancelled m = b.isCancelled m := by
          rw [isCancelled, hcards, List.getElem?_append_left hlt]
          rfl
        dsimp only
        rw [hkeep rfl]

/-- What is unregistered after its stop did not count any more. -/
theorem active?_unregister (h : b.Halted n) : (b.unregister n).active? = b.active? := by
  obtain ⟨card, hcard, hcancelled⟩ := h
  unfold unregister
  rw [hcard]
  dsimp only
  unfold Registry.removeController
  split_ifs with hfind
  · funext k
    simp only [active?, Registry.find?, KeyMap.find?_erase]
    split_ifs with hk
    · subst hk
      have hfind' : b.registry.entries.find? card.key = some n := hfind
      simp [hfind', isCancelled, hcard, hcancelled]
    · rfl
  · rfl

theorem Halted.pollStop (h : b.Halted n) (grace : Nat) (state : Stopping) :
    (b.pollStop n grace state).2.Halted n :=
  h.change (fun c => c.poll_cancelled b.now grace state) n

/-- A clean-up changes nothing for the controllers at work, as its own is not one of them. -/
theorem active?_pollCleanUp (h : b.Halted n) (state : Stopping) :
    (b.pollCleanUp n state).2.active? = b.active? := by
  have hpoll : (b.pollStop n b.settings.grace state).2.active? = b.active? := by
    obtain ⟨card, hcard, hcancelled⟩ := h
    refine active?_change n fun c hc => ?_
    obtain rfl : card = c := Option.some.inj (hcard.symm.trans hc)
    rw [hcancelled, card.poll_cancelled _ _ _ hcancelled]
  rcases b.pollCleanUp_snd n state with hcases | hcases
  · rw [hcases, hpoll]
  · rw [hcases, active?_unregister (h.pollStop _ state), hpoll]

/-- The loop that returns belongs to a controller that is not at work. -/
theorem active?_afterLoop (n : Nat) (first : Bool) (state : Loop) :
    (b.afterLoop n first state).active? = b.active? := by
  unfold afterLoop
  split_ifs
  · exact active?_change n fun _ _ => rfl
  · rfl

/-! ## What is written down -/

variable {α : Type} {l : List α}

/-- What a list has of the controller that is at work under a key. -/
def under (b : Board) (l : List α) : ClusterKey → Option α := fun k => (b.active? k).bind (l[·]?)

theorem under_congr {b' : Board} (h : b'.active? = b.active?) (l : List α) :
    b'.under l = b.under l := by
  unfold under
  rw [h]

theorem under_isNone (h : b.Linked) (hl : l.length = b.cards.length) (k : ClusterKey) :
    (b.under l k).isNone = (b.active? k).isNone := by
  unfold under
  cases hactive : b.active? k with
  | none => rfl
  | some n =>
    have hlt : n < l.length := hl ▸ h.active?_lt hactive
    simp [hlt]

/-- Where none is at work, the list goes on with a new controller. -/
theorem under_add (h : b.Linked) (hopen : b.phase.isClosed = false) (hroot : b.cancelled = false)
    (hl : l.length = b.cards.length) (c : Cluster) (a : α) :
    (b.add c).under (if (b.active? c.key).isNone then l ++ [a] else l) =
      if (b.under l c.key).isNone then Function.update (b.under l) c.key (some a)
      else b.under l := by
  have hactive := active?_add h hopen hroot c
  rw [under_isNone h hl]
  cases hnone : (b.active? c.key).isNone with
  | false =>
    rw [hnone, if_neg Bool.false_ne_true] at hactive
    rw [if_neg Bool.false_ne_true, if_neg Bool.false_ne_true]
    exact under_congr hactive l
  | true =>
    rw [hnone, if_pos rfl] at hactive
    rw [if_pos rfl, if_pos rfl]
    funext k
    simp only [under, hactive, Function.update_apply]
    split_ifs with hk
    · simp [← hl]
    · cases hother : b.active? k with
      | none => rfl
      | some n =>
        have hlt : n < l.length := hl ▸ h.active?_lt hother
        simp [List.getElem?_append_left hlt]

/-- To stop the controller of a key takes it from those at work. -/
theorem under_stop (h : b.Linked) {k : ClusterKey} (hfind : b.registry.find? k = some n)
    (l : List α) : (b.change n Card.stop).under l = Function.update (b.under l) k none := by
  funext k'
  simp only [under, active?_stop h hfind, Function.update_apply]
  split_ifs <;> rfl

/-- What changes of a controller at work shows under its key only. -/
theorem under_set (h : b.Linked) (hl : l.length = b.cards.length) {k : ClusterKey}
    (hactive : b.active? k = some n) (a : α) :
    b.under (l.set n a) = Function.update (b.under l) k (some a) := by
  have hlt : n < l.length := hl ▸ h.active?_lt hactive
  funext k'
  rw [Function.update_apply]
  split_ifs with hk
  · subst hk
    simp [under, hactive, hlt]
  · unfold under
    cases hother : b.active? k' with
    | none => rfl
    | some m =>
      have hm := h.find?_ne (active?_eq_some hactive).1 (active?_eq_some hother).1 hk
      exact List.getElem?_set_ne hm

end NatsFleet.Board
