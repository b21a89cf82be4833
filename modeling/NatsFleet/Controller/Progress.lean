import NatsFleet.Controller.Pass

/-!
Every reply brings a pass closer to its end, so a pass whose requests are answered ends.
-/
namespace NatsFleet.Pass

/-- How far a stage is from the end: the rank of its kind, and what is left to do in it. -/
def Stage.rank : Stage → Nat × Nat
  | .services todo => (6, todo.length)
  | .listing _ => (5, 0)
  | .removing _ _ todo => (4, todo.length)
  | .configuring _ => (3, 0)
  | .creating _ todo _ => (2, todo.length)
  | .publishing _ => (1, 0)
  | .naming => (0, 0)
  | .finished => (0, 0)

theorem conclude_rank (w : Work) (records : List PodRecord) (d : Desk) :
    (conclude w records d).1.rank.1 ≤ 1 := by
  unfold conclude
  dsimp only
  split <;> simp [Stage.rank]

theorem create_rank (w : Work) (todo : List String) (records : List PodRecord) (d : Desk) :
    (create w todo records d).1.rank.1 < 2 ∨
      (create w todo records d).1.rank = (2, todo.length) := by
  unfold create
  split
  · exact Or.inl (Nat.lt_succ_of_le (conclude_rank w records d))
  · exact Or.inr rfl

theorem create_rank_lt (w : Work) (todo : List String) (records : List PodRecord) (d : Desk) :
    (create w todo records d).1.rank.1 < 3 := by
  rcases create_rank w todo records d with h | h
  · exact Nat.lt_succ_of_lt h
  · rw [h]; exact Nat.lt_succ_self 2

theorem configure_rank_lt (id : Identity) (w : Work) (d : Desk) :
    (configure id w d).1.rank.1 < 4 := by
  unfold configure
  split
  · exact Nat.lt_succ_of_lt (create_rank_lt _ _ _ _)
  · exact Nat.lt_succ_self 3

theorem name_rank_lt (id : Identity) (fuel : Nat) (spec : ClusterSpec) (plan : Plan) (d : Desk) :
    (name id fuel spec plan d).1.rank.1 < 4 := by
  unfold name
  split
  · simp [Stage.rank]
  · exact configure_rank_lt _ _ _

theorem remove_rank (id : Identity) (fuel : Nat) (spec : ClusterSpec) (plan : Plan)
    (todo : List Removal) (d : Desk) :
    (remove id fuel spec plan todo d).1.rank.1 < 4 ∨
      (remove id fuel spec plan todo d).1.rank = (4, todo.length) := by
  unfold remove
  split
  · exact Or.inl (name_rank_lt _ _ _ _ _)
  · exact Or.inr rfl

def Before (a b : Nat × Nat) : Prop := Prod.Lex (· < ·) (· < ·) a b

theorem before_of_lt {a b : Nat × Nat} (h : a.1 < b.1) : Before a b := Prod.Lex.left _ _ h

/-- A reply to the request of a stage lowers the rank. -/
theorem resume_before (id : Identity) (fuel : Nat) (stage : Stage) (reply : Reply) (d : Desk)
    (request : Request) (h : stage.request? id = some request) :
    Before (resume id fuel stage reply d).1.rank stage.rank := by
  cases stage with
  | services todo =>
    cases todo with
    | nil => simp [Stage.request?] at h
    | cons s rest =>
      cases rest with
      | nil => exact before_of_lt (by simp [resume, Stage.rank])
      | cons t rest => exact Prod.Lex.right _ (by simp)
  | listing spec =>
    cases reply with
    | error e => exact before_of_lt (by simp [resume, Stage.rank])
    | ok listed =>
      refine before_of_lt ?_
      show (remove id fuel spec _ _ d).1.rank.1 < 5
      rcases remove_rank id fuel spec (Plan.ofListing id spec listed)
        (Plan.ofListing id spec listed).removals d with h | h
      · exact Nat.lt_succ_of_lt h
      · rw [h]; exact Nat.lt_succ_self 4
  | removing spec plan todo =>
    cases todo with
    | nil => simp [Stage.request?] at h
    | cons r rest =>
      have key : ∀ d, Before (remove id fuel spec plan rest d).1.rank (4, rest.length + 1) := by
        intro d
        rcases remove_rank id fuel spec plan rest d with h | h
        · exact before_of_lt h
        · rw [h]; exact Prod.Lex.right _ (Nat.lt_succ_self _)
      exact key _
  | naming => simp [Stage.request?] at h
  | configuring w => exact before_of_lt (create_rank_lt _ _ _ _)
  | creating w todo records =>
    cases todo with
    | nil => simp [Stage.request?] at h
    | cons name rest =>
      have key : ∀ records d, Before (create w rest records d).1.rank (2, rest.length + 1) := by
        intro records d
        rcases create_rank w rest records d with h | h
        · exact before_of_lt h
        · rw [h]; exact Prod.Lex.right _ (Nat.lt_succ_self _)
      unfold resume
      dsimp only
      split
      · exact key _ _
      · exact key _ _
      · exact key _ _
  | publishing s => cases reply <;> exact before_of_lt (by simp [resume, Stage.rank])
  | finished => simp [Stage.request?] at h

end NatsFleet.Pass
