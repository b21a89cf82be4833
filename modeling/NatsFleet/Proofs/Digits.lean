import Mathlib.Data.Nat.Basic
import Mathlib.Data.List.Basic

/-!
Numbers and their decimal digits.
-/
namespace NatsFleet.Text

/-- A number is written in decimal digits. -/
theorem isDigit_of_mem {n : Nat} {c : Char} (h : c ∈ Nat.toDigits 10 n) : c.isDigit = true :=
  Nat.isDigit_of_mem_toDigits (by decide) (by decide) h

/-- A number is its digits, or those of its opposite after a sign. -/
theorem intText (n : Int) : (∃ m : Nat, n = m ∧ (toString n).toList = Nat.toDigits 10 m) ∨
    ∃ m : Nat, n = -m ∧ 0 < m ∧ (toString n).toList = '-' :: Nat.toDigits 10 m := by
  cases n with
  | ofNat m =>
    left
    have htext : toString (Int.ofNat m) = toString m := rfl
    exact ⟨m, rfl, by rw [htext, Nat.toString_eq_ofList_toDigits, String.toList_ofList]⟩
  | negSucc m =>
    right
    have htext : toString (Int.negSucc m) = "-" ++ toString (m + 1) := rfl
    refine ⟨m + 1, rfl, Nat.succ_pos m, ?_⟩
    rw [htext, String.toList_append, Nat.toString_eq_ofList_toDigits]
    simp only [String.toList_ofList]
    rfl

/-- Only the number zero has a leading zero among its digits. -/
theorem toDigits_leading (n : Nat) : Nat.toDigits 10 n = ['0'] ∨
    ∃ c cs, Nat.toDigits 10 n = c :: cs ∧ c ≠ '0' := by
  induction n using Nat.strongRecOn with
  | ind n ih =>
    by_cases hn : n < 10
    · rw [Nat.toDigits_of_lt_base hn]
      by_cases hzero : n = 0
      · subst hzero
        exact .inl rfl
      · refine .inr ⟨_, _, rfl, ?_⟩
        have hdigit : ∀ m < 10, m ≠ 0 → Nat.digitChar m ≠ '0' := by decide
        exact hdigit n hn hzero
    · -- The digits of a longer number begin with those of the number without its last digit.
      rw [Nat.toDigits_eq_if (by decide), if_neg hn]
      have hlt : n / 10 < n := by omega
      have hpos : n / 10 ≠ 0 := by omega
      rcases ih (n / 10) hlt with hzero | ⟨c, cs, hdigits, hc⟩
      · have hvalue := Nat.ofDigitChars_ten_toDigits (n := n / 10)
        rw [hzero] at hvalue
        exact absurd hvalue.symm hpos
      · rw [hdigits]
        exact .inr ⟨c, _, rfl, hc⟩

end NatsFleet.Text
