import Mathlib.Data.Nat.Digits.Lemmas

namespace Ccnet

/-! Numerals: the digits of a number in a base, the most significant first, as one writes
them. -/

/-- The number that a list of digits denotes. -/
def readDigits (base : Nat) (digits : List Nat) : Nat :=
  digits.foldl (fun number digit => base * number + digit) 0

/-- The digits denote the number, and none of them could be left out in front. -/
structure IsNumeral (base number : Nat) (digits : List Nat) : Prop where
  nonempty : digits ≠ []
  below : ∀ digit ∈ digits, digit < base
  leading : digits.head? = some 0 → digits = [0]
  value : readDigits base digits = number

def numeral (base number : Nat) : List Nat :=
  if number = 0 then [0] else (Nat.digits base number).reverse

variable {base : Nat}

theorem numeral_of_lt {number : Nat} (small : number < base) : numeral base number = [number] := by
  unfold numeral
  split
  · rename_i zero
    rw [zero]
  · rename_i positive
    rw [Nat.digits_of_lt _ _ positive small]
    rfl

/-- The last digit is the remainder, and the others are the numeral of the quotient. -/
theorem numeral_of_le {number : Nat} (proper : 1 < base) (large : base ≤ number) :
    numeral base number = numeral base (number / base) ++ [number % base] := by
  have positive : number ≠ 0 := by omega
  have quotient : number / base ≠ 0 := Nat.div_ne_zero_iff.mpr ⟨by omega, large⟩
  rw [numeral, numeral, if_neg positive, if_neg quotient,
    Nat.digits_eq_cons_digits_div proper positive, List.reverse_cons]

theorem readDigits_reverse (digits : List Nat) :
    readDigits base digits.reverse = Nat.ofDigits base digits := by
  rw [readDigits, List.foldl_reverse, Nat.ofDigits_eq_foldr]
  simp only [Nat.cast_id, Nat.add_comm]

theorem numeral_isNumeral (proper : 1 < base) (number : Nat) :
    IsNumeral base number (numeral base number) := by
  by_cases zero : number = 0
  · rw [zero, numeral, if_pos rfl]
    exact ⟨List.cons_ne_nil _ _, by simp; omega, fun _ => rfl, rfl⟩
  · have nonempty : Nat.digits base number ≠ [] := Nat.digits_ne_nil_iff_ne_zero.mpr zero
    rw [numeral, if_neg zero]
    refine ⟨by simpa using nonempty, ?_, ?_, ?_⟩
    · intro digit member
      exact Nat.digits_lt_base proper (List.mem_reverse.mp member)
    · intro leading
      rw [List.head?_reverse, List.getLast?_eq_some_getLast nonempty] at leading
      exact absurd (Option.some.inj leading) (Nat.getLast_digit_ne_zero base zero)
    · rw [readDigits_reverse, Nat.ofDigits_digits]

theorem numeral_length_le {number count : Nat} (proper : 1 < base) (positive : 0 < count)
    (bound : number < base ^ count) : (numeral base number).length ≤ count := by
  unfold numeral
  split
  · exact positive
  · rw [List.length_reverse]
    exact (Nat.digits_length_le_iff proper number).mpr bound

end Ccnet
