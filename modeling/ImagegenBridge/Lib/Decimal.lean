import Mathlib.Data.Nat.Notation
import Mathlib.Data.List.Induction

/-!
# Decimal numerals

Reading digits with a bound, and the numerals that printing gives.
-/

namespace Decimal

def Digits (text : List Char) : Prop := ∀ c ∈ text, c.isDigit = true

/-- The number that the digits of a text spell. -/
abbrev value (text : List Char) : Nat := Nat.ofDigitChars 10 text 0

/-- The grammar `[1-9][0-9]*`. -/
structure Numeral (text : List Char) : Prop where
  nonempty : text ≠ []
  digits : Digits text
  positive : text.head? ≠ some '0'

/-- Digit by digit, as long as the number is below the bound. -/
def accumulate (bound : Nat) (total : Nat) : List Char → Option Nat
  | [] => some total
  | c :: rest =>
    if c.isDigit = true ∧ 10 * total + (c.toNat - '0'.toNat) < bound then
      accumulate bound (10 * total + (c.toNat - '0'.toNat)) rest
    else none

/-- What comes before the first separator and what comes after it. -/
def splitOnce (separator : Char) : List Char → Option (List Char × List Char)
  | [] => none
  | c :: rest =>
    if c = separator then some ([], rest)
    else (splitOnce separator rest).map fun parts => (c :: parts.1, parts.2)

variable {text first second : List Char} {separator : Char} {bound total result : Nat}

theorem splitOnce_iff :
    splitOnce separator text = some (first, second) ↔
      text = first ++ separator :: second ∧ separator ∉ first := by
  induction text generalizing first with
  | nil => simp [splitOnce]
  | cons c rest ih =>
    rw [splitOnce]
    by_cases here : c = separator
    · subst here
      rw [if_pos rfl]
      cases first with
      | nil => simp [eq_comm]
      | cons d first => simp; grind
    · rw [if_neg here, Option.map_eq_some_iff]
      cases first with
      | nil => simp [here]
      | cons d first =>
        constructor
        · rintro ⟨parts, split, same⟩
          cases same
          obtain ⟨whole, free⟩ := ih.mp split
          exact ⟨by rw [whole]; rfl, by simp [free, Ne.symm here]⟩
        · rintro ⟨whole, free⟩
          cases whole
          exact ⟨(first, second), ih.mpr ⟨rfl, fun among => free (List.mem_cons_of_mem _ among)⟩, rfl⟩

/-- A number never gets smaller with more digits. -/
theorem le_ofDigitChars (text : List Char) (total : Nat) : total ≤ Nat.ofDigitChars 10 text total := by
  induction text generalizing total with
  | nil => simp
  | cons c rest ih =>
    rw [Nat.ofDigitChars_cons]
    have onward := ih (10 * total + (c.toNat - '0'.toNat))
    omega

theorem accumulate_iff (small : total < bound) :
    accumulate bound total text = some result ↔
      Digits text ∧ Nat.ofDigitChars 10 text total = result ∧ result < bound := by
  induction text generalizing total with
  | nil =>
    rw [accumulate, Nat.ofDigitChars_nil, Option.some.injEq]
    constructor
    · rintro rfl
      exact ⟨fun _ among => absurd among List.not_mem_nil, rfl, small⟩
    · exact fun read => read.2.1
  | cons c rest ih =>
    rw [accumulate, Nat.ofDigitChars_cons, Digits, List.forall_mem_cons]
    by_cases digit : c.isDigit = true
    · by_cases fits : 10 * total + (c.toNat - '0'.toNat) < bound
      · rw [if_pos ⟨digit, fits⟩, ih fits]
        simp [digit, Digits]
      · rw [if_neg fun both => fits both.2]
        have large := le_ofDigitChars rest (10 * total + (c.toNat - '0'.toNat))
        constructor
        · intro impossible
          cases impossible
        · rintro ⟨-, read, below⟩
          omega
    · rw [if_neg fun both => digit both.1]
      simp [digit]

theorem digit_range {c : Char} (digit : c.isDigit = true) :
    '0'.toNat ≤ c.toNat ∧ c.toNat ≤ '9'.toNat := by
  simp only [Char.isDigit, Bool.and_eq_true, decide_eq_true_eq] at digit
  exact digit

theorem numeral_positive (numeral : Numeral text) : 0 < value text := by
  cases text with
  | nil => exact absurd rfl numeral.nonempty
  | cons c rest =>
    have range := digit_range (numeral.digits c List.mem_cons_self)
    have nonzero : c.toNat ≠ '0'.toNat := fun same =>
      numeral.positive (congrArg some (Char.toNat_inj.mp same))
    have grown := le_ofDigitChars rest (10 * 0 + (c.toNat - '0'.toNat))
    rw [value, Nat.ofDigitChars_cons]
    omega

theorem digitChar_digit {c : Char} (digit : c.isDigit = true) :
    Nat.digitChar (c.toNat - '0'.toNat) = c := by
  obtain ⟨low, high⟩ := digit_range digit
  have small : c.toNat - '0'.toNat < 10 := by
    have nine : '9'.toNat = '0'.toNat + 9 := rfl
    omega
  apply Char.toNat_inj.mp
  have back := Nat.toNat_digitChar_sub_48_of_lt_ten small
  have above := (digit_range (Nat.isDigit_digitChar.trans (decide_eq_true small))).1
  have zero : '0'.toNat = 48 := rfl
  omega

/-- A numeral is the print of its value. -/
theorem toDigits_value (numeral : Numeral text) : Nat.toDigits 10 (value text) = text := by
  obtain ⟨nonempty, digits, positive⟩ := numeral
  induction text using List.reverseRecOn with
  | nil => exact absurd rfl nonempty
  | append_singleton text c ih =>
    have digit := digits c (by simp)
    have small : c.toNat - '0'.toNat < 10 := by
      have range := digit_range digit
      have nine : '9'.toNat = '0'.toNat + 9 := rfl
      omega
    have last : Nat.toDigits 10 (c.toNat - '0'.toNat) = [c] := by
      rw [Nat.toDigits_of_lt_base small, digitChar_digit digit]
    have read : value (text ++ [c]) = 10 * value text + (c.toNat - '0'.toNat) := by
      rw [value, Nat.ofDigitChars_append, Nat.ofDigitChars_cons, Nat.ofDigitChars_nil]
    cases text with
    | nil =>
      rw [read]
      simpa using last
    | cons first rest =>
      have front : Numeral (first :: rest) :=
        ⟨List.cons_ne_nil _ _, fun d among => digits d (List.mem_append_left _ among),
          fun zero => positive zero⟩
      rw [read, ← Nat.toDigits_append_toDigits (by decide) (numeral_positive front) small,
        ih front.nonempty front.digits front.positive, last]

/-- A positive number prints as a numeral. -/
theorem numeral_toDigits {n : Nat} (positive : 0 < n) : Numeral (Nat.toDigits 10 n) where
  nonempty := Nat.toDigits_ne_nil
  digits := fun _ among => Nat.isDigit_of_mem_toDigits (by decide) (by decide) among
  positive := by
    induction n using Nat.strongRecOn with
    | ind n ih =>
      by_cases small : n < 10
      · rw [Nat.toDigits_of_lt_base small]
        intro zero
        have nothing := Nat.digitChar_eq_zero.mp (Option.some.inj zero)
        omega
      · rw [Nat.toDigits_of_base_le (by decide) (by omega), List.head?_append]
        have front := ih (n / 10) (by omega) (by omega)
        cases digits : Nat.toDigits 10 (n / 10) with
        | nil => exact absurd digits Nat.toDigits_ne_nil
        | cons c rest =>
          rw [digits] at front
          exact front

theorem value_toDigits (n : Nat) : value (Nat.toDigits 10 n) = n := Nat.ofDigitChars_ten_toDigits

theorem toString_injective {first later : Nat} (same : toString first = toString later) :
    first = later := by
  rw [Nat.toString_eq_ofList_toDigits, Nat.toString_eq_ofList_toDigits, String.ofList_inj] at same
  rw [← value_toDigits first, same, value_toDigits]

end Decimal
