import Mathlib.Algebra.Group.Int.Defs
import Mathlib.Algebra.Group.Nat.Defs

/-!
# Machine arithmetic without wrapping

Operations on unsigned numbers are made in the naturals and on signed ones in the integers. A
result that its type does not hold has no value, and neither has a division by zero.
-/

namespace Machine

/-! ## Unsigned -/

def sum (width a b : ℕ) : Option ℕ := if a + b < 2 ^ width then some (a + b) else none

def product (width a b : ℕ) : Option ℕ := if a * b < 2 ^ width then some (a * b) else none

def difference (a b : ℕ) : Option ℕ := if b ≤ a then some (a - b) else none

def quotient (a b : ℕ) : Option ℕ := if b = 0 then none else some (a / b)

/-- A conversion to a type of this width. -/
def narrow (width a : ℕ) : Option ℕ := if a < 2 ^ width then some a else none

variable {width a b : ℕ}

/-- A step that has a value is done with. -/
theorem step_eq {α β : Type} {x : Option α} {value : α} (found : x = some value)
    (next : α → Option β) : (x >>= next) = next value := by
  rw [found]
  rfl

theorem sum_fits (fits : a + b < 2 ^ width) : sum width a b = some (a + b) := if_pos fits

theorem product_fits (fits : a * b < 2 ^ width) : product width a b = some (a * b) := if_pos fits

theorem difference_fits (le : b ≤ a) : difference a b = some (a - b) := if_pos le

theorem quotient_fits (some : 0 < b) : quotient a b = .some (a / b) := if_neg (by omega)

theorem narrow_fits (fits : a < 2 ^ width) : narrow width a = some a := if_pos fits

/-! ## Signed -/

/-- The values of the signed type of a width. -/
def Holds (width : ℕ) (value : Int) : Prop :=
  -(2 ^ (width - 1)) ≤ value ∧ value < 2 ^ (width - 1)

instance (width : ℕ) (value : Int) : Decidable (Holds width value) :=
  inferInstanceAs (Decidable (_ ∧ _))

/-- What an operation gives, in a type of this width. -/
def result (width : ℕ) (value : Int) : Option Int := if Holds width value then some value else none

def signedQuotient (width : ℕ) (dividend divisor : Int) : Option Int :=
  if divisor = 0 then none else result width (dividend.tdiv divisor)

/-- A conversion to an unsigned type of this width. -/
def toUnsigned (width : ℕ) (value : Int) : Option ℕ :=
  if 0 ≤ value ∧ value < 2 ^ width then some value.toNat else none

theorem result_fits {value : Int} (fits : Holds width value) : result width value = some value :=
  if_pos fits

theorem signedQuotient_fits {dividend divisor : Int} (nonneg : 0 ≤ dividend) (some : 0 < divisor)
    (fits : Holds width (dividend / divisor)) :
    signedQuotient width dividend divisor = .some (dividend / divisor) := by
  rw [signedQuotient, if_neg (by omega), Int.tdiv_eq_ediv_of_nonneg nonneg]
  exact if_pos fits

theorem toUnsigned_fits {value : Int} (nonneg : 0 ≤ value) (fits : value < 2 ^ width) :
    toUnsigned width value = some value.toNat := if_pos ⟨nonneg, fits⟩

end Machine
