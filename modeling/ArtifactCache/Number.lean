/-!
# Numbers that are rounded

Quotients rounded to whole numbers and decimal places, and the numbers of double precision.
-/

namespace ArtifactCache.Number

/-!
## Rounding quotients

The whole number that is nearest to a quotient, where a tie goes to the even one, and a quotient
written with a given number of decimal places.
-/

/-- The whole number nearest to `num / den`, and the even one of two. -/
def roundDiv (num den : Nat) : Nat :=
  let q := num / den
  let rest := 2 * (num % den)
  if rest < den then q
  else if den < rest then q + 1
  else q + q % 2

/-- The result is at most half a unit away. -/
theorem roundDiv_within_half {num den : Nat} (h : 0 < den) :
    2 * num ≤ 2 * (den * roundDiv num den) + den ∧
      2 * (den * roundDiv num den) ≤ 2 * num + den := by
  have hdiv := Nat.div_add_mod num den
  have hmod := Nat.mod_lt num h
  unfold roundDiv
  simp only
  generalize hq : num / den = q at *
  generalize hr : num % den = r at *
  split
  · omega
  · split
    · rw [Nat.mul_add, Nat.mul_one]; omega
    · rcases Nat.mod_two_eq_zero_or_one q with h2 | h2
      · rw [h2, Nat.add_zero]; omega
      · rw [h2, Nat.mul_add, Nat.mul_one]; omega

/-- `num / den` with so many decimal places. -/
def fixedChars (places num den : Nat) : List Char :=
  let n := roundDiv (num * Nat.pow 10 places) den
  let digits := Nat.toDigits 10 (n % Nat.pow 10 places)
  let fraction := List.replicate (places - digits.length) '0' ++ digits
  Nat.toDigits 10 (n / Nat.pow 10 places) ++ if places = 0 then [] else '.' :: fraction

/-!
## Binary floating point

The numbers of IEEE 754 double precision that are not negative, with arithmetic that rounds the
exact result to the nearest one, as whole numbers times powers of two.  Ranges are such that
nothing overflows or gets too small.
-/

/-- The number `mantissa * 2 ^ exponent`; a mantissa that is not zero has 53 binary digits. -/
structure Binary64 where
  mantissa : Nat
  exponent : Int
  deriving DecidableEq, Repr

namespace Binary64

def mantissaDigits : Nat := 53

def zero : Binary64 := ⟨0, 0⟩

def num (x : Binary64) : Nat := x.mantissa * Nat.pow 2 x.exponent.toNat

def den (x : Binary64) : Nat := Nat.pow 2 (-x.exponent).toNat

def isZero (x : Binary64) : Bool := x.mantissa == 0

def atExponent (num den : Nat) (exponent : Int) : Binary64 :=
  let mantissa := roundDiv (num * Nat.pow 2 (-exponent).toNat) (den * Nat.pow 2 exponent.toNat)
  if mantissa = Nat.pow 2 mantissaDigits then ⟨Nat.pow 2 (mantissaDigits - 1), exponent + 1⟩
  else ⟨mantissa, exponent⟩

def ofRatio (num den : Nat) : Binary64 :=
  if num = 0 then zero
  else
    let exponent : Int := (num.log2 : Int) - den.log2 - mantissaDigits
    let isSmall :=
      num * Nat.pow 2 (-exponent).toNat < den * Nat.pow 2 exponent.toNat * Nat.pow 2 mantissaDigits
    atExponent num den (if isSmall then exponent else exponent + 1)

def ofNat (n : Nat) : Binary64 := ofRatio n 1

def add (x y : Binary64) : Binary64 := ofRatio (x.num * y.den + y.num * x.den) (x.den * y.den)

def mul (x y : Binary64) : Binary64 := ofRatio (x.num * y.num) (x.den * y.den)

def div (x y : Binary64) : Binary64 := ofRatio (x.num * y.den) (x.den * y.num)

def floor (x : Binary64) : Nat := x.num / x.den

def fixedChars (places : Nat) (x : Binary64) : List Char := Number.fixedChars places x.num x.den

/-- The 64 bits that stand for the number. -/
def bits (x : Binary64) : Nat :=
  if x.isZero then 0
  else (x.exponent + 1075).toNat * Nat.pow 2 (mantissaDigits - 1) +
    (x.mantissa - Nat.pow 2 (mantissaDigits - 1))

end Binary64

end ArtifactCache.Number
