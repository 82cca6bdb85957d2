namespace HandlePool.Decimal

def twoTo (exponent : Nat) : Nat := Nat.pow 2 exponent

def tenTo (exponent : Nat) : Nat := Nat.pow 10 exponent

/-- Stands for `mantissa * 2 ^ exponent`. -/
structure Binary64 where
  mantissa : Nat
  exponent : Int
deriving DecidableEq, Repr

namespace Binary64

def zero : Binary64 := ⟨0, 0⟩

def leastExponent : Int := -1074

def scaleDown (num den : Nat) (exponent : Int) : Nat × Nat :=
  if exponent < 0 then (num * twoTo exponent.natAbs, den)
  else (num, den * twoTo exponent.natAbs)

def roundHalfEven (num den : Nat) : Nat :=
  let whole := num / den
  let rest := num % den
  if 2 * rest < den then whole
  else if 2 * rest = den then whole + whole % 2
  else whole + 1

def exponentFor (num den : Nat) : Int :=
  let low : Int := (num.log2 : Int) - den.log2 - 53
  let (n, d) := scaleDown num den low
  max leastExponent (if n / d < twoTo 53 then low else low + 1)

def nearest? (num den : Nat) : Option Binary64 :=
  if num = 0 then some zero
  else
    let exponent := exponentFor num den
    let (n, d) := scaleDown num den exponent
    let mantissa := roundHalfEven n d
    if mantissa = twoTo 53 then
      if exponent = 971 then none else some ⟨twoTo 52, exponent + 1⟩
    else if 971 < exponent then none
    else some ⟨mantissa, exponent⟩

def quotient (x : Binary64) : Nat × Nat :=
  if x.exponent < 0 then (x.mantissa, twoTo x.exponent.natAbs)
  else (x.mantissa * twoTo x.exponent.natAbs, 1)

def mul? (x y : Binary64) : Option Binary64 :=
  nearest? (x.quotient.1 * y.quotient.1) (x.quotient.2 * y.quotient.2)

def div? (x y : Binary64) : Option Binary64 :=
  nearest? (x.quotient.1 * y.quotient.2) (x.quotient.2 * y.quotient.1)

end Binary64

end HandlePool.Decimal
