import HandlePool.Json.Token
import HandlePool.Decimal.Shortest

/-!
The number that a numeral stands for. Whole numbers keep their value while they fit 64 bits; all
others become binary floating point numbers. Those are read in two roundings: the leading digits
that fit 64 bits, and their product with or quotient by a power of ten.
-/
namespace HandlePool.Json

open HandlePool.Decimal

inductive Number where
  | natural (value : Nat)
  | negative (magnitude : Nat)
  | real (minus : Bool) (magnitude : Binary64)
deriving DecidableEq, Repr

def digitValue (c : Char) : Nat := c.toNat - '0'.toNat

def appendDigits : Nat → List Char → Nat × List Char
  | n, [] => (n, [])
  | n, digit :: digits =>
      if n * 10 + digitValue digit < twoTo 64 then appendDigits (n * 10 + digitValue digit) digits
      else (n, digit :: digits)

def naturalOf (digits : List Char) : Nat :=
  digits.foldl (fun n digit => n * 10 + digitValue digit) 0

def greatestScale : Nat := 308

/-- Scales by a power of ten; too small a number becomes zero after a few turns. -/
def scale? : Nat → Binary64 → Int → Option Binary64
  | 0, _, _ => some .zero
  | turns + 1, x, exponent =>
      if exponent.natAbs ≤ greatestScale then
        match Binary64.nearest? (tenTo exponent.natAbs) 1 with
        | some power => if 0 ≤ exponent then x.mul? power else x.div? power
        | none => none
      else if x.mantissa = 0 then some .zero
      else if 0 ≤ exponent then none
      else
        match Binary64.nearest? (tenTo greatestScale) 1 with
        | some power =>
            match x.div? power with
            | some x => scale? turns x (exponent + greatestScale)
            | none => none
        | none => none

namespace Numeral

def explicitExponent (numeral : Numeral) : Int :=
  match numeral.exponent with
  | none => 0
  | some (negative, digits) => if negative then -(naturalOf digits : Int) else naturalOf digits

def significand (numeral : Numeral) : Nat × Int :=
  let (n, dropped) := appendDigits 0 numeral.whole
  let (m, ignored) := appendDigits n numeral.fraction
  (m, (dropped.length : Int) - (numeral.fraction.length - ignored.length : Nat))

def real? (numeral : Numeral) : Option Number :=
  let (n, exponent) := numeral.significand
  match Binary64.nearest? n 1 with
  | some x => (scale? 4 x (exponent + numeral.explicitExponent)).map (.real numeral.negative)
  | none => none

def number? (numeral : Numeral) : Option Number :=
  if numeral.fraction.isEmpty ∧ numeral.exponent.isNone then
    let n := naturalOf numeral.whole
    if ¬ numeral.negative ∧ n < twoTo 64 then some (.natural n)
    else if numeral.negative ∧ 0 < n ∧ n ≤ twoTo 63 then some (.negative n)
    else numeral.real?
  else numeral.real?

end Numeral

end HandlePool.Json
