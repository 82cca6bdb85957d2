import HandlePool.Decimal.Binary64

/-!
The shortest decimal that reads back as a given binary magnitude, and its text. Of several with the
fewest digits the one nearest to the magnitude is taken.
-/
namespace HandlePool.Decimal

structure Scaled where
  digits : Nat
  exponent : Int
deriving DecidableEq, Repr

/-- The numbers that round to a magnitude, in quarters of its last place, and whether the ends are
among them. -/
structure Basin where
  below : Nat
  above : Nat
  closed : Bool
  exponent : Int

def Binary64.basin (x : Binary64) : Basin where
  below := if x.mantissa = twoTo 52 ∧ x.exponent ≠ leastExponent then 4 * x.mantissa - 1
    else 4 * x.mantissa - 2
  above := 4 * x.mantissa + 2
  closed := x.mantissa % 2 == 0
  exponent := x.exponent - 2

def compareScaled (a : Nat) (e : Int) (b : Nat) (f : Int) : Ordering :=
  let left := a * twoTo e.toNat * tenTo (-f).toNat
  let right := b * tenTo f.toNat * twoTo (-e).toNat
  compare left right

def Basin.contains (basin : Basin) (decimal : Scaled) : Bool :=
  let lower := compareScaled basin.below basin.exponent decimal.digits decimal.exponent
  let upper := compareScaled basin.above basin.exponent decimal.digits decimal.exponent
  (lower == .lt || (basin.closed && lower == .eq)) &&
    (upper == .gt || (basin.closed && upper == .eq))

def Binary64.neighbours (x : Binary64) (exponent : Int) : Scaled × Scaled × Bool :=
  let num := x.mantissa * twoTo x.exponent.toNat * tenTo (-exponent).toNat
  let den := tenTo exponent.toNat * twoTo (-x.exponent).toNat
  let low := num / den
  let rest := num % den
  (⟨low, exponent⟩, ⟨low + 1, exponent⟩,
    decide (2 * rest < den) || (2 * rest == den && low % 2 == 0))

def Binary64.decimalAt? (x : Binary64) (exponent : Int) : Option Scaled :=
  let (low, high, lowFirst) := x.neighbours exponent
  match x.basin.contains low, x.basin.contains high with
  | true, true => some (if lowFirst then low else high)
  | true, false => some low
  | false, true => some high
  | false, false => none

def countDigits (n : Nat) : Nat := (Nat.toDigits 10 n).length

def Binary64.leadingExponent (x : Binary64) : Int :=
  let num := x.quotient.1
  let den := x.quotient.2
  if den ≤ num then (countDigits (num / den) : Int) - 1
  else -(countDigits ((den - 1) / num) : Int)

def Scaled.trimmed : Nat → Scaled → Scaled
  | 0, x => x
  | fuel + 1, x =>
      if x.digits % 10 = 0 ∧ x.digits ≠ 0 then Scaled.trimmed fuel ⟨x.digits / 10, x.exponent + 1⟩
      else x

/-- Seventeen digits always read back, so the search through coarser grids ends there. -/
def Binary64.shortest (x : Binary64) : Scaled :=
  if x.mantissa = 0 then ⟨0, 0⟩
  else
    let top := x.leadingExponent
    let found := (List.range 17).findSome? fun (digits : Nat) => x.decimalAt? (top - (digits : Int))
    (found.getD (x.neighbours (top - 16)).1).trimmed 17

structure Layout where
  leastPositional : Int
  greatestPositional : Int

def Layout.standard : Layout := ⟨-5, 15⟩

def Scaled.text (layout : Layout) (x : Scaled) : String :=
  let digits := Nat.toDigits 10 x.digits
  let top : Int := x.exponent + digits.length - 1
  if x.digits = 0 then "0.0"
  else if layout.leastPositional ≤ top ∧ top ≤ layout.greatestPositional then
    if top < 0 then
      "0." ++ String.ofList (List.replicate (-top - 1).toNat '0' ++ digits)
    else if 0 ≤ x.exponent then
      String.ofList (digits ++ List.replicate x.exponent.toNat '0') ++ ".0"
    else
      String.ofList (digits.take (top.toNat + 1)) ++ "." ++
        String.ofList (digits.drop (top.toNat + 1))
  else
    let fraction := match digits.tail with
      | [] => ""
      | rest => "." ++ String.ofList rest
    String.ofList (digits.take 1) ++ fraction ++ "e" ++ (if top < 0 then "-" else "+") ++
      Nat.repr top.natAbs

end HandlePool.Decimal
