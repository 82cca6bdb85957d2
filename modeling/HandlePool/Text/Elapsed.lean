namespace HandlePool.Text

def dropTrailingZeros (digits : List Char) : List Char :=
  (digits.reverse.dropWhile (· == '0')).reverse

def fractionText (places n : Nat) : String :=
  let digits := (Nat.repr n).toList
  match dropTrailingZeros (List.replicate (places - digits.length) '0' ++ digits) with
  | [] => ""
  | digits => "." ++ String.ofList digits

def elapsed (micros : Nat) : String :=
  if micros = 0 then "0ns"
  else if micros < 1000 then Nat.repr micros ++ "µs"
  else if micros < 1000000 then
    Nat.repr (micros / 1000) ++ fractionText 3 (micros % 1000) ++ "ms"
  else Nat.repr (micros / 1000000) ++ fractionText 6 (micros % 1000000) ++ "s"

end HandlePool.Text
