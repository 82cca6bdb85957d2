import HandlePool.Handle

namespace HandlePool.Numbered

def dialNumber (number : UInt16) : Except String UInt64 :=
  if number = 0 then .error "port 0 refused" else .ok number.toUInt64

inductive Fault where
  | empty
  | invalidDigit
  | tooLarge
deriving DecidableEq, Repr

def Fault.message : Fault → String
  | .empty => "cannot parse integer from empty string"
  | .invalidDigit => "invalid digit found in string"
  | .tooLarge => "number too large to fit in target type"

def readDigits : Nat → List Char → Except Fault Nat
  | n, [] => .ok n
  | n, c :: cs =>
      if !c.isDigit then .error .invalidDigit
      else
        let n := n * 10 + (c.toNat - '0'.toNat)
        if n < 2 ^ 64 then readDigits n cs else .error .tooLarge

def readNumber (text : String) : Except Fault UInt64 :=
  match text.toList with
  | [] => .error .empty
  | ['+'] => .error .invalidDigit
  | '+' :: cs => (readDigits 0 cs).map .ofNat
  | cs => (readDigits 0 cs).map .ofNat

def dialText (text : String) : Except String UInt64 := (readNumber text).mapError Fault.message

def numberDialerText : String :=
  Text.record "FnFactory" [
    ("handle", Text.quoted "connpool::testing::MockHandle"),
    ("param", Text.quoted "u16")]

def textDialerText : String :=
  Text.record "FnFactory" [
    ("handle", Text.quoted "connpool::testing::MockHandle"),
    ("param", Text.quoted "alloc::string::String")]

end HandlePool.Numbered
