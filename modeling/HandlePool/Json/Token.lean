/-!
The tokens of a JSON text. Reading stops at the first character that no token can begin or go on
with, and puts `junk` in its place.
-/
namespace HandlePool.Json

structure Numeral where
  negative : Bool
  whole : List Char
  fraction : List Char
  exponent : Option (Bool × List Char)
deriving DecidableEq, Repr

inductive Token where
  | openObject
  | closeObject
  | openArray
  | closeArray
  | colon
  | comma
  | null
  | bool (value : Bool)
  | number (numeral : Numeral)
  | string (text : Option String)
  | junk
deriving DecidableEq, Repr

def isBlank (c : Char) : Bool := c == ' ' || c == '\n' || c == '\t' || c == '\r'

def splitDigits (cs : List Char) : List Char × List Char :=
  (cs.takeWhile Char.isDigit, cs.dropWhile Char.isDigit)

namespace Numeral

def readWhole (cs : List Char) : Option (List Char × List Char) :=
  match splitDigits cs with
  | ([], _) => none
  | ('0' :: _ :: _, _) => none
  | (digits, rest) => some (digits, rest)

def readFraction : List Char → Option (List Char × List Char)
  | '.' :: cs =>
      match splitDigits cs with
      | ([], _) => none
      | (digits, rest) => some (digits, rest)
  | cs => some ([], cs)

def readSign : List Char → Bool × List Char
  | '-' :: cs => (true, cs)
  | '+' :: cs => (false, cs)
  | cs => (false, cs)

def readExponent : List Char → Option (Option (Bool × List Char) × List Char)
  | c :: cs =>
      if c == 'e' || c == 'E' then
        let (negative, cs) := readSign cs
        match splitDigits cs with
        | ([], _) => none
        | (digits, rest) => some (some (negative, digits), rest)
      else some (none, c :: cs)
  | [] => some (none, [])

def readUnsigned (negative : Bool) (cs : List Char) : Option (Numeral × List Char) :=
  match readWhole cs with
  | none => none
  | some (whole, cs) =>
      match readFraction cs with
      | none => none
      | some (fraction, cs) =>
          match readExponent cs with
          | none => none
          | some (exponent, cs) => some (⟨negative, whole, fraction, exponent⟩, cs)

def read : List Char → Option (Numeral × List Char)
  | '-' :: cs => readUnsigned true cs
  | cs => readUnsigned false cs

end Numeral

def hexValue? (c : Char) : Option Nat :=
  if '0' ≤ c ∧ c ≤ '9' then some (c.toNat - '0'.toNat)
  else if 'a' ≤ c ∧ c ≤ 'f' then some (c.toNat - 'a'.toNat + 10)
  else if 'A' ≤ c ∧ c ≤ 'F' then some (c.toNat - 'A'.toNat + 10)
  else none

def hexUnit? (a b c d : Char) : Option Nat :=
  match hexValue? a, hexValue? b, hexValue? c, hexValue? d with
  | some a, some b, some c, some d => some (((a * 16 + b) * 16 + c) * 16 + d)
  | _, _, _, _ => none

def shortEscape? : Char → Option Nat
  | '"' => some 0x22
  | '\\' => some 0x5c
  | '/' => some 0x2f
  | 'b' => some 0x08
  | 'f' => some 0x0c
  | 'n' => some 0x0a
  | 'r' => some 0x0d
  | 't' => some 0x09
  | _ => none

/-- The units of a string up to its closing quote, after those already read: code points, and the
surrogates that escapes may name. -/
def readUnits : List Char → List Nat → Option (List Nat × List Char)
  | [], _ => none
  | '"' :: cs, units => some (units.reverse, cs)
  | '\\' :: 'u' :: a :: b :: c :: d :: cs, units =>
      match hexUnit? a b c d with
      | some unit => readUnits cs (unit :: units)
      | none => none
  | '\\' :: c :: cs, units =>
      match shortEscape? c with
      | some unit => readUnits cs (unit :: units)
      | none => none
  | c :: cs, units => if c.toNat < 0x20 then none else readUnits cs (c.toNat :: units)

def isHighSurrogate (unit : Nat) : Bool := 0xd800 ≤ unit && unit < 0xdc00

def isLowSurrogate (unit : Nat) : Bool := 0xdc00 ≤ unit && unit < 0xe000

def joinUnits : List Nat → List Char → Option (List Char)
  | [], chars => some chars.reverse
  | high :: low :: units, chars =>
      if isHighSurrogate high then
        if isLowSurrogate low then
          joinUnits units
            (Char.ofNat (0x10000 + (high - 0xd800) * 0x400 + (low - 0xdc00)) :: chars)
        else none
      else if isLowSurrogate high then none
      else joinUnits (low :: units) (Char.ofNat high :: chars)
  | [unit], chars =>
      if isHighSurrogate unit || isLowSurrogate unit then none
      else some (Char.ofNat unit :: chars).reverse

def readToken (cs : List Char) : Option (Token × List Char) :=
  match cs with
  | '\x7b' :: cs => some (.openObject, cs)
  | '\x7d' :: cs => some (.closeObject, cs)
  | '[' :: cs => some (.openArray, cs)
  | ']' :: cs => some (.closeArray, cs)
  | ':' :: cs => some (.colon, cs)
  | ',' :: cs => some (.comma, cs)
  | 'n' :: 'u' :: 'l' :: 'l' :: cs => some (.null, cs)
  | 't' :: 'r' :: 'u' :: 'e' :: cs => some (.bool true, cs)
  | 'f' :: 'a' :: 'l' :: 's' :: 'e' :: cs => some (.bool false, cs)
  | '"' :: cs =>
      (readUnits cs []).map fun (units, cs) =>
        (.string ((joinUnits units []).map String.ofList), cs)
  | cs => (Numeral.read cs).map fun (numeral, cs) => (.number numeral, cs)

/-- The tokens of a text after those already read, the last one first. Every token takes a
character, so the length of the text bounds the number of turns. -/
def tokensOnto : Nat → List Char → List Token → List Token
  | _, [], done => done.reverse
  | 0, _ :: _, done => done.reverse
  | turns + 1, c :: cs, done =>
      if isBlank c then tokensOnto turns cs done
      else match readToken (c :: cs) with
        | some (token, cs) => tokensOnto turns cs (token :: done)
        | none => (.junk :: done).reverse

def tokens (text : String) : List Token := tokensOnto text.toList.length text.toList []

inductive Bracket where
  | array
  | object
deriving DecidableEq, Repr

inductive Awaited where
  | value
  | valueOrEnd
  | key
  | keyOrEnd
  | colon
  | commaOrEnd
deriving DecidableEq, Repr

inductive Turn where
  | refused
  | finished
  | next (awaited : Awaited) (brackets : List Bracket)
deriving DecidableEq, Repr

def Turn.ended : List Bracket → Turn
  | [] => .finished
  | brackets => .next .commaOrEnd brackets

def Turn.began (brackets : List Bracket) : Token → Turn
  | .openArray => .next .valueOrEnd (.array :: brackets)
  | .openObject => .next .keyOrEnd (.object :: brackets)
  | .null | .bool _ | .number _ | .string _ => .ended brackets
  | _ => .refused

def Turn.of (brackets : List Bracket) : Awaited → Token → Turn
  | .value, token => .began brackets token
  | .valueOrEnd, .closeArray => .ended brackets.tail
  | .valueOrEnd, token => .began brackets token
  | .key, .string _ => .next .colon brackets
  | .keyOrEnd, .string _ => .next .colon brackets
  | .keyOrEnd, .closeObject => .ended brackets.tail
  | .colon, .colon => .next .value brackets
  | .commaOrEnd, token =>
      match brackets, token with
      | .array :: _, .comma => .next .value brackets
      | .object :: _, .comma => .next .key brackets
      | .array :: outer, .closeArray => .ended outer
      | .object :: outer, .closeObject => .ended outer
      | _, _ => .refused
  | _, _ => .refused

def skipWithin (awaited : Awaited) (brackets : List Bracket) : List Token → Option (List Token)
  | [] => none
  | token :: rest =>
      match Turn.of brackets awaited token with
      | .refused => none
      | .finished => some rest
      | .next awaited brackets => skipWithin awaited brackets rest

def skipValue (tokens : List Token) : Option (List Token) := skipWithin .value [] tokens

end HandlePool.Json
