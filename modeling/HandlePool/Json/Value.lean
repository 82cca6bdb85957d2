namespace HandlePool.Json

inductive Value where
  | null
  | bool (value : Bool)
  | integer (value : Int)
  | string (value : String)
  | array (items : List Value)
  | object (fields : List (String × Value))

def hexDigit (n : Nat) : Char := (Nat.digitChar (n % 16))

def escape (c : Char) : List Char :=
  match c with
  | '"' => ['\\', '"']
  | '\\' => ['\\', '\\']
  | '\n' => ['\\', 'n']
  | '\r' => ['\\', 'r']
  | '\t' => ['\\', 't']
  | '\x08' => ['\\', 'b']
  | '\x0c' => ['\\', 'f']
  | c =>
      if c.toNat < 0x20 then ['\\', 'u', '0', '0', hexDigit (c.toNat / 16), hexDigit c.toNat]
      else [c]

def stringText (s : String) : String := "\"" ++ String.ofList (s.toList.flatMap escape) ++ "\""

def boolText (b : Bool) : String := if b then "true" else "false"

def integerText : Int → String
  | .ofNat n => Nat.repr n
  | .negSucc n => "-" ++ Nat.repr (n + 1)

namespace Value

mutual

def text : Value → String
  | .null => "null"
  | .bool b => boolText b
  | .integer n => integerText n
  | .string s => stringText s
  | .array items => "[" ++ ",".intercalate (itemTexts items) ++ "]"
  | .object fields => "\x7b" ++ ",".intercalate (fieldTexts fields) ++ "\x7d"

def itemTexts : List Value → List String
  | [] => []
  | item :: items => text item :: itemTexts items

def fieldTexts : List (String × Value) → List String
  | [] => []
  | (name, value) :: fields => (stringText name ++ ":" ++ text value) :: fieldTexts fields

end

def natural (n : Nat) : Value := .integer n

def optional {α : Type} (f : α → Value) : Option α → Value
  | none => .null
  | some a => f a

end Value

end HandlePool.Json
