import HandlePool.Limits.Basic
import HandlePool.Json.Number

/-!
Reading limits from a JSON text: an object in which every field may be missing, or an array of the
fields in order, of which the last ones may be missing. The text is read once from left to right
and the first fault ends the reading. The values of unknown fields are skipped.
-/
namespace HandlePool.Limits

open HandlePool.Json

inductive Field where
  | maxIdle
  | maxActive
  | wait
deriving DecidableEq, Repr

namespace Field

def all : List Field := [.maxIdle, .maxActive, .wait]

def name : Field → String
  | .maxIdle => "max_idle"
  | .maxActive => "max_active"
  | .wait => "wait"

def ofName? (name : String) : Option Field := all.find? (·.name == name)

theorem ofName?_name (field : Field) : ofName? field.name = some field := by
  cases field <;> decide

end Field

inductive Found where
  | null
  | bool (value : Bool)
  | natural (value : Nat)
  | negative (magnitude : Nat)
  | real (minus : Bool) (magnitude : Decimal.Binary64)
  | string (text : String)
  | sequence
  | map
deriving DecidableEq, Repr

inductive Expected where
  | size
  | flag
  | limits
deriving DecidableEq, Repr

inductive Fault where
  | grammar
  | duplicate (field : Field)
  | wrongType (found : Found) (expected : Expected)
  | outOfRange (magnitude : Nat)
deriving DecidableEq, Repr

def Found.text : Found → String
  | .null => "null"
  | .bool value => "boolean `" ++ boolText value ++ "`"
  | .natural value => "integer `" ++ Nat.repr value ++ "`"
  | .negative magnitude => "integer `-" ++ Nat.repr magnitude ++ "`"
  | .real minus magnitude =>
      "floating point `" ++ (if minus then "-" else "") ++
        magnitude.shortest.text .standard ++ "`"
  | .string text => "string " ++ Text.quoted text
  | .sequence => "sequence"
  | .map => "map"

def Expected.text : Expected → String
  | .size => "usize"
  | .flag => "a boolean"
  | .limits => "struct Limits"

def Fault.message? : Fault → Option String
  | .grammar => none
  | .duplicate field => some ("duplicate field `" ++ field.name ++ "`")
  | .wrongType found expected =>
      some ("invalid type: " ++ found.text ++ ", expected " ++ expected.text)
  | .outOfRange magnitude =>
      some ("invalid value: integer `-" ++ Nat.repr magnitude ++ "`, expected " ++
        Expected.size.text)

def Found.ofNumber : Number → Found
  | .natural value => .natural value
  | .negative magnitude => .negative magnitude
  | .real minus magnitude => .real minus magnitude

def Found.ofToken? : Token → Option Found
  | .null => some .null
  | .bool value => some (.bool value)
  | .number numeral => numeral.number?.map .ofNumber
  | .string text => text.map .string
  | .openArray => some .sequence
  | .openObject => some .map
  | _ => none

def reject {α : Type} (expected : Expected) (token : Token) : Except Fault α :=
  match Found.ofToken? token with
  | some found => .error (.wrongType found expected)
  | none => .error .grammar

def readSize (token : Token) : Except Fault UInt64 :=
  match token with
  | .number numeral =>
      match numeral.number? with
      | some (.natural value) => .ok (.ofNat value)
      | some (.negative magnitude) => .error (.outOfRange magnitude)
      | _ => reject .size token
  | _ => reject .size token

def readFlag (token : Token) : Except Fault Bool :=
  match token with
  | .bool value => .ok value
  | _ => reject .flag token

structure Draft where
  maxIdle : Option UInt64 := none
  maxActive : Option UInt64 := none
  wait : Option Bool := none
deriving DecidableEq, Repr

namespace Draft

def has (draft : Draft) : Field → Bool
  | .maxIdle => draft.maxIdle.isSome
  | .maxActive => draft.maxActive.isSome
  | .wait => draft.wait.isSome

def fill (draft : Draft) (field : Field) (token : Token) : Except Fault Draft :=
  match field with
  | .maxIdle => (readSize token).map fun value => { draft with maxIdle := some value }
  | .maxActive => (readSize token).map fun value => { draft with maxActive := some value }
  | .wait => (readFlag token).map fun value => { draft with wait := some value }

def limits (draft : Draft) : Limits where
  maxIdle := draft.maxIdle.getD ({} : Limits).maxIdle
  maxActive := draft.maxActive.getD ({} : Limits).maxActive
  wait := draft.wait.getD ({} : Limits).wait

def readElements : List Field → Draft → List Token → Except Fault (Draft × List Token)
  | field :: fields, draft, token :: rest =>
      match draft.fill field token with
      | .error fault => .error fault
      | .ok draft =>
          match rest with
          | .closeArray :: rest => .ok (draft, rest)
          | .comma :: rest => readElements fields draft rest
          | _ => .error .grammar
  | _, _, _ => .error .grammar

def readArray : List Token → Except Fault (Draft × List Token)
  | .closeArray :: rest => .ok ({}, rest)
  | tokens => readElements Field.all {} tokens

def readMember (draft : Draft) (key : String) (tokens : List Token) :
    Except Fault (Draft × List Token) :=
  match Field.ofName? key with
  | some field =>
      if draft.has field then .error (.duplicate field)
      else match tokens with
        | .colon :: token :: rest => (draft.fill field token).map (·, rest)
        | _ => .error .grammar
  | none =>
      match tokens with
      | .colon :: rest =>
          match skipValue rest with
          | some rest => .ok (draft, rest)
          | none => .error .grammar
      | _ => .error .grammar

/-- Reads the members of an object. Every member takes a token, so the number of tokens bounds the
number of turns. -/
def readMembers : Nat → Draft → List Token → Except Fault (Draft × List Token)
  | turns + 1, draft, .string (some key) :: rest =>
      match draft.readMember key rest with
      | .error fault => .error fault
      | .ok (draft, .closeObject :: rest) => .ok (draft, rest)
      | .ok (draft, .comma :: rest) => readMembers turns draft rest
      | .ok _ => .error .grammar
  | _, _, _ => .error .grammar

def readObject : List Token → Except Fault (Draft × List Token)
  | .closeObject :: rest => .ok ({}, rest)
  | tokens => readMembers tokens.length {} tokens

end Draft

def ofTokens : List Token → Except Fault Limits
  | [] => .error .grammar
  | token :: rest =>
      let reading :=
        match token with
        | .openArray => Draft.readArray rest
        | .openObject => Draft.readObject rest
        | token => reject .limits token
      match reading with
      | .ok (draft, []) => .ok draft.limits
      | .ok _ => .error .grammar
      | .error fault => .error fault

def read (text : String) : Except Fault Limits := ofTokens (tokens text)

end HandlePool.Limits
