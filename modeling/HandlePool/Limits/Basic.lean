import HandlePool.Json.Value
import HandlePool.Text.Quoted

namespace HandlePool

structure Limits where
  maxIdle : UInt64 := 10
  maxActive : UInt64 := 0
  wait : Bool := false
deriving DecidableEq, Repr, Inhabited

namespace Limits

def bounded (limits : Limits) : Bool := limits.maxActive != 0

def boundedWait (limits : Limits) : Bool := limits.wait && limits.bounded

def toValue (limits : Limits) : Json.Value :=
  .object [
    ("max_idle", .natural limits.maxIdle.toNat),
    ("max_active", .natural limits.maxActive.toNat),
    ("wait", .bool limits.wait)]

def text (limits : Limits) : String := limits.toValue.text

def recordText (limits : Limits) : String :=
  Text.record "Limits" [
    ("max_idle", Nat.repr limits.maxIdle.toNat),
    ("max_active", Nat.repr limits.maxActive.toNat),
    ("wait", Json.boolText limits.wait)]

inductive Setting where
  | maxIdle (value : UInt64)
  | maxActive (value : UInt64)
  | wait (value : Bool)
  | all (limits : Limits)
deriving DecidableEq, Repr

def change (limits : Limits) : Setting → Limits
  | .maxIdle value => { limits with maxIdle := value }
  | .maxActive value => { limits with maxActive := value }
  | .wait value => { limits with wait := value }
  | .all limits => limits

def changes (limits : Limits) : List Setting → List Limits
  | [] => [limits]
  | setting :: settings => limits :: (limits.change setting).changes settings

def configText (hasDialer : Bool) (limits : Limits) : String :=
  Text.record "Config" [
    ("factory", Json.boolText hasDialer),
    ("limits", limits.recordText)]

end Limits

end HandlePool
