import HandlePool.Depot.Action

namespace HandlePool.Scenario

inductive Pick where
  | place (n : Int)
  | step (n : Nat)
deriving DecidableEq, Repr

structure PoolSpec where
  dialer : Option String := none
  parameter : String := ""
  settings : List Limits.Setting := []
deriving DecidableEq, Repr

def PoolSpec.limits (spec : PoolSpec) : Limits := spec.settings.foldl Limits.change {}

inductive Command where
  | makeDialer (name : String) (counted : Bool)
  | plan (dialer : String) (plans : List DialPlan)
  | failNext (dialer : String) (count : Nat)
  | setDelay (dialer : String) (delay : Nat)
  | showDialer (dialer : String)
  | mark (label : String) (mark : Mark)
  | makePool (name id : String) (spec : PoolSpec)
  | rename (pool name : String)
  | showPool (pool : String)
  | checkout (pool : String) (context : Option String)
  | giveBack (pool : String) (pick : Pick)
  | discard (pool : String) (pick : Pick)
  | closeHandle (pick : Pick)
  | lose (pick : Pick)
  | dial (dialer parameter : String)
  | shut (pool : String)
  | drop (step : Nat)
  | pass (time : Nat)
  | jump (time : Nat)
  | makeSignal (name : String) (parent : Option String)
  | makeContext (name : String) (signal : Option String) (deadline timeout : Option Nat)
  | cancelSignal (name : String)
  | cancelContext (name : String)
  | check (context : String)
  | register (directory key name : String) (spec : PoolSpec)
  | find (directory key : String) (name : Option String)
  | unregister (directory key : String) (name : Option String)
  | showDirectory (directory : String)
  | shutAll (directory : String)
deriving DecidableEq, Repr

structure Step where
  command : Command
  settles : Bool := true
deriving DecidableEq, Repr

end HandlePool.Scenario
