import HandlePool.Context
import HandlePool.Dialer
import HandlePool.Directory

namespace HandlePool

inductive Request where
  | checkout (pool : PoolId) (context : Context)
  | giveBack (pool : PoolId) (handle : HandleId)
  | discard (pool : PoolId) (handle : HandleId)
  | closeHandle (handle : HandleId)
  | dial (dialer : DialerId) (parameter : String)
  | shut (pool : PoolId)
  | shutAll (directory : DirectoryId) (order : List String)
deriving DecidableEq, Repr

/-- What a task does for a pool once the handle it is closing is closed: a checkout goes on
scanning, a return is done, a shutdown goes on to the other drained handles and then to the other
pools. -/
inductive Errand where
  | rescan (slot : Bool)
  | conclude
  | drain (rest : List HandleId) (later : List PoolId)
deriving DecidableEq, Repr

inductive Outcome where
  | checkedOut (pool : PoolId) (handle : HandleId)
  | dialed (handle : HandleId)
  | completed
  | refused (refusal : Refusal)
  | failed (message : String)
  | panicked (message : String)
deriving DecidableEq, Repr

/-- Between two steps a task is in one of these. Whether a checkout owns a slot of its pool's gate
is its `slot`; one that dials has reserved room for the handle. -/
inductive Phase where
  | asked
  | queued (pool : PoolId) (context : Context) (since : Option Nat)
  | scanning (pool : PoolId) (slot : Bool)
  | dialing (pool : PoolId) (slot : Bool) (call : Call)
  | closing (pool : PoolId) (handle : HandleId) (due : Option Nat) (errand : Errand)
  | draining (pool : PoolId) (handles : List HandleId) (later : List PoolId)
  | shutting (pools : List PoolId)
  | calling (call : Call)
  | closingAlone (handle : HandleId) (due : Option Nat)
  | finished (outcome : Outcome)
  | dropped
deriving DecidableEq, Repr

namespace Phase

def isOver : Phase → Bool
  | finished _ | dropped => true
  | _ => false

def due? : Phase → Option Nat
  | queued _ context _ => context.deadline
  | dialing _ _ call | calling call => call.due
  | closing _ _ due _ | closingAlone _ due => due
  | _ => none

end Phase

structure Task where
  request : Request
  phase : Phase := .asked
deriving DecidableEq, Repr

end HandlePool
