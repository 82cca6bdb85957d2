import HandlePool.Text.Quoted

namespace HandlePool

/-- Every refusal names its pool. A dialer that is itself served by a pool fails with that pool's
refusal. -/
inductive Refusal where
  | exhausted (pool : String) (active limit : Nat)
  | closed (pool : String)
  | unconfigured (pool : String)
  | dialFailed (pool : String) (reason : String)
  | dialRefused (pool : String) (reason : Refusal)
  | cancelled (pool : String)
  | expired (pool : String)
deriving DecidableEq, Repr

namespace Refusal

def pool : Refusal → String
  | exhausted pool _ _ | closed pool | unconfigured pool | dialFailed pool _
  | dialRefused pool _ | cancelled pool | expired pool => pool

def retryable : Refusal → Bool
  | exhausted _ _ _ => true
  | _ => false

def message : Refusal → String
  | exhausted pool active limit =>
      "Pool '" ++ pool ++ "' exhausted: " ++ Nat.repr active ++ "/" ++ Nat.repr limit ++
        " handles active"
  | closed pool => "Pool '" ++ pool ++ "' has been closed"
  | unconfigured pool => "Pool '" ++ pool ++ "' has no handle factory configured"
  | dialFailed pool reason => "Factory for pool '" ++ pool ++ "' failed: " ++ reason
  | dialRefused pool reason => "Factory for pool '" ++ pool ++ "' failed: " ++ reason.message
  | cancelled pool => "Checkout from pool '" ++ pool ++ "' was cancelled"
  | expired pool => "Checkout from pool '" ++ pool ++ "' exceeded its deadline"

def reason? : Refusal → Option String
  | dialFailed _ reason => some reason
  | dialRefused _ reason => some reason.message
  | _ => none

def name : Refusal → String
  | exhausted _ _ _ => "PoolExhausted"
  | closed _ => "PoolClosed"
  | unconfigured _ => "FactoryNotConfigured"
  | dialFailed _ _ | dialRefused _ _ => "Factory"
  | cancelled _ => "Cancelled"
  | expired _ => "DeadlineExceeded"

def recordText (refusal : Refusal) : String :=
  Text.record refusal.name (("pool_id", Text.quoted refusal.pool) ::
    match refusal with
    | exhausted _ active limit => [("active", Nat.repr active), ("max_active", Nat.repr limit)]
    | dialFailed _ reason => [("source", Text.quoted reason)]
    | dialRefused _ reason => [("source", reason.recordText)]
    | _ => [])

end Refusal

end HandlePool
