import HandlePool.Task

namespace HandlePool

inductive Note where
  | registered (key : String)
  | reusing (pool : PoolId)
  | pruned (pool : PoolId) (count : Nat)
  | exhausted (pool : PoolId) (active limit : Nat)
  | dialed (pool : PoolId) (active : Nat)
  | dialFailed (pool : PoolId) (refusal : Refusal)
  | evicting (pool : PoolId)
  | closing (pool : PoolId) (idle : Nat)
  | closeFailed (pool : PoolId) (reason : String)
deriving DecidableEq, Repr

inductive Event where
  | dial (dialer : DialerId) (parameter : Option String)
  | close (handle : HandleId)
  | closed (handle : HandleId) (failure : Option String)
  | monitor (handle : HandleId)
  | done (task : TaskId) (outcome : Outcome)
  | noted (note : Note)
deriving DecidableEq, Repr

end HandlePool
