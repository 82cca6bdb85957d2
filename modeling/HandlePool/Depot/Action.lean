import HandlePool.Depot.Step

namespace HandlePool

/-- Held handles are named by their place among the handles that callers hold. -/
inductive Action where
  | makeSignal (parent : Option SignalId)
  | fire (signal : SignalId)
  | makeDialer (name : String) (conduct : Conduct)
  | changeScript (dialer : DialerId) (plans : List DialPlan)
  | failNext (dialer : DialerId) (count : Nat)
  | setDelay (dialer : DialerId) (delay : Nat)
  | mark (handle : HandleId) (mark : Mark)
  | makePool (id : String) (dialer : Option DialerId) (parameter : String) (limits : Limits)
  | makeDirectory
  | register (directory : DirectoryId) (key : String) (dialer : Option DialerId)
      (parameter : String) (limits : Limits)
  | unregister (directory : DirectoryId) (key : String)
  | checkout (pool : PoolId) (context : Context)
  | giveBack (pool : PoolId) (place : Nat)
  | discard (pool : PoolId) (place : Nat)
  | closeHeld (place : Nat)
  | lose (place : Nat)
  | dial (dialer : DialerId) (parameter : String)
  | shut (pool : PoolId)
  | shutAll (directory : DirectoryId) (order : List String)
  | poll (task : TaskId)
  | drop (task : TaskId)
  | elapse (time : Nat)
  | runMonitors
deriving DecidableEq, Repr

namespace Depot

def addPool? (depot : Depot) (id : String) (dialer : Option DialerId) (parameter : String)
    (limits : Limits) : Option Depot :=
  (Pool.open? id dialer parameter limits).map fun pool =>
    { depot with pools := depot.pools ++ [pool] }

def registered? (depot : Depot) (id : DirectoryId) (key : String) : Option PoolId :=
  (depot.directory id).find? key

/-- Answers with the pool under the key, which is made if there is none. The key is noted before the
pool is made. If none can be made the directory stays as it is. -/
def register (depot : Depot) (id : DirectoryId) (key : String) (dialer : Option DialerId)
    (parameter : String) (limits : Limits) : Option PoolId × Depot :=
  match depot.registered? id key with
  | some pool => (some pool, depot)
  | none =>
      let depot := depot.note (.registered key)
      match depot.addPool? key dialer parameter limits with
      | none => (none, depot)
      | some added =>
          (some depot.pools.length,
            added.setDirectory id ((depot.directory id).insert key depot.pools.length))

def unregister (depot : Depot) (id : DirectoryId) (key : String) : Option PoolId × Depot :=
  (depot.registered? id key, depot.setDirectory id ((depot.directory id).erase key))

def surrender (depot : Depot) (place : Nat) (request : HandleId → Request) : Depot :=
  match depot.held[place]? with
  | none => depot
  | some holding =>
      ({ depot with held := depot.held.eraseIdx place } : Depot).start (request holding.handle)

def act (depot : Depot) : Action → Depot
  | .makeSignal parent => { depot with signals := depot.signals.make parent }
  | .fire signal => { depot with signals := depot.signals.fire signal }
  | .makeDialer name conduct => { depot with dialers := depot.dialers ++ [⟨name, conduct⟩] }
  | .changeScript dialer plans => depot.changeDialer dialer (Dialer.extend plans)
  | .failNext dialer count => depot.changeDialer dialer (Dialer.failNext count)
  | .setDelay dialer delay => depot.changeDialer dialer (Dialer.setDelay delay)
  | .mark handle mark => depot.changeHandle handle (Handle.marked · mark)
  | .makePool id dialer parameter limits =>
      (depot.addPool? id dialer parameter limits).getD depot
  | .makeDirectory => { depot with directories := depot.directories ++ [{}] }
  | .register directory key dialer parameter limits =>
      (depot.register directory key dialer parameter limits).2
  | .unregister directory key => (depot.unregister directory key).2
  | .checkout pool context => depot.start (.checkout pool context)
  | .giveBack pool place => depot.surrender place (.giveBack pool)
  | .discard pool place => depot.surrender place (.discard pool)
  | .closeHeld place => depot.surrender place .closeHandle
  | .lose place => { depot with held := depot.held.eraseIdx place }
  | .dial dialer parameter => depot.start (.dial dialer parameter)
  | .shut pool => depot.start (.shut pool)
  | .shutAll directory order => depot.start (.shutAll directory order)
  | .poll task => depot.poll task
  | .drop task => depot.drop task
  | .elapse time => { depot with now := depot.now + time }
  | .runMonitors => depot.runMonitors

def run (depot : Depot) (actions : List Action) : Depot := actions.foldl act depot

end Depot

end HandlePool
