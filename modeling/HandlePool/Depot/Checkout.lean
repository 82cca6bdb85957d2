import HandlePool.Depot.Work

namespace HandlePool.Depot

def refusalOf (pool : Pool) : Abort → Refusal
  | .cancelled => .cancelled pool.id
  | .expired => .expired pool.id

def handBack (depot : Depot) (pool : PoolId) (slot reserved : Bool) : Depot :=
  let depot := if reserved then depot.changePool pool Pool.unreserve else depot
  if slot then depot.changePool pool Pool.releaseSlot else depot

def fail (depot : Depot) (task : TaskId) (pool : PoolId) (slot reserved : Bool)
    (outcome : Outcome) : Depot :=
  let overflow := slot && (depot.pool pool).slotOverflows
  (depot.handBack pool slot reserved).finish task
    (if overflow then .panicked Gate.overflowText else outcome)

def admitted (depot : Depot) (task : TaskId) (id : PoolId) (slot : Bool) (waited : Option Nat) :
    Depot :=
  let (pool, count) := ((depot.pool id).recordWait waited).prune depot.isClosed
  let depot := (depot.setPool id pool).enter task (.scanning id slot)
  if count = 0 then depot else depot.note (.pruned id count)

/-- The slot just taken is given back if the context has fired meanwhile. -/
def passGate (depot : Depot) (task : TaskId) (id : PoolId) (context : Context)
    (waited : Option Nat) : Depot :=
  match context.check depot.signals depot.now with
  | none => depot.admitted task id true waited
  | some abort =>
      let overflow := (depot.pool id).gate.any Gate.overflows
      (depot.changePool id (Pool.changeGate Gate.release)).finish task
        (if overflow then .panicked Gate.overflowText
          else .refused (refusalOf (depot.pool id) abort))

def checkout (depot : Depot) (task : TaskId) (id : PoolId) (context : Context) : Depot :=
  match (depot.pool id).gate with
  | none => depot.admitted task id false none
  | some gate =>
      let since := if gate.free = 0 then some depot.now else none
      match context.interrupt depot.signals depot.now with
      | some abort => depot.finish task (.refused (refusalOf (depot.pool id) abort))
      | none =>
          if gate.closed then depot.finish task (.refused (.closed (depot.pool id).id))
          else if gate.free = 0 then
            (depot.changePool id (Pool.changeGate (·.enqueue task))).enter task
              (.queued id context since)
          else
            (depot.changePool id (Pool.changeGate Gate.take)).passGate task id context
              (since.map (depot.now - ·))

def quit (depot : Depot) (task : TaskId) (id : PoolId) (refusal : Refusal) : Depot :=
  let overflow := (depot.pool id).gate.any (·.leaveOverflows task)
  (depot.changePool id (Pool.changeGate (·.leave task))).finish task
    (if overflow then .panicked Gate.overflowText else .refused refusal)

def look (depot : Depot) (task : TaskId) (id : PoolId) (context : Context) (since : Option Nat) :
    Option Depot :=
  match context.interrupt depot.signals depot.now, (depot.pool id).gate with
  | some abort, _ => some (depot.quit task id (refusalOf (depot.pool id) abort))
  | none, none => none
  | none, some gate =>
      if gate.closed then some (depot.quit task id (.closed (depot.pool id).id))
      else if task ∈ gate.granted then
        some ((depot.changePool id (Pool.changeGate (·.collect task))).passGate task id context
          (since.map (depot.now - ·)))
      else none

def reserve (depot : Depot) (task : TaskId) (id : PoolId) (slot : Bool) : Depot :=
  let pool := depot.pool id
  match pool.refusal? with
  | some refusal =>
      let depot := match refusal with
        | .exhausted _ active limit => depot.note (.exhausted id active limit)
        | _ => depot
      depot.fail task id slot false (.refused refusal)
  | none =>
      let depot := depot.setPool id pool.reserve
      match pool.dialer with
      | none =>
          let refusal := Refusal.unconfigured pool.id
          (depot.note (.dialFailed id refusal)).fail task id slot true (.refused refusal)
      | some dialer =>
          let (call, depot) := depot.beginDial dialer pool.parameter
          depot.enter task (.dialing id slot call)

def scan (depot : Depot) (task : TaskId) (id : PoolId) (slot : Bool) : Depot :=
  match (depot.pool id).takeNewest with
  | none => depot.reserve task id slot
  | some (handle, pool) =>
      if (depot.handle handle).usable then
        ((depot.setPool id pool).note (.reusing id)).finish task (.checkedOut id handle)
      else
        let depot := depot.setPool id (pool.forget 1)
        if depot.isClosed handle then depot.enter task (.scanning id slot)
        else depot.beginClose task id handle (.rescan slot)

def endCheckoutDial (depot : Depot) (task : TaskId) (id : PoolId) (slot : Bool) (call : Call) :
    Depot :=
  match depot.endDial call with
  | (.connected handle, depot) =>
      let depot := (depot.changePool id Pool.recordDial).startMonitor handle
      (depot.note (.dialed id (depot.pool id).active)).finish task (.checkedOut id handle)
  | (.refused reason, depot) =>
      let refusal := Refusal.dialFailed (depot.pool id).id reason
      (depot.note (.dialFailed id refusal)).fail task id slot true (.refused refusal)
  | (.panicked message, depot) => depot.fail task id slot true (.panicked message)

end HandlePool.Depot
