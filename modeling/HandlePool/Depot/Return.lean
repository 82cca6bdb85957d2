import HandlePool.Depot.Work

namespace HandlePool.Depot

/-- The books are settled before the handle that had to go is closed. If the slot given back
overflows the gate, that handle is lost. -/
def giveBack (depot : Depot) (task : TaskId) (id : PoolId) (handle : HandleId) : Depot :=
  let overflow := (depot.pool id).slotOverflows
  let (pool, evicted) := (depot.pool id).shelve handle
  let depot := depot.setPool id pool.releaseSlot
  if overflow then depot.finish task (.panicked Gate.overflowText)
  else match evicted with
    | none => depot.finish task .completed
    | some handle => (depot.note (.evicting id)).beginClose task id handle .conclude

def discard (depot : Depot) (task : TaskId) (id : PoolId) (handle : HandleId) : Depot :=
  let overflow := (depot.pool id).slotOverflows
  let depot := depot.setPool id ((depot.pool id).forget 1).releaseSlot
  if overflow then depot.finish task (.panicked Gate.overflowText)
  else if depot.isClosed handle then depot.finish task .completed
  else depot.beginClose task id handle .conclude

def closeAlone (depot : Depot) (task : TaskId) (handle : HandleId) : Depot :=
  (depot.record (.close handle)).enter task
    (.closingAlone handle (depot.timer (depot.handle handle).closeDelay))

def endCloseAlone (depot : Depot) (task : TaskId) (handle : HandleId) : Depot :=
  (depot.endClose handle).finish task
    (match (depot.handle handle).closeFailure with
      | none => .completed
      | some reason => .failed reason)

def call (depot : Depot) (task : TaskId) (dialer : DialerId) (parameter : String) : Depot :=
  let (call, depot) := depot.beginDial dialer parameter
  depot.enter task (.calling call)

def endCall (depot : Depot) (task : TaskId) (call : Call) : Depot :=
  match depot.endDial call with
  | (.connected handle, depot) => depot.finish task (.dialed handle)
  | (.refused reason, depot) => depot.finish task (.failed reason)
  | (.panicked message, depot) => depot.finish task (.panicked message)

end HandlePool.Depot
