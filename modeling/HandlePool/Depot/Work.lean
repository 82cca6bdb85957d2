import HandlePool.Depot.Basic

namespace HandlePool.Depot

def beginClose (depot : Depot) (task : TaskId) (pool : PoolId) (handle : HandleId)
    (errand : Errand) : Depot :=
  (depot.record (.close handle)).enter task
    (.closing pool handle (depot.timer (depot.handle handle).closeDelay) errand)

def endClose (depot : Depot) (handle : HandleId) : Depot :=
  (depot.changeHandle handle Handle.closeOnce).record
    (.closed handle (depot.handle handle).closeFailure)

def endPoolClose (depot : Depot) (pool : PoolId) (handle : HandleId) : Depot :=
  let depot' := depot.endClose handle
  match (depot.handle handle).closeFailure with
  | none => depot'
  | some reason => depot'.note (.closeFailed pool reason)

def beginDial (depot : Depot) (dialer : DialerId) (parameter : String) : Call × Depot :=
  let (delay, ending) := (depot.dialer dialer).next
  (⟨dialer, depot.timer delay, ending⟩,
    (depot.record (.dial dialer ((depot.dialer dialer).shownParameter parameter))).changeDialer
      dialer Dialer.advance)

inductive Answer where
  | connected (handle : HandleId)
  | refused (reason : String)
  | panicked (message : String)
deriving DecidableEq, Repr

def addHandle (depot : Depot) (id : DialerId) (fitting : Fitting) : Depot :=
  let dialer := depot.dialer id
  { depot.setDialer id (dialer.enroll depot.handles.length) with
    handles := depot.handles ++ [.ofFitting id dialer.serial fitting] }

def endDial (depot : Depot) (call : Call) : Answer × Depot :=
  let (ending, dialer) := (depot.dialer call.dialer).conclude call.ending
  let depot := depot.setDialer call.dialer dialer
  match ending with
  | .connect fitting => (.connected depot.handles.length, depot.addHandle call.dialer fitting)
  | .refuse reason => (.refused reason, depot)
  | .panic message => (.panicked message, depot)

def startMonitor (depot : Depot) (handle : HandleId) : Depot :=
  match (depot.handle handle).monitor with
  | none => depot
  | some _ => { depot with monitors := depot.monitors ++ [handle] }

def runMonitor (depot : Depot) (handle : HandleId) : Depot :=
  (depot.changeHandle handle Handle.monitored).record (.monitor handle)

def runMonitors (depot : Depot) : Depot :=
  depot.monitors.foldl runMonitor { depot with monitors := [] }

end HandlePool.Depot
