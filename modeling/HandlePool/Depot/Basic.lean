import HandlePool.Event

namespace HandlePool

structure Holding where
  task : TaskId
  handle : HandleId
  pool : Option PoolId
deriving DecidableEq, Repr

/-- Things are numbered in the order of their making and stay for good. Monitors are those started
and not yet run; the trace grows at its end. -/
structure Depot where
  now : Nat := 0
  signals : Signals := []
  dialers : List Dialer := []
  handles : List Handle := []
  pools : List Pool := []
  directories : List Directory := []
  tasks : List Task := []
  held : List Holding := []
  monitors : List HandleId := []
  trace : List Event := []

instance : Inhabited Depot := ⟨{}⟩

namespace Depot

def pool (depot : Depot) (id : PoolId) : Pool := depot.pools.getD id default

def handle (depot : Depot) (id : HandleId) : Handle := depot.handles.getD id default

def dialer (depot : Depot) (id : DialerId) : Dialer := depot.dialers.getD id default

def directory (depot : Depot) (id : DirectoryId) : Directory := depot.directories.getD id default

def setPool (depot : Depot) (id : PoolId) (pool : Pool) : Depot :=
  { depot with pools := depot.pools.set id pool }

def setHandle (depot : Depot) (id : HandleId) (handle : Handle) : Depot :=
  { depot with handles := depot.handles.set id handle }

def setDialer (depot : Depot) (id : DialerId) (dialer : Dialer) : Depot :=
  { depot with dialers := depot.dialers.set id dialer }

def setDirectory (depot : Depot) (id : DirectoryId) (directory : Directory) : Depot :=
  { depot with directories := depot.directories.set id directory }

def changePool (depot : Depot) (id : PoolId) (change : Pool → Pool) : Depot :=
  depot.setPool id (change (depot.pool id))

def changeHandle (depot : Depot) (id : HandleId) (change : Handle → Handle) : Depot :=
  depot.setHandle id (change (depot.handle id))

def changeDialer (depot : Depot) (id : DialerId) (change : Dialer → Dialer) : Depot :=
  depot.setDialer id (change (depot.dialer id))

def isClosed (depot : Depot) (id : HandleId) : Bool := (depot.handle id).closed

def record (depot : Depot) (event : Event) : Depot :=
  { depot with trace := depot.trace ++ [event] }

def note (depot : Depot) (note : Note) : Depot := depot.record (.noted note)

def enter (depot : Depot) (task : TaskId) (phase : Phase) : Depot :=
  { depot with tasks := depot.tasks.modify task ({ · with phase }) }

def phase? (depot : Depot) (task : TaskId) : Option Phase := depot.tasks[task]?.map (·.phase)

def elapsed (depot : Depot) (due : Option Nat) : Bool :=
  match due with
  | none => true
  | some due => Clock.reached depot.now due

def timer (depot : Depot) (delay : Option Nat) : Option Nat := delay.map (depot.now + ·)

def Holding.ofOutcome? (task : TaskId) : Outcome → Option Holding
  | .checkedOut pool handle => some ⟨task, handle, some pool⟩
  | .dialed handle => some ⟨task, handle, none⟩
  | _ => none

def finish (depot : Depot) (task : TaskId) (outcome : Outcome) : Depot :=
  { (depot.enter task (.finished outcome)).record (.done task outcome) with
    held := depot.held ++ (Holding.ofOutcome? task outcome).toList }

end Depot

end HandlePool
