/-!
The gate of a pool that makes checkouts wait: it holds free slots and a queue. A released slot goes
to the task that has queued longest and counts as free only if no task is queued.
-/
namespace HandlePool

abbrev TaskId := Nat

structure Gate where
  free : Nat
  closed : Bool := false
  /-- Tasks without a slot, the one queued longest first. -/
  waiting : List TaskId := []
  granted : List TaskId := []
deriving DecidableEq, Repr

namespace Gate

def capacity : Nat := 2305843009213693951

def tooManyText : String :=
  "a semaphore may not have more than MAX_PERMITS permits (" ++ Nat.repr capacity ++ ")"

def overflowText : String :=
  "number of added permits (1) would overflow MAX_PERMITS (" ++ Nat.repr capacity ++ ")"

def open? (slots : Nat) : Option Gate := if slots ≤ capacity then some { free := slots } else none

def release (gate : Gate) : Gate :=
  match gate.waiting with
  | [] => { gate with free := gate.free + 1 }
  | task :: rest => { gate with waiting := rest, granted := gate.granted ++ [task] }

/-- Whether a slot given back finds no taker and no room. The count rises all the same. -/
def overflows (gate : Gate) : Bool := gate.waiting.isEmpty && capacity ≤ gate.free

def take (gate : Gate) : Gate := { gate with free := gate.free - 1 }

def enqueue (gate : Gate) (task : TaskId) : Gate := { gate with waiting := gate.waiting ++ [task] }

def collect (gate : Gate) (task : TaskId) : Gate :=
  { gate with granted := gate.granted.erase task }

def leave (gate : Gate) (task : TaskId) : Gate :=
  if task ∈ gate.granted then (gate.collect task).release
  else { gate with waiting := gate.waiting.erase task }

def leaveOverflows (gate : Gate) (task : TaskId) : Bool :=
  decide (task ∈ gate.granted) && gate.overflows

def close (gate : Gate) : Gate := { gate with closed := true, waiting := [] }

end Gate

end HandlePool
