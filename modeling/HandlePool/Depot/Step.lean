import HandlePool.Depot.Checkout
import HandlePool.Depot.Return
import HandlePool.Depot.Shutdown

/-!
How a task advances. A step takes it from one phase to the next, and there is none while it is
suspended; a poll takes steps until the task is suspended or over.
-/
namespace HandlePool.Depot

def answer (depot : Depot) (task : TaskId) : Request → Depot
  | .checkout pool context => depot.checkout task pool context
  | .giveBack pool handle => depot.giveBack task pool handle
  | .discard pool handle => depot.discard task pool handle
  | .closeHandle handle => depot.closeAlone task handle
  | .dial dialer parameter => depot.call task dialer parameter
  | .shut pool => depot.enter task (.shutting [pool])
  | .shutAll directory order => depot.shutAll task directory order

def resume (depot : Depot) (task : TaskId) (pool : PoolId) : Errand → Depot
  | .rescan slot => depot.enter task (.scanning pool slot)
  | .conclude => depot.finish task .completed
  | .drain rest later => depot.enter task (.draining pool rest later)

def stepFrom (depot : Depot) (task : TaskId) (request : Request) : Phase → Option Depot
  | .asked => some (depot.answer task request)
  | .queued pool context since => depot.look task pool context since
  | .scanning pool slot => some (depot.scan task pool slot)
  | .dialing pool slot call =>
      if depot.elapsed call.due then some (depot.endCheckoutDial task pool slot call) else none
  | .closing pool handle due errand =>
      if depot.elapsed due then some ((depot.endPoolClose pool handle).resume task pool errand)
      else none
  | .draining pool handles later => some (depot.drainNext task pool later handles)
  | .shutting pools => some (depot.shutNext task pools)
  | .calling call => if depot.elapsed call.due then some (depot.endCall task call) else none
  | .closingAlone handle due =>
      if depot.elapsed due then some (depot.endCloseAlone task handle) else none
  | .finished _ | .dropped => none

def step? (depot : Depot) (task : TaskId) : Option Depot :=
  depot.tasks[task]?.bind fun found => depot.stepFrom task found.request found.phase

def ready (depot : Depot) (task : TaskId) : Bool := (depot.step? task).isSome

def shutLoad (depot : Depot) : List PoolId → Nat
  | [] => 1
  | id :: later => 2 * (depot.pool id).idle.size + 3 + depot.shutLoad later

def scanLoad (depot : Depot) (id : PoolId) : Nat := 2 * (depot.pool id).idle.size + 3

def requestLoad (depot : Depot) : Request → Nat
  | .checkout pool _ => depot.scanLoad pool + 2
  | .shut pool => depot.shutLoad [pool] + 1
  | .shutAll directory order => depot.shutLoad ((depot.directory directory).poolsBy order) + 1
  | _ => 2

/-- A bound on the steps that a task can take before it is suspended for good or over. -/
def load (depot : Depot) (request : Request) : Phase → Nat
  | .asked => depot.requestLoad request
  | .queued pool _ _ => depot.scanLoad pool + 1
  | .scanning pool _ => depot.scanLoad pool
  | .closing pool _ _ (.rescan _) => depot.scanLoad pool + 1
  | .closing _ _ _ (.drain rest later) => 2 * rest.length + 3 + depot.shutLoad later
  | .draining _ handles later => 2 * handles.length + 2 + depot.shutLoad later
  | .shutting pools => depot.shutLoad pools
  | .finished _ | .dropped => 0
  | _ => 1

def advance : Nat → Depot → TaskId → Depot
  | 0, depot, _ => depot
  | turns + 1, depot, task =>
      match depot.step? task with
      | none => depot
      | some depot => advance turns depot task

def poll (depot : Depot) (task : TaskId) : Depot :=
  match depot.tasks[task]? with
  | none => depot
  | some found => advance (depot.load found.request found.phase) depot task

def start (depot : Depot) (request : Request) : Depot :=
  ({ depot with tasks := depot.tasks ++ [{ request }] } : Depot).poll depot.tasks.length

/-- What is undone when a task is dropped where it is suspended. A handle that it was closing is
left as it is. -/
def undo (depot : Depot) (task : TaskId) : Phase → Depot
  | .queued pool _ _ => depot.changePool pool (Pool.changeGate (·.leave task))
  | .scanning pool slot | .closing pool _ _ (.rescan slot) => depot.handBack pool slot false
  | .dialing pool slot _ => depot.handBack pool slot true
  | _ => depot

def drop (depot : Depot) (task : TaskId) : Depot :=
  match depot.phase? task with
  | none => depot
  | some phase => if phase.isOver then depot else (depot.undo task phase).enter task .dropped

end HandlePool.Depot
