import HandlePool.Depot.Action

/-!
The schedule on one thread: of the tasks that are ready the one with the lowest number goes first,
and monitors run when no task is ready. The clock stops at every tick at which a timer goes off.
-/
namespace HandlePool.Depot

def firstReady? (depot : Depot) : Option TaskId :=
  (List.range depot.tasks.length).find? depot.ready

def pollReady : Nat → Depot → Depot
  | 0, depot => depot
  | turns + 1, depot =>
      match depot.firstReady? with
      | none => depot
      | some task => pollReady turns (depot.act (.poll task))

def settle (depot : Depot) : Depot :=
  (pollReady (2 * depot.tasks.length) depot).act .runMonitors

def nextTick? (depot : Depot) : Option Nat :=
  ((depot.tasks.filterMap (·.phase.due?)).map Clock.ticksUntil).min?

def passTo : Nat → Depot → Nat → Depot
  | 0, depot, target => (depot.act (.elapse (target - depot.now))).settle
  | stops + 1, depot, target =>
      match depot.nextTick? with
      | none => (depot.act (.elapse (target - depot.now))).settle
      | some next =>
          if next * Clock.tick ≤ target then
            passTo stops (depot.act (.elapse (next * Clock.tick - depot.now))).settle target
          else (depot.act (.elapse (target - depot.now))).settle

def pass (depot : Depot) (time : Nat) : Depot :=
  let depot := depot.settle
  passTo (Clock.ticks (depot.now + time) - Clock.ticks depot.now) depot (depot.now + time)

def jump (depot : Depot) (time : Nat) : Depot := (depot.settle.act (.elapse time)).settle

end HandlePool.Depot
