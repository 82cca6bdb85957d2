import HandlePool.Scenario.Stage

namespace HandlePool.Scenario

open Json

structure StepReport where
  reply : Reply
  events : List Value
  pending : List Nat
  held : List String
  pools : Names Pool

structure Report where
  steps : List StepReport
  handles : List Value

/-- The pools of a directory are shut in no particular order, so the events of that step are put
in the order of their texts. -/
def Command.sortsEvents : Command → Bool
  | .shutAll _ => true
  | _ => false

def sortByText (values : List Value) : List Value :=
  ((values.map fun value => (value.text, value)).mergeSort
    fun a b => decide (a.1 ≤ b.1)).map (·.2)

namespace Stage

def pending (stage : Stage) : List Nat :=
  ((List.range stage.depot.tasks.length).filter fun task =>
    (stage.depot.phase? task).any (!·.isOver)).map stage.stepOf

def report (stage : Stage) (command : Command) (reply : Reply) (seen : Nat) : StepReport :=
  let rows := (stage.depot.trace.drop seen).map (stage.depot.row stage.stepOf)
  { reply
    events := if command.sortsEvents then sortByText rows else rows
    pending := stage.pending
    held := stage.depot.held.map fun holding => stage.depot.label holding.handle
    pools := stage.pools.map fun (name, pool) => (name, stage.depot.pool pool) }

def play (stage : Stage) (step : Step) : Stage × StepReport :=
  let seen := stage.depot.trace.length
  let (stage, reply) := stage.perform step.command
  let stage := if step.settles then { stage with depot := stage.depot.settle } else stage
  ({ stage with steps := stage.steps + 1 }, stage.report step.command reply seen)

def playAll (stage : Stage) : List Step → Stage × List StepReport
  | [] => (stage, [])
  | step :: steps =>
      let (stage, report) := stage.play step
      let (stage, reports) := stage.playAll steps
      (stage, report :: reports)

def handleRows (stage : Stage) : List Value :=
  sortByText ((List.range stage.depot.handles.length).map fun id =>
    .array [
      stage.depot.labelValue id,
      .bool (stage.depot.handle id).closed,
      .natural (stage.depot.handle id).closeCalls])

end Stage

def play (steps : List Step) : Report :=
  let (stage, reports) := Stage.playAll {} steps
  ⟨reports, stage.handleRows⟩

end HandlePool.Scenario
