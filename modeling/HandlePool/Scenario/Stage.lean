import HandlePool.Depot.Schedule
import HandlePool.Scenario.Command
import HandlePool.Scenario.Reply

namespace HandlePool.Scenario

abbrev Names (α : Type) := List (String × α)

def Names.bind {α : Type} (names : Names α) (name : String) (value : α) : Names α :=
  (name, value) :: names.filter (·.1 != name)

structure Stage where
  depot : Depot := {}
  dialers : Names DialerId := []
  pools : Names PoolId := []
  signals : Names SignalId := []
  contexts : Names Context := []
  directories : Names DirectoryId := []
  starts : List Nat := []
  steps : Nat := 0

namespace Stage

def act (stage : Stage) (action : Action) : Stage :=
  { stage with depot := stage.depot.act action }

def launch (stage : Stage) (action : Action) : Stage :=
  { stage.act action with starts := stage.starts ++ [stage.steps] }

def taskOf? (stage : Stage) (step : Nat) : Option TaskId := stage.starts.idxOf? step

def stepOf (stage : Stage) (task : TaskId) : Nat := stage.starts.getD task 0

def place? (stage : Stage) : Pick → Option Nat
  | .place n =>
      if stage.depot.held.isEmpty then none
      else some (n % stage.depot.held.length).toNat
  | .step n => do
      let task ← stage.taskOf? n
      stage.depot.held.findIdx? (·.task == task)

def launchOn (stage : Stage) (pick : Pick) (action : Nat → Action) : Stage × Reply :=
  match stage.place? pick with
  | none => (stage, .absent)
  | some place =>
      match stage.depot.held[place]? with
      | none => (stage, .absent)
      | some holding => (stage.launch (action place), .text (stage.depot.label holding.handle))

def lose (stage : Stage) (pick : Pick) : Stage × Reply :=
  match stage.place? pick with
  | none => (stage, .absent)
  | some place =>
      match stage.depot.held[place]? with
      | none => (stage, .absent)
      | some holding => (stage.act (.lose place), .text (stage.depot.label holding.handle))

def directory (stage : Stage) (name : String) : DirectoryId × Stage :=
  match stage.directories.lookup name with
  | some id => (id, stage)
  | none =>
      let id := stage.depot.directories.length
      (id, { stage.act .makeDirectory with directories := stage.directories.bind name id })

def dialerOf (stage : Stage) (spec : PoolSpec) : Option DialerId :=
  spec.dialer.bind (stage.dialers.lookup ·)

def bindPool (stage : Stage) (name : String) (id : PoolId) : Stage :=
  { stage with pools := stage.pools.bind name id }

def makePool (stage : Stage) (name id : String) (spec : PoolSpec) : Stage × Reply :=
  let count := stage.depot.pools.length
  let stage := stage.act (.makePool id (stage.dialerOf spec) spec.parameter spec.limits)
  if stage.depot.pools.length = count then (stage, .panicked Gate.tooManyText)
  else (stage.bindPool name count, .nothing)

def register (stage : Stage) (directory key name : String) (spec : PoolSpec) : Stage × Reply :=
  let (id, stage) := stage.directory directory
  let (answer, depot) :=
    stage.depot.register id key (stage.dialerOf spec) spec.parameter spec.limits
  let stage := { stage with depot }
  match answer with
  | none => (stage, .panicked Gate.tooManyText)
  | some pool => (stage.bindPool name pool, .entry (depot.pool pool))

def tell (stage : Stage) (name : Option String) : Option PoolId → Stage × Reply
  | none => (stage, .nothing)
  | some pool => (name.elim stage (stage.bindPool · pool), .text (stage.depot.pool pool).id)

def makeContext (stage : Stage) (name : String) (signal : Option String)
    (deadline timeout : Option Nat) : Stage :=
  let (signal, stage) :=
    match signal.bind (stage.signals.lookup ·) with
    | some signal => (signal, stage)
    | none => (stage.depot.signals.length, stage.act (.makeSignal none))
  let deadline := (timeout.map (stage.depot.now + ·)).or deadline
  { stage with contexts := stage.contexts.bind name ⟨some signal, deadline⟩ }

def showDialer (stage : Stage) (dialer : DialerId) : Reply :=
  match (stage.depot.dialer dialer).conduct with
  | .counted counter => .counterState counter (counter.handles.map stage.depot.handle)
  | .scripted _ => .nothing

def mark (stage : Stage) (label : String) (mark : Mark) : Stage × Reply :=
  match (List.range stage.depot.handles.length).find? (stage.depot.label · == label) with
  | none => (stage, .absent)
  | some handle =>
      let stage := stage.act (.mark handle mark)
      (stage, .handleState (stage.depot.handle handle))

def drop (stage : Stage) (step : Nat) : Stage × Reply :=
  match stage.taskOf? step with
  | none => (stage, .flag false)
  | some task =>
      let unfinished := (stage.depot.phase? task).any (!·.isOver)
      (stage.act (.drop task), .flag unfinished)

def withName {α : Type} (stage : Stage) (names : Names α) (name : String)
    (use : α → Stage × Reply) : Stage × Reply :=
  match names.lookup name with
  | none => (stage, .nothing)
  | some value => use value

def perform (stage : Stage) : Command → Stage × Reply
  | .makeDialer name counted =>
      let conduct := if counted then Conduct.counted {} else .scripted {}
      ({ stage.act (.makeDialer name conduct) with
        dialers := stage.dialers.bind name stage.depot.dialers.length }, .nothing)
  | .plan dialer plans =>
      stage.withName stage.dialers dialer fun id => (stage.act (.changeScript id plans), .nothing)
  | .failNext dialer count =>
      stage.withName stage.dialers dialer fun id => (stage.act (.failNext id count), .nothing)
  | .setDelay dialer delay =>
      stage.withName stage.dialers dialer fun id => (stage.act (.setDelay id delay), .nothing)
  | .showDialer dialer =>
      stage.withName stage.dialers dialer fun id => (stage, stage.showDialer id)
  | .mark label mark => stage.mark label mark
  | .makePool name id spec => stage.makePool name id spec
  | .rename pool name =>
      stage.withName stage.pools pool fun id => (stage.bindPool name id, .nothing)
  | .showPool pool =>
      stage.withName stage.pools pool fun id => (stage, .poolState (stage.depot.pool id))
  | .checkout pool context =>
      stage.withName stage.pools pool fun id =>
        let context := (context.bind (stage.contexts.lookup ·)).getD {}
        (stage.launch (.checkout id context), .nothing)
  | .giveBack pool pick =>
      stage.withName stage.pools pool fun id => stage.launchOn pick (.giveBack id)
  | .discard pool pick =>
      stage.withName stage.pools pool fun id => stage.launchOn pick (.discard id)
  | .closeHandle pick => stage.launchOn pick .closeHeld
  | .lose pick => stage.lose pick
  | .dial dialer parameter =>
      stage.withName stage.dialers dialer fun id => (stage.launch (.dial id parameter), .nothing)
  | .shut pool => stage.withName stage.pools pool fun id => (stage.launch (.shut id), .nothing)
  | .drop step => stage.drop step
  | .pass time => ({ stage with depot := stage.depot.pass time }, .nothing)
  | .jump time => ({ stage with depot := stage.depot.jump time }, .nothing)
  | .makeSignal name parent =>
      ({ stage.act (.makeSignal (parent.bind (stage.signals.lookup ·))) with
        signals := stage.signals.bind name stage.depot.signals.length }, .nothing)
  | .makeContext name signal deadline timeout =>
      (stage.makeContext name signal deadline timeout, .nothing)
  | .cancelSignal name =>
      stage.withName stage.signals name fun signal => (stage.act (.fire signal), .nothing)
  | .cancelContext name =>
      stage.withName stage.contexts name fun context =>
        (context.signal.elim stage fun signal => stage.act (.fire signal), .nothing)
  | .check name =>
      stage.withName stage.contexts name fun context =>
        (stage, .verdict (context.check stage.depot.signals stage.depot.now) context.deadline)
  | .register directory key name spec => stage.register directory key name spec
  | .find directory key name =>
      let (id, stage) := stage.directory directory
      stage.tell name (stage.depot.registered? id key)
  | .unregister directory key name =>
      let (id, stage) := stage.directory directory
      let (answer, depot) := stage.depot.unregister id key
      { stage with depot }.tell name answer
  | .showDirectory directory =>
      let (id, stage) := stage.directory directory
      (stage, .directoryState (stage.depot.directory id))
  | .shutAll directory =>
      let (id, stage) := stage.directory directory
      (stage.launch (.shutAll id []), .nothing)

end Stage

end HandlePool.Scenario
