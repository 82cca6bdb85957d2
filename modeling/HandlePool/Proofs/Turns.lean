import HandlePool.Depot.Action
import HandlePool.Proofs.Moves

/-!
A run taken apart into turns, one for every step of a task. Each turn is a move of a task that has
begun, the beginning of a task, or a change from outside while no task is half done.
-/
namespace HandlePool

structure Turn where
  actor : Option TaskId
  before : Depot
  after : Depot

def Phase.isResting : Phase → Bool
  | .asked | .scanning _ _ | .draining _ _ _ | .shutting _ => false
  | _ => true

def Action.returnsOwn (id : PoolId) (depot : Depot) : Action → Bool
  | .giveBack pool place | .discard pool place =>
      pool != id || depot.held[place]?.all (·.pool == some id)
  | _ => true

def Action.isOutside : Action → Bool
  | .checkout _ _ | .giveBack _ _ | .discard _ _ | .closeHeld _ | .dial _ _ | .shut _
    | .shutAll _ _
  | .poll _ | .drop _ => false
  | _ => true

def Pool.IsFresh (pool : Pool) : Prop :=
  ∃ id dialer parameter limits, Pool.open? id dialer parameter limits = some pool

theorem Pool.IsFresh.made {pool : Pool} (fresh : pool.IsFresh) :
    ∃ id dialer parameter limits gate, pool = { id, dialer, parameter, limits, gate } := by
  obtain ⟨id, dialer, parameter, limits, opened⟩ := fresh
  unfold Pool.open? at opened
  split at opened
  · obtain ⟨gate, -, rfl⟩ := Option.map_eq_some_iff.mp opened
    exact ⟨id, dialer, parameter, limits, some gate, rfl⟩
  · cases opened
    exact ⟨id, dialer, parameter, limits, none, rfl⟩

namespace Depot

/-- Of each handle that goes back to the pool `id` in the course of the actions, that it was checked
out of that pool. That it goes back once is in the nature of holdings. -/
def returnsOwn (id : PoolId) : Depot → List Action → Bool
  | _, [] => true
  | depot, action :: rest => action.returnsOwn id depot && returnsOwn id (depot.act action) rest

def stepTurns : Nat → Depot → TaskId → List Turn
  | 0, _, _ => []
  | turns + 1, depot, task =>
      match depot.step? task with
      | none => []
      | some next => ⟨some task, depot, next⟩ :: stepTurns turns next task

def pollTurns (depot : Depot) (task : TaskId) : List Turn :=
  match depot.tasks[task]? with
  | none => []
  | some found => stepTurns (depot.load found.request found.phase) depot task

def enroll (depot : Depot) (held : List Holding) (request : Request) : Depot :=
  { depot with held, tasks := depot.tasks ++ [{ request }] }

def startTurns (depot : Depot) (held : List Holding) (request : Request) : List Turn :=
  match (depot.enroll held request).pollTurns depot.tasks.length with
  | [] => []
  | first :: rest => { first with before := depot } :: rest

def surrenderTurns (depot : Depot) (place : Nat) (request : HandleId → Request) : List Turn :=
  match depot.held[place]? with
  | none => []
  | some holding => depot.startTurns (depot.held.eraseIdx place) (request holding.handle)

def dropTurns (depot : Depot) (task : TaskId) : List Turn :=
  match depot.phase? task with
  | none => []
  | some phase => if phase.isOver then [] else [⟨some task, depot, depot.drop task⟩]

def turnsOf (depot : Depot) : Action → List Turn
  | .checkout pool context => depot.startTurns depot.held (.checkout pool context)
  | .giveBack pool place => depot.surrenderTurns place (.giveBack pool)
  | .discard pool place => depot.surrenderTurns place (.discard pool)
  | .closeHeld place => depot.surrenderTurns place .closeHandle
  | .dial dialer parameter => depot.startTurns depot.held (.dial dialer parameter)
  | .shut pool => depot.startTurns depot.held (.shut pool)
  | .shutAll directory order => depot.startTurns depot.held (.shutAll directory order)
  | .poll task => depot.pollTurns task
  | .drop task => depot.dropTurns task
  | action => [⟨none, depot, depot.act action⟩]

def turns : Depot → List Action → List Turn
  | _, [] => []
  | depot, action :: rest => depot.turnsOf action ++ turns (depot.act action) rest

def reached : Depot → List Turn → Depot
  | depot, [] => depot
  | _, turn :: rest => reached turn.after rest

/-- The phase of a task; one that is not there yet is about to be asked. -/
def stage (depot : Depot) (task : TaskId) : Phase := (depot.phase? task).getD .asked

def Resting (depot : Depot) : Prop :=
  ∀ task phase, depot.phase? task = some phase → phase.isResting = true

inductive Called (id : PoolId) (depot : Depot) : Request → List Holding → Prop where
  | plain {request} (keeps : request.returned? = none) (bare : request.handle? = none) :
      Called id depot request depot.held
  | surrendered {request place holding} (there : depot.held[place]? = some holding)
      (own : ∀ handle, request.returned? = some (id, handle) →
        holding.pool = some id ∧ holding.handle = handle)
      (brings : request.handle? = some holding.handle) :
      Called id depot request (depot.held.eraseIdx place)

inductive Registering (depot : Depot) (directory : DirectoryId) (key : String)
    (dialer : Option DialerId) (parameter : String) (limits : Limits) :
    Option PoolId × Depot → Prop where
  | found {pool} (there : depot.registered? directory key = some pool) :
      Registering depot directory key dialer parameter limits (some pool, depot)
  | failed (absent : depot.registered? directory key = none)
      (fails : Pool.open? key dialer parameter limits = none) :
      Registering depot directory key dialer parameter limits
        (none, depot.note (.registered key))
  | made {pool} (absent : depot.registered? directory key = none)
      (opens : Pool.open? key dialer parameter limits = some pool) :
      Registering depot directory key dialer parameter limits
        (some depot.pools.length,
          ({ depot.note (.registered key) with pools := depot.pools ++ [pool] } : Depot).setDirectory
            directory ((depot.directory directory).insert key depot.pools.length))

/-- What moves from one depot to the next, with what that can do to the books, and the very step,
drop or action that it is. -/
inductive Move (id : PoolId) (depot : Depot) : Option TaskId → Depot → Prop where
  | begins {request held next} (called : depot.Called id request held)
      (moves : (depot.enroll held request).Moves depot.tasks.length request .asked next)
      (answers : next = (depot.enroll held request).answer depot.tasks.length request) :
      Move id depot (some depot.tasks.length) next
  | steps {task found next} (here : depot.tasks[task]? = some found) (begun : found.phase ≠ .asked)
      (unfinished : found.phase.isOver = false)
      (moves : depot.Moves task found.request found.phase next)
      (goes : depot.stepFrom task found.request found.phase = some next ∨
        next = (depot.undo task found.phase).enter task .dropped) :
      Move id depot (some task) next
  | outside {next} (resting : depot.Resting) (tasks : next.tasks = depot.tasks)
      (held : next.held.Sublist depot.held)
      (pools : next.pools = depot.pools ∨
        ∃ pool : Pool, pool.IsFresh ∧ next.pools = depot.pools ++ [pool])
      (acts : ∃ action : Action, action.isOutside = true ∧ next = depot.act action) :
      Move id depot none next

inductive Chain (id : PoolId) : Depot → List Turn → Depot → Prop where
  | nil (depot) : Chain id depot [] depot
  | cons {depot actor next turns last} (move : Move id depot actor next)
      (rest : Chain id next turns last) : Chain id depot (⟨actor, depot, next⟩ :: turns) last

section

variable {id : PoolId} {depot next last : Depot} {task other : TaskId} {request : Request}
  {phase phase' : Phase}

theorem Chain.append {first second : List Turn} (one : Chain id depot first next)
    (two : Chain id next second last) : Chain id depot (first ++ second) last := by
  induction one with
  | nil => exact two
  | cons move _ ih => exact .cons move (ih two)

theorem Chain.single {actor : Option TaskId} (move : Move id depot actor next) :
    Chain id depot [⟨actor, depot, next⟩] next :=
  .cons move (.nil next)

theorem Chain.keeps_while (Fits : Turn → Prop) {Kept : Depot → Prop} {turns : List Turn}
    (chain : Chain id depot turns last) (fits : ∀ turn ∈ turns, Fits turn)
    (move_keeps : ∀ {depot actor next}, Move id depot actor next → Fits ⟨actor, depot, next⟩ →
      Kept depot → Kept next) (start : Kept depot) :
    Kept last ∧ ∀ turn ∈ turns, Kept turn.before ∧ Kept turn.after := by
  induction chain with
  | nil => exact ⟨start, by simp⟩
  | cons move _ ih =>
      have kept := move_keeps move (fits _ List.mem_cons_self) start
      obtain ⟨end_kept, turns_kept⟩ := ih (fun turn later => fits turn (.tail _ later)) kept
      refine ⟨end_kept, ?_⟩
      intro turn member
      rcases List.mem_cons.mp member with rfl | later
      · exact ⟨start, kept⟩
      · exact turns_kept turn later

theorem Chain.keeps {Kept : Depot → Prop} {turns : List Turn} (chain : Chain id depot turns last)
    (move_keeps : ∀ {depot actor next}, Move id depot actor next → Kept depot → Kept next)
    (start : Kept depot) :
    Kept last ∧ ∀ turn ∈ turns, Kept turn.before ∧ Kept turn.after :=
  chain.keeps_while (fun _ => True) (fun _ _ => trivial) (fun move _ => move_keeps move) start

theorem Chain.reached_eq {turns : List Turn} (chain : Chain id depot turns last) :
    depot.reached turns = last := by
  induction chain with
  | nil => rfl
  | cons move rest ih => exact ih

theorem Chain.front {first later : List Turn} (chain : Chain id depot (first ++ later) last) :
    Chain id depot first (depot.reached first) := by
  induction first generalizing depot with
  | nil => exact .nil depot
  | cons turn rest ih =>
      cases chain with
      | cons move chain => exact .cons move (ih chain)

theorem Chain.back {first later : List Turn} (chain : Chain id depot (first ++ later) last) :
    Chain id (depot.reached first) later last := by
  induction first generalizing depot with
  | nil => exact chain
  | cons turn rest ih =>
      cases chain with
      | cons move chain => exact ih chain

theorem Chain.at_turn {first later : List Turn} {turn : Turn}
    (chain : Chain id depot (first ++ turn :: later) last) :
    Chain id depot first turn.before ∧ Move id turn.before turn.actor turn.after ∧
      Chain id turn.after later last := by
  have front := chain.front
  cases chain.back with
  | cons move rest => exact ⟨front, move, rest⟩

theorem Chain.lasts {Item : Type} {Kept : Depot → Item → Prop} {turns : List Turn}
    (chain : Chain id depot turns last)
    (move_keeps : ∀ item {depot actor next}, Move id depot actor next → Kept depot item →
      Kept next item) :
    turns.Pairwise fun earlier later =>
      ∀ item, Kept earlier.after item → Kept later.after item := by
  induction chain with
  | nil => exact .nil
  | cons move rest ih =>
      refine .cons (fun later member item kept => ?_) ih
      exact ((rest.keeps (move_keeps item) kept).2 later member).2

theorem Chain.move_of_mem {turns : List Turn} {turn : Turn} (chain : Chain id depot turns last)
    (member : turn ∈ turns) : Move id turn.before turn.actor turn.after := by
  induction chain with
  | nil => cases member
  | cons move _ ih =>
      rcases List.mem_cons.mp member with rfl | later
      · exact move
      · exact ih later

theorem stage_length (depot : Depot) : depot.stage depot.tasks.length = .asked := by
  rw [stage, phase?, List.getElem?_eq_none (Nat.le_refl _)]
  rfl

theorem phase?_of_getElem? {found : Task} (here : depot.tasks[task]? = some found) :
    depot.phase? task = some found.phase := by
  rw [phase?, here]
  rfl

theorem phase?_of_moves (moves : depot.Moves task request phase next) (apart : other ≠ task) :
    next.phase? other = depot.phase? other := by
  obtain ⟨phase', id, pool, tasks, -, -, -⟩ := moves
  simp [phase?, tasks, apart.symm]

theorem Effect.begun {pool : Pool} (effect : Effect depot task request id phase phase' pool) :
    phase' ≠ .asked := by
  cases effect with
  | aside _ _ begun => exact begun
  | reject _ _ goes => rcases goes with rfl | ⟨due, rfl⟩ <;> simp
  | giveBack _ goes => rcases goes with ⟨-, rfl⟩ | ⟨-, rfl⟩ | ⟨oldest, due, -, rfl⟩ <;> simp
  | discard _ goes => rcases goes with ⟨-, rfl⟩ | rfl | ⟨due, rfl⟩ <;> simp
  | _ => simp

theorem unfinished_of_stepFrom (step : depot.stepFrom task request phase = some next) :
    phase.isOver = false := by
  cases phase with
  | finished outcome => cases step
  | dropped => cases step
  | _ => rfl

theorem move_of_step? (id : PoolId) (stepped : depot.step? task = some next)
    (begun : ∀ found, depot.tasks[task]? = some found → found.phase ≠ .asked) :
    Move id depot (some task) next ∧
      ∀ later, next.tasks[task]? = some later → later.phase ≠ .asked := by
  -- A task that has begun does not go back to its first phase.
  obtain ⟨found, here, step⟩ := Option.bind_eq_some_iff.mp stepped
  have moves := moves_stepFrom step
  refine ⟨.steps here (begun found here) (unfinished_of_stepFrom step) moves (Or.inl step),
    fun later there => ?_⟩
  obtain ⟨phase', id, pool, tasks, -, -, effect⟩ := moves
  rw [tasks, List.getElem?_modify] at there
  simp only [here] at there
  cases there
  exact effect.begun

theorem chain_stepTurns (id : PoolId) (turns : Nat) (depot : Depot) (task : TaskId)
    (begun : ∀ found, depot.tasks[task]? = some found → found.phase ≠ .asked) :
    Chain id depot (stepTurns turns depot task) (advance turns depot task) := by
  induction turns generalizing depot with
  | zero => exact .nil depot
  | succ turns ih =>
      unfold stepTurns advance
      cases stepped : depot.step? task with
      | none => exact .nil depot
      | some next =>
          obtain ⟨move, going⟩ := move_of_step? id stepped begun
          exact .cons move (ih next going)

theorem phase?_advance (turns : Nat) (depot : Depot) (apart : other ≠ task) :
    (advance turns depot task).phase? other = depot.phase? other := by
  induction turns generalizing depot with
  | zero => rfl
  | succ turns ih =>
      unfold advance
      cases stepped : depot.step? task with
      | none => rfl
      | some next =>
          obtain ⟨found, -, step⟩ := Option.bind_eq_some_iff.mp stepped
          exact (ih next).trans (phase?_of_moves (moves_stepFrom step) apart)

theorem isResting_of_stuck (stuck : depot.stepFrom task request phase = none) :
    phase.isResting = true := by
  cases phase with
  | asked => cases stuck
  | scanning pool slot => cases stuck
  | draining pool handles later => cases stuck
  | shutting pools => cases stuck
  | _ => rfl

theorem resting_poll (others : ∀ other phase, other ≠ task →
    depot.phase? other = some phase → phase.isResting = true) : (depot.poll task).Resting := by
  intro other phase here
  by_cases same : other = task
  · subst same
    obtain ⟨found, there, rfl⟩ := Option.map_eq_some_iff.mp here
    have stuck := step?_poll depot other
    simp only [step?, there, Option.bind_some] at stuck
    exact isResting_of_stuck stuck
  · apply others other phase same
    rw [← here]
    unfold poll
    split
    · rfl
    · exact (phase?_advance _ depot same).symm

theorem begun_of_resting (resting : depot.Resting) {found : Task}
    (here : depot.tasks[task]? = some found) : found.phase ≠ .asked := by
  intro asked
  have rests := resting task found.phase (phase?_of_getElem? here)
  rw [asked] at rests
  cases rests

theorem chain_poll (id : PoolId) (resting : depot.Resting) :
    Chain id depot (depot.pollTurns task) (depot.poll task) := by
  unfold pollTurns poll
  cases there : depot.tasks[task]? with
  | none => exact .nil depot
  | some found => exact chain_stepTurns id _ depot task fun found => begun_of_resting resting

theorem load_asked_pos (depot : Depot) (request : Request) : 0 < depot.load request .asked := by
  cases request with
  | shut id => exact Nat.succ_pos _
  | shutAll directory order => exact Nat.succ_pos _
  | _ => simp [load, requestLoad]

theorem tasks_enroll (depot : Depot) (held : List Holding) (request : Request) :
    (depot.enroll held request).tasks[depot.tasks.length]? = some { request } := by
  simp [enroll]

theorem startTurns_of_load {turns : Nat} {held : List Holding}
    (load : (depot.enroll held request).load request .asked = turns + 1)
    (answers : next = (depot.enroll held request).answer depot.tasks.length request) :
    depot.startTurns held request =
        ⟨some depot.tasks.length, depot, next⟩ :: stepTurns turns next depot.tasks.length ∧
      (depot.enroll held request).poll depot.tasks.length =
        advance turns next depot.tasks.length := by
  have here := tasks_enroll depot held request
  have stepped : (depot.enroll held request).step? depot.tasks.length = some next := by
    rw [step?, here, answers]
    rfl
  constructor
  · simp only [startTurns, pollTurns, here, load, stepTurns, stepped]
  · simp only [poll, here, load, advance, stepped]

theorem startTurns_eq (depot : Depot) (held : List Holding) (request : Request) :
    ∃ turns next, next = (depot.enroll held request).answer depot.tasks.length request ∧
      depot.startTurns held request =
        ⟨some depot.tasks.length, depot, next⟩ :: stepTurns turns next depot.tasks.length ∧
      (depot.enroll held request).poll depot.tasks.length =
        advance turns next depot.tasks.length := by
  obtain ⟨turns, load⟩ := Nat.exists_eq_succ_of_ne_zero
    (Nat.ne_of_gt ((depot.enroll held request).load_asked_pos request))
  exact ⟨turns, _, rfl, startTurns_of_load load rfl⟩

theorem modify_enroll (depot : Depot) (held : List Holding) (request : Request) (phase : Phase) :
    (depot.enroll held request).tasks.modify depot.tasks.length ({ · with phase }) =
      depot.tasks ++ [⟨request, phase⟩] := by
  rw [enroll, List.modify_eq_set_getElem?, List.getElem?_append_right (Nat.le_refl _)]
  simp

theorem tasks_of_answer {held : List Holding}
    (moves : (depot.enroll held request).Moves depot.tasks.length request .asked next) :
    ∃ phase, phase ≠ .asked ∧ next.tasks = depot.tasks ++ [⟨request, phase⟩] := by
  obtain ⟨phase, id, pool, tasks, -, -, effect⟩ := moves
  exact ⟨phase, effect.begun, tasks.trans (modify_enroll depot held request phase)⟩

theorem begun_of_answer {held : List Holding}
    (moves : (depot.enroll held request).Moves depot.tasks.length request .asked next)
    {found : Task} (there : next.tasks[depot.tasks.length]? = some found) :
    found.phase ≠ .asked := by
  obtain ⟨phase, begun, tasks⟩ := tasks_of_answer moves
  rw [tasks] at there
  simp only [List.getElem?_concat_length, Option.some.injEq] at there
  rw [← there]
  exact begun

theorem chain_start {held : List Holding} (called : depot.Called id request held) :
    Chain id depot (depot.startTurns held request)
      ((depot.enroll held request).poll depot.tasks.length) := by
  have moves := moves_answer (depot.enroll held request) depot.tasks.length request
  obtain ⟨turns, next, answers, first, polled⟩ := depot.startTurns_eq held request
  rw [← answers] at moves
  rw [first, polled]
  exact .cons (.begins called moves answers)
    (chain_stepTurns id turns _ _ fun found => begun_of_answer moves)

theorem resting_start (held : List Holding) (request : Request) (resting : depot.Resting) :
    ((depot.enroll held request).poll depot.tasks.length).Resting := by
  apply resting_poll
  intro other phase apart here
  apply resting other phase
  rw [← here, phase?, phase?, enroll]
  simp only
  rcases Nat.lt_or_gt_of_ne apart with inside | outside
  · rw [List.getElem?_append_left inside]
  · rw [List.getElem?_eq_none (by omega), List.getElem?_eq_none (by simp; omega)]

theorem chain_surrender {place : Nat} {request : HandleId → Request}
    (own : ∀ holding, depot.held[place]? = some holding →
      depot.Called id (request holding.handle) (depot.held.eraseIdx place)) :
    Chain id depot (depot.surrenderTurns place request) (depot.surrender place request) := by
  unfold surrenderTurns surrender
  cases there : depot.held[place]? with
  | none => exact .nil depot
  | some holding => exact chain_start (own holding there)

theorem resting_surrender (place : Nat) (request : HandleId → Request) (resting : depot.Resting) :
    (depot.surrender place request).Resting := by
  unfold surrender
  split
  · exact resting
  · exact resting_start _ _ resting

theorem chain_drop (id : PoolId) (resting : depot.Resting) :
    Chain id depot (depot.dropTurns task) (depot.drop task) := by
  unfold dropTurns
  cases here : depot.phase? task with
  | none =>
      simp only [drop, here]
      exact .nil depot
  | some phase =>
      obtain ⟨found, there, rfl⟩ := Option.map_eq_some_iff.mp here
      cases isOver : found.phase.isOver with
      | true =>
          simp only [drop, here, isOver, if_true]
          exact .nil depot
      | false =>
          have begun := begun_of_resting resting there
          have dropped : depot.drop task = (depot.undo task found.phase).enter task .dropped := by
            simp [drop, here, isOver]
          simp only [isOver, Bool.false_eq_true, if_false]
          apply Chain.single
          rw [dropped]
          exact .steps there begun isOver (moves_drop depot task found.request begun isOver)
            (Or.inr rfl)

theorem resting_drop (task : TaskId) (resting : depot.Resting) : (depot.drop task).Resting := by
  unfold drop
  cases here : depot.phase? task with
  | none => exact resting
  | some phase =>
      obtain ⟨found, there, rfl⟩ := Option.map_eq_some_iff.mp here
      dsimp only
      split
      · exact resting
      · rename_i unfinished
        have begun := begun_of_resting resting there
        have moves := moves_drop depot task found.request begun (by simpa using unfinished)
        intro other phase later
        by_cases same : other = task
        · subst same
          obtain ⟨changed, at_, rfl⟩ := Option.map_eq_some_iff.mp later
          have undone : (depot.undo other found.phase).tasks = depot.tasks := by
            unfold undo
            split <;> first | rfl | exact tasks_handBack depot _ _ _
          simp only [tasks_enter, undone, List.getElem?_modify, there] at at_
          cases at_
          rfl
        · exact resting other phase ((phase?_of_moves moves same).symm.trans later)

section

variable {action : Action} (isOutside : action.isOutside = true) (resting : depot.Resting)

include isOutside resting

theorem outside_of_same (tasks : (depot.act action).tasks = depot.tasks)
    (held : (depot.act action).held = depot.held)
    (pools : (depot.act action).pools = depot.pools) : Move id depot none (depot.act action) :=
  .outside resting tasks (by rw [held]) (Or.inl pools) ⟨action, isOutside, rfl⟩

theorem outside_addPool? {name parameter : String} {dialer : Option DialerId} {limits : Limits}
    (added : depot.addPool? name dialer parameter limits = some (depot.act action)) :
    Move id depot none (depot.act action) := by
  obtain ⟨pool, fresh, made⟩ := Option.map_eq_some_iff.mp added
  refine .outside resting ?_ ?_ (Or.inr ⟨pool, ⟨name, dialer, parameter, limits, fresh⟩, ?_⟩)
    ⟨action, isOutside, rfl⟩
  all_goals rw [← made]

end

theorem registering (depot : Depot) (directory : DirectoryId) (key : String)
    (dialer : Option DialerId) (parameter : String) (limits : Limits) :
    Registering depot directory key dialer parameter limits
      (depot.register directory key dialer parameter limits) := by
  unfold register
  split
  · rename_i pool there
    exact .found there
  · rename_i absent
    dsimp only [addPool?]
    cases opens : Pool.open? key dialer parameter limits with
    | none => exact .failed absent opens
    | some pool => exact .made absent opens

theorem outside_register {directory : DirectoryId} {key parameter : String}
    {dialer : Option DialerId} {limits : Limits} (resting : depot.Resting) :
    Move id depot none (depot.act (.register directory key dialer parameter limits)) := by
  have acts : ∃ action : Action, action.isOutside = true ∧
      (depot.register directory key dialer parameter limits).2 = depot.act action :=
    ⟨.register directory key dialer parameter limits, rfl, rfl⟩
  show Move id depot none (depot.register directory key dialer parameter limits).2
  have registers := depot.registering directory key dialer parameter limits
  generalize depot.register directory key dialer parameter limits = answered at acts registers ⊢
  cases registers with
  | found => exact .outside resting rfl (by simp) (Or.inl rfl) acts
  | failed => exact .outside resting rfl (by simp [note, record]) (Or.inl rfl) acts
  | made absent opens =>
      exact .outside resting rfl (by simp [note, record, setDirectory])
        (Or.inr ⟨_, ⟨key, dialer, parameter, limits, opens⟩, rfl⟩) acts

theorem runMonitors_same (depot : Depot) : depot.runMonitors.tasks = depot.tasks ∧
    depot.runMonitors.held = depot.held ∧ depot.runMonitors.pools = depot.pools ∧
    depot.runMonitors.dialers = depot.dialers := by
  have each (handles : List HandleId) (start : Depot) :
      (handles.foldl runMonitor start).tasks = start.tasks ∧
        (handles.foldl runMonitor start).held = start.held ∧
        (handles.foldl runMonitor start).pools = start.pools ∧
        (handles.foldl runMonitor start).dialers = start.dialers := by
    induction handles generalizing start with
    | nil => exact ⟨rfl, rfl, rfl, rfl⟩
    | cons handle rest ih => exact ih (start.runMonitor handle)
  exact each depot.monitors _

theorem resting_of_tasks (tasks : next.tasks = depot.tasks) (resting : depot.Resting) :
    next.Resting := by
  intro task phase here
  exact resting task phase (by rw [← here, phase?, phase?, tasks])

theorem Chain.outside (move : Move id depot none next) : next.Resting ∧
    Chain id depot [⟨none, depot, next⟩] next := by
  refine ⟨?_, .single move⟩
  cases move with
  | outside resting tasks held pools acts => exact resting_of_tasks tasks resting

theorem called_of_returnsOwn {pool : PoolId} {place : Nat} (request : HandleId → Request)
    (returns : ∀ handle, (request handle).returned? = some (pool, handle))
    (brings : ∀ handle, (request handle).handle? = some handle)
    (own : (pool != id || depot.held[place]?.all (·.pool == some id)) = true) {holding : Holding}
    (there : depot.held[place]? = some holding) :
    depot.Called id (request holding.handle) (depot.held.eraseIdx place) := by
  refine .surrendered there (fun handle returned => ?_) (brings _)
  rw [returns] at returned
  cases returned
  simp only [bne_self_eq_false, Bool.false_or, there, Option.all_some, beq_iff_eq] at own
  exact ⟨own, rfl⟩

theorem chain_turnsOf (action : Action) (own : action.returnsOwn id depot = true)
    (resting : depot.Resting) :
    (depot.act action).Resting ∧ Chain id depot (depot.turnsOf action) (depot.act action) := by
  have started (request : Request) (plain : request.returned? = none)
      (bare : request.handle? = none) : (depot.start request).Resting ∧
        Chain id depot (depot.startTurns depot.held request) (depot.start request) :=
    ⟨resting_start depot.held request resting, chain_start (.plain plain bare)⟩
  have same (isOutside : action.isOutside = true) (tasks : (depot.act action).tasks = depot.tasks)
      (held : (depot.act action).held = depot.held)
      (pools : (depot.act action).pools = depot.pools) : (depot.act action).Resting ∧
        Chain id depot [⟨none, depot, depot.act action⟩] (depot.act action) :=
    Chain.outside (outside_of_same isOutside resting tasks held pools)
  cases action with
  | checkout pool context => exact started _ rfl rfl
  | dial dialer parameter => exact started _ rfl rfl
  | shut pool => exact started _ rfl rfl
  | shutAll directory order => exact started _ rfl rfl
  | giveBack pool place =>
      exact ⟨resting_surrender place _ resting, chain_surrender fun holding there =>
        called_of_returnsOwn (.giveBack pool) (fun _ => rfl) (fun _ => rfl) own there⟩
  | discard pool place =>
      exact ⟨resting_surrender place _ resting, chain_surrender fun holding there =>
        called_of_returnsOwn (.discard pool) (fun _ => rfl) (fun _ => rfl) own there⟩
  | closeHeld place =>
      exact ⟨resting_surrender place _ resting, chain_surrender fun holding there =>
        .surrendered there (by simp [Request.returned?]) rfl⟩
  | poll task =>
      exact ⟨resting_poll fun other phase _ => resting other phase, chain_poll id resting⟩
  | drop task => exact ⟨resting_drop task resting, chain_drop id resting⟩
  | lose place =>
      exact Chain.outside (.outside resting rfl (List.eraseIdx_sublist _ _) (Or.inl rfl)
        ⟨.lose place, rfl, rfl⟩)
  | makePool name dialer parameter limits =>
      cases made : depot.addPool? name dialer parameter limits with
      | none =>
          have still : depot.act (.makePool name dialer parameter limits) = depot := by
            simp [act, made]
          exact same rfl (by rw [still]) (by rw [still]) (by rw [still])
      | some added =>
          have grown : depot.act (.makePool name dialer parameter limits) = added := by
            simp [act, made]
          exact Chain.outside (outside_addPool? rfl resting (made.trans (by rw [grown])))
  | register directory key dialer parameter limits =>
      exact Chain.outside (outside_register resting)
  | runMonitors =>
      obtain ⟨tasks, held, pools, -⟩ := depot.runMonitors_same
      exact same rfl tasks held pools
  | _ => exact same rfl rfl rfl rfl

theorem chain_turns (id : PoolId) (actions : List Action) (own : depot.returnsOwn id actions = true)
    (resting : depot.Resting) : Chain id depot (depot.turns actions) (depot.run actions) := by
  induction actions generalizing depot with
  | nil => exact .nil depot
  | cons action rest ih =>
      simp only [returnsOwn, Bool.and_eq_true] at own
      obtain ⟨rests, first⟩ := chain_turnsOf action own.1 resting
      exact first.append (ih own.2 rests)

theorem run_append (first later : List Action) (depot : Depot) :
    depot.run (first ++ later) = (depot.run first).run later :=
  List.foldl_append

theorem turns_append (first later : List Action) (depot : Depot) :
    depot.turns (first ++ later) = depot.turns first ++ (depot.run first).turns later := by
  induction first generalizing depot with
  | nil => rfl
  | cons action rest ih =>
      rw [List.cons_append, turns, ih, turns, List.append_assoc]
      rfl

theorem returnsOwn_append (first later : List Action) (depot : Depot) :
    depot.returnsOwn id (first ++ later) =
      (depot.returnsOwn id first && (depot.run first).returnsOwn id later) := by
  induction first generalizing depot with
  | nil => rfl
  | cons action rest ih =>
      rw [List.cons_append, returnsOwn, ih, returnsOwn, Bool.and_assoc]
      rfl

theorem resting_run {actions : List Action} (own : depot.returnsOwn id actions = true)
    (resting : depot.Resting) : (depot.run actions).Resting := by
  induction actions generalizing depot with
  | nil => exact resting
  | cons action rest ih =>
      simp only [returnsOwn, Bool.and_eq_true] at own
      exact ih own.2 (chain_turnsOf action own.1 resting).1

theorem resting_empty : ({} : Depot).Resting := by
  intro task phase here
  cases here

section Actors

variable {turn : Turn} {actions : List Action}

theorem actor_of_stepTurns {count : Nat} (member : turn ∈ stepTurns count depot task) :
    turn.actor = some task := by
  induction count generalizing depot with
  | zero => cases member
  | succ count ih =>
      rw [stepTurns] at member
      split at member
      · cases member
      · rcases List.mem_cons.mp member with rfl | later
        · rfl
        · exact ih later

theorem actor_of_pollTurns (member : turn ∈ depot.pollTurns task) : turn.actor = some task := by
  unfold pollTurns at member
  split at member
  · cases member
  · exact actor_of_stepTurns member

theorem actor_of_startTurns {held : List Holding}
    (member : turn ∈ depot.startTurns held request) : turn.actor = some depot.tasks.length := by
  obtain ⟨turns, next, -, first, -⟩ := depot.startTurns_eq held request
  rw [first] at member
  rcases List.mem_cons.mp member with rfl | later
  · rfl
  · exact actor_of_stepTurns later

theorem actor_of_surrenderTurns {place : Nat} {request : HandleId → Request}
    (member : turn ∈ depot.surrenderTurns place request) :
    turn.actor = some depot.tasks.length := by
  unfold surrenderTurns at member
  split at member
  · cases member
  · exact actor_of_startTurns member

theorem actor_of_dropTurns (member : turn ∈ depot.dropTurns task) : turn.actor = some task := by
  unfold dropTurns at member
  split at member
  · cases member
  · split at member
    · cases member
    · rw [List.mem_singleton.mp member]

theorem turnsOf_of_outside (depot : Depot) {action : Action} (isOutside : action.isOutside = true) :
    depot.turnsOf action = [⟨none, depot, depot.act action⟩] := by
  cases action with
  | checkout | giveBack | discard | closeHeld | dial | shut | shutAll | poll | drop =>
      cases isOutside
  | _ => rfl

theorem action_of_nobody (member : turn ∈ depot.turns actions) (nobody : turn.actor = none) :
    ∃ action ∈ actions, action.isOutside = true ∧ turn.after = turn.before.act action := by
  have taken {task : TaskId} {there : Prop} (mine : turn.actor = some task) : there := by
    rw [mine] at nobody
    cases nobody
  induction actions generalizing depot with
  | nil => cases member
  | cons action rest ih =>
      rcases List.mem_append.mp member with first | later
      · refine ⟨action, List.mem_cons_self, ?_⟩
        cases isOutside : action.isOutside with
        | true =>
            rw [turnsOf_of_outside depot isOutside] at first
            rw [List.mem_singleton.mp first]
            exact ⟨rfl, rfl⟩
        | false =>
            cases action with
            | checkout | dial | shut | shutAll => exact taken (actor_of_startTurns first)
            | giveBack | discard | closeHeld => exact taken (actor_of_surrenderTurns first)
            | poll => exact taken (actor_of_pollTurns first)
            | drop => exact taken (actor_of_dropTurns first)
            | _ => cases isOutside
      · obtain ⟨found, there, same⟩ := ih later
        exact ⟨found, List.mem_cons_of_mem _ there, same⟩

end Actors

theorem turns_keep (Kept : Depot → Prop) {actions : List Action} (empty : Kept {})
    (move_keeps : ∀ {depot actor next}, Move id depot actor next → Kept depot → Kept next)
    (own : ({} : Depot).returnsOwn id actions = true) :
    Kept (({} : Depot).run actions) ∧
      ∀ turn ∈ ({} : Depot).turns actions, Kept turn.before ∧ Kept turn.after :=
  (chain_turns id actions own resting_empty).keeps move_keeps empty

theorem returnsOwn_of_large (actions : List Action) :
    ∃ bound : Nat, ∀ id : Nat, bound ≤ id →
      ∀ depot : Depot, depot.returnsOwn id actions = true := by
  induction actions with
  | nil => exact ⟨0, fun _ _ _ => rfl⟩
  | cons action rest ih =>
      obtain ⟨bound, large⟩ := ih
      have both (pool : Nat)
          (first : ∀ id, pool ≠ id → ∀ depot : Depot, action.returnsOwn id depot = true) :
          ∃ bound : Nat, ∀ id : Nat, bound ≤ id →
            ∀ depot : Depot, depot.returnsOwn id (action :: rest) = true := by
        refine ⟨max bound (pool + 1), fun id least depot => ?_⟩
        have apart : pool ≠ id := by omega
        rw [returnsOwn, first id apart, large id (by omega)]
        rfl
      cases action with
      | giveBack pool place =>
          exact both pool fun id apart depot => by simp [Action.returnsOwn, apart]
      | discard pool place =>
          exact both pool fun id apart depot => by simp [Action.returnsOwn, apart]
      | _ => exact both 0 fun id _ depot => rfl

/-- All that is done is a chain in view of some pool, if only of one to which nothing is ever
returned. -/
theorem exists_chain_of_resting (resting : depot.Resting) (actions : List Action) :
    ∃ id, (depot.run actions).Resting ∧
      Chain id depot (depot.turns actions) (depot.run actions) := by
  obtain ⟨bound, large⟩ := returnsOwn_of_large actions
  have own := large bound (Nat.le_refl _) depot
  exact ⟨bound, resting_run own resting, chain_turns bound actions own resting⟩

theorem exists_chain (actions : List Action) :
    ∃ id, Chain id {} (({} : Depot).turns actions) (({} : Depot).run actions) := by
  obtain ⟨id, -, chain⟩ := exists_chain_of_resting resting_empty actions
  exact ⟨id, chain⟩

end

end Depot

end HandlePool
