import HandlePool.Proofs.Deeds

namespace HandlePool

def Phase.ahead : Phase → List PoolId
  | .shutting pools | .draining _ _ pools | .closing _ _ _ (.drain _ pools) => pools
  | _ => []

def Phase.drained (id : PoolId) : Phase → Nat
  | .closing pool _ _ (.drain rest _) => if pool = id then rest.length + 1 else 0
  | .draining pool handles _ => if pool = id then handles.length else 0
  | _ => 0

def Phase.isShutting : Phase → Bool
  | .shutting _ | .draining _ _ _ | .closing _ _ _ (.drain _ _) => true
  | _ => false

def Request.isShutdown : Request → Bool
  | .shut _ | .shutAll _ _ => true
  | _ => false

namespace Depot

def toShut (depot : Depot) : Request → List PoolId
  | .shut pool => [pool]
  | .shutAll directory order => (depot.directory directory).poolsBy order
  | _ => []

/-- What a move is to a shutdown. The books of a pool change in one of them only. -/
inductive Leg (depot : Depot) (request : Request) (next : Depot) : Phase → Phase → Prop where
  | apart {phase phase'} (before : phase.isShutting = false) (after : phase'.isShutting = false)
      (other : phase = .asked → request.isShutdown = false) : Leg depot request next phase phase'
  | setsOut (same : next.pools = depot.pools) :
      Leg depot request next .asked (.shutting (depot.toShut request))
  | passes {id later} (closed : (depot.pool id).closed = true) (same : next.pools = depot.pools) :
      Leg depot request next (.shutting (id :: later)) (.shutting later)
  | shuts {id later} (isOpen : (depot.pool id).closed = false)
      (pools : next.pools = depot.pools.set id (depot.pool id).shut.1) :
      Leg depot request next (.shutting (id :: later)) (.draining id (depot.pool id).shut.2 later)
  | begins {id handle rest later due} (same : next.pools = depot.pools) :
      Leg depot request next (.draining id (handle :: rest) later)
        (.closing id handle due (.drain rest later))
  | drained {id later} (same : next.pools = depot.pools) :
      Leg depot request next (.draining id [] later) (.shutting later)
  | ends {id handle due rest later} (same : next.pools = depot.pools) :
      Leg depot request next (.closing id handle due (.drain rest later)) (.draining id rest later)
  | arrives (same : next.pools = depot.pools) :
      Leg depot request next (.shutting []) (.finished .completed)
  | dropped {phase} (before : phase.isShutting = true) (same : next.pools = depot.pools) :
      Leg depot request next phase .dropped

inductive Legs (depot : Depot) (task : TaskId) (request : Request) (phase : Phase) (next : Depot) :
    Prop where
  | intro (phase' : Phase)
      (tasks : next.tasks = depot.tasks.modify task ({ · with phase := phase' }))
      (leg : Leg depot request next phase phase')

variable {id view : PoolId} {depot next : Depot} {task : TaskId} {request : Request}
  {phase phase' : Phase} {pool : Pool}

theorem nothing_of_apart (id : PoolId) (apart : phase.isShutting = false) :
    phase.ahead = [] ∧ phase.hands = [] ∧ phase.drained id = 0 := by
  cases phase with
  | closing pool handle due errand =>
      cases errand with
      | drain => cases apart
      | _ => exact ⟨rfl, rfl, rfl⟩
  | draining | shutting => cases apart
  | _ => exact ⟨rfl, rfl, rfl⟩

theorem apart_of_effect (effect : Effect depot task request id phase phase' pool)
    (uses : phase.stake? ≠ none ∨ phase = .asked ∧ request.pool? ≠ none) :
    phase.isShutting = false ∧ phase'.isShutting = false := by
  cases effect with
  | aside apart apart' begun plain =>
      rcases uses with shows | ⟨asked, calls⟩
      · exact absurd apart shows
      · exact absurd (plain asked) calls
  | pass grant => cases grant <;> exact ⟨rfl, rfl⟩
  | reject taken unusable goes => rcases goes with rfl | ⟨due, rfl⟩ <;> exact ⟨rfl, rfl⟩
  | abandon held => rcases held with rfl | ⟨handle, due, rfl⟩ <;> exact ⟨rfl, rfl⟩
  | giveBack asks goes =>
      rcases goes with ⟨-, rfl⟩ | ⟨-, rfl⟩ | ⟨oldest, due, -, rfl⟩ <;> exact ⟨rfl, rfl⟩
  | discard asks goes => rcases goes with ⟨-, rfl⟩ | rfl | ⟨due, rfl⟩ <;> exact ⟨rfl, rfl⟩
  | shut => rcases uses with shows | ⟨asked, -⟩ <;> contradiction
  | _ => exact ⟨rfl, rfl⟩

theorem legs_apart (moves : depot.Moves task request phase next)
    (uses : phase.stake? ≠ none ∨ phase = .asked ∧ request.pool? ≠ none) :
    Legs depot task request phase next := by
  obtain ⟨phase', id, pool, tasks, -, -, effect⟩ := moves
  obtain ⟨before, after⟩ := apart_of_effect effect uses
  refine .intro phase' tasks (.apart before after fun asked => ?_)
  rcases uses with shows | ⟨-, calls⟩
  · rw [asked] at shows
    exact absurd rfl shows
  · cases request with
    | shut => exact absurd rfl calls
    | shutAll => exact absurd rfl calls
    | _ => rfl

theorem legs_answer (depot : Depot) (task : TaskId) (request : Request) :
    Legs depot task request .asked (depot.answer task request) := by
  have used (calls : request.pool? ≠ none) :
      Legs depot task request .asked (depot.answer task request) :=
    legs_apart (moves_answer depot task request) (Or.inr ⟨rfl, calls⟩)
  cases request with
  | checkout | giveBack | discard => exact used (by simp [Request.pool?])
  | closeHandle handle => exact .intro _ rfl (.apart rfl rfl fun _ => rfl)
  | dial dialer parameter => exact .intro _ rfl (.apart rfl rfl fun _ => rfl)
  | shut id => exact .intro _ rfl (.setsOut rfl)
  | shutAll directory order => exact .intro _ rfl (.setsOut rfl)

theorem legs_shutNext (pools : List PoolId) :
    Legs depot task request (.shutting pools) (depot.shutNext task pools) := by
  cases pools with
  | nil => exact .intro _ rfl (.arrives rfl)
  | cons id later =>
      rw [shutNext]
      split
      · rename_i closed
        exact .intro _ rfl (.passes closed rfl)
      · rename_i isOpen
        exact .intro _ rfl (.shuts (by simpa using isOpen) rfl)

theorem legs_drainNext {later : List PoolId} (handles : List HandleId) :
    Legs depot task request (.draining id handles later)
      (depot.drainNext task id later handles) := by
  cases handles with
  | nil => exact .intro _ rfl (.drained rfl)
  | cons handle rest => exact .intro _ rfl (.begins rfl)

theorem pools_endPoolClose (depot : Depot) (id : PoolId) (handle : HandleId) :
    (depot.endPoolClose id handle).pools = depot.pools := by
  rw [(booked_endPoolClose depot id handle 0).pools, set_pool]

theorem legs_resume {handle : HandleId} {due : Option Nat} {errand : Errand} :
    Legs depot task request (.closing id handle due errand)
      ((depot.endPoolClose id handle).resume task id errand) := by
  have same := (booked_endPoolClose depot id handle 0).tasks
  cases errand with
  | rescan slot => exact legs_apart moves_resume (Or.inl (by simp [Phase.stake?]))
  | conclude =>
      exact .intro _ (by rw [resume, tasks_finish, same]) (.apart rfl rfl (by simp))
  | drain rest later =>
      exact .intro _ (by rw [resume, tasks_enter, same])
        (.ends (depot.pools_endPoolClose id handle))

theorem legs_endCall {call : Call} :
    Legs depot task request (.calling call) (depot.endCall task call) := by
  have kept := tasks_endDial depot call
  unfold endCall
  split
  all_goals
    rename_i ended
    rw [ended] at kept
    exact .intro _ (by rw [tasks_finish, kept]) (.apart rfl rfl (by simp))

theorem legs_stepFrom (step : depot.stepFrom task request phase = some next) :
    Legs depot task request phase next := by
  have staked (shows : phase.stake? ≠ none) : Legs depot task request phase next :=
    legs_apart (moves_stepFrom step) (Or.inl shows)
  cases phase with
  | asked =>
      cases step
      exact legs_answer depot task request
  | queued | scanning | dialing => exact staked (by simp [Phase.stake?])
  | closing id handle due errand =>
      rw [stepFrom] at step
      split at step <;> cases step
      exact legs_resume
  | draining id handles later =>
      cases step
      exact legs_drainNext handles
  | shutting pools =>
      cases step
      exact legs_shutNext pools
  | calling call =>
      rw [stepFrom] at step
      split at step <;> cases step
      exact legs_endCall
  | closingAlone handle due =>
      rw [stepFrom] at step
      split at step <;> cases step
      exact .intro _ rfl (.apart rfl rfl (by simp))
  | finished outcome => cases step
  | dropped => cases step

theorem legs_drop (depot : Depot) (task : TaskId) (request : Request) (begun : phase ≠ .asked)
    (unfinished : phase.isOver = false) :
    Legs depot task request phase ((depot.undo task phase).enter task .dropped) := by
  have tasks : ((depot.undo task phase).enter task .dropped).tasks =
      depot.tasks.modify task ({ · with phase := .dropped }) := by
    unfold undo
    split <;> first | rfl | rw [tasks_enter, tasks_handBack]
  cases shuts : phase.isShutting with
  | false => exact .intro _ tasks (.apart shuts rfl fun asked => absurd asked begun)
  | true =>
      refine .intro _ tasks (.dropped shuts ?_)
      cases phase with
      | closing id handle due errand =>
          cases errand with
          | drain rest later => rfl
          | _ => cases shuts
      | draining | shutting => rfl
      | _ => cases shuts

theorem toShut_enroll (depot : Depot) (held : List Holding) (called request : Request) :
    (depot.enroll held called).toShut request = depot.toShut request := by
  cases request <;> rfl

theorem leg_of_move (move : Move view depot (some task) next)
    (becomes : Becomes depot.tasks request task phase phase' next.tasks) :
    Leg depot request next phase phase' := by
  have there := phase_of_becomes becomes
  have before := before_of_becomes becomes
  cases move with
  | begins called moves answers =>
      rename_i asked held
      obtain ⟨later, tasks, leg⟩ := legs_answer (depot.enroll held asked) depot.tasks.length asked
      rw [← answers] at tasks leg
      rw [tasks, List.getElem?_modify, tasks_enroll] at there
      simp only [Option.map_eq_map, Option.map_some, if_true] at there
      cases there
      have begins := before.resolve_right fun old => by simp at old
      rw [begins.1]
      cases leg with
      | apart before after other => exact .apart before after other
      | setsOut same =>
          rw [toShut_enroll]
          exact .setsOut same
      | dropped before => cases before
  | steps here begun unfinished moves goes =>
      rename_i found
      have same := before.resolve_left fun new => by simp [here] at new
      rw [here] at same
      cases same.2
      have legs : Legs depot task request phase next := by
        rcases goes with step | dropped
        · exact legs_stepFrom step
        · rw [dropped]
          exact legs_drop depot task request begun unfinished
      obtain ⟨later, tasks, leg⟩ := legs
      rw [tasks, List.getElem?_modify, here] at there
      simp only [Option.map_eq_map, Option.map_some, if_true] at there
      cases there
      exact leg

theorem leg_of_stage (move : Move view depot (some task) next) :
    ∃ request, next.tasks[task]? = some ⟨request, next.stage task⟩ ∧
      Leg depot request next (depot.stage task) (next.stage task) := by
  obtain ⟨request, phase, phase', site, pool, held, effect, pools, tasks, -⟩ := shift_of_move move
  rw [stage_before tasks, stage_after tasks]
  exact ⟨request, phase_of_becomes tasks, leg_of_move move tasks⟩

end Depot

end HandlePool
