import HandlePool.Proofs.Failures
import HandlePool.Proofs.Polls

namespace HandlePool

def Event.closes? : Event → Option HandleId
  | .close handle | .closed handle _ => some handle
  | _ => none

/-- Closes one after the other. Those of the handles in the list are over, in their order, and that
of one more may have begun. A close begins when the one before has ended, however that ended. -/
inductive InTurn : List HandleId → Option HandleId → List Event → Prop where
  | start : InTurn [] none []
  | begins {past events} (handle : HandleId) (closes : InTurn past none events) :
      InTurn past (some handle) (events ++ [.close handle])
  | ends {past handle events} (failure : Option String)
      (closes : InTurn past (some handle) events) :
      InTurn (past ++ [handle]) none (events ++ [.closed handle failure])

structure Pool.ShutFrom (before after : Pool) : Prop where
  idle : after.idleList = []
  active : after.active + before.idleList.length = before.active
  destroyed : after.destroyed = before.destroyed + before.idleList.length
  closed : after.closed = true
  gate : after.gate = before.gate.map fun gate => { gate with closed := true, waiting := [] }

namespace Depot

def closings (depot : Depot) : List Event := depot.trace.filter (·.closes?.isSome)

end Depot

def Turn.closings (turn : Turn) : List Event :=
  turn.after.closings.drop turn.before.closings.length

def Turn.Stays (task : TaskId) (later : List PoolId) (turn : Turn) : Prop :=
  turn.actor = some task → turn.before.stage task = .shutting later → later = []

namespace Depot

def ownClosings (task : TaskId) (turns : List Turn) : List Event :=
  (ownTurns task turns).flatMap Turn.closings

structure Empties (id : PoolId) (depot next : Depot) : Prop where
  books : (depot.pool id).ShutFrom (next.pool id)
  others : ∀ other, other ≠ id → next.pool other = depot.pool other
  closings : next.closings = depot.closings
  held : next.held = depot.held
  handles : next.handles = depot.handles

structure Drains (task : TaskId) (idle : List HandleId) (later : List PoolId) (past : List Turn)
    (now : Depot) : Prop where
  inTurn : ∃ closed current ahead, idle = closed ++ Option.toList current ++ ahead ∧
    InTurn closed current (ownClosings task past)
  completes : now.stage task = .shutting later ∨ now.stage task = .finished .completed →
    InTurn idle none (ownClosings task past) ∧ ∀ handle ∈ idle, now.begun.count handle = 1

/-- A turn leaves the handles that a shutdown has drained to it, and if it is a turn of the shutdown
it leaves all else alone. -/
structure Spares (task : TaskId) (idle : List HandleId) (turn : Turn) : Prop where
  alone : ∀ handle ∈ idle, handle ∈ turn.after.begun →
    handle ∈ turn.before.begun ∨ turn.actor = some task
  unheld : ∀ handle ∈ idle, handle ∉ turn.after.heldHandles
  held : turn.actor = some task → turn.after.held = turn.before.held
  handles : turn.actor = some task → ∀ handle, handle ∉ idle →
    turn.after.handle handle = turn.before.handle handle
  pools : turn.actor = some task → turn.after.pools = turn.before.pools

/-- What a task does that returns a handle to the pool: it closes that handle and no other. One that
is closed already need not be closed once more. -/
structure ClosesOwn (id : PoolId) (idle : List HandleId) (task : TaskId) (handle : HandleId)
    (start : Turn) (rest : List Turn) : Prop where
  apart : handle ∉ idle
  begins : start.closings = [.close handle] ∨ start.closings = [] ∧
    CalledFor (.discard id handle) task start.after ∧ start.before.isClosed handle = true
  only : ∀ turn ∈ ownTurns task (start :: rest), ∀ event ∈ turn.closings,
    event.closes? = some handle

variable {id view site : PoolId} {depot next last : Depot} {task other : TaskId}
  {actor : Option TaskId} {request : Request} {phase phase' : Phase} {pool : Pool}
  {handle : HandleId} {idle : List HandleId} {later : List PoolId} {done : List Event}
  {turns : List Turn}

theorem closings_eq (depot : Depot) :
    depot.closings = depot.marks.filter (·.closes?.isSome) := by
  rw [closings, marks, List.filter_filter]
  congr 1
  funext event
  cases event <;> rfl

theorem closings_of_untouched (rest : Untouched depot next) : next.closings = depot.closings := by
  rw [closings_eq, closings_eq, rest.marks]

theorem closings_record (depot : Depot) (event : Event) :
    (depot.record event).closings =
      depot.closings ++ [event].filter (·.closes?.isSome) :=
  List.filter_append _ _

theorem closings_begun (deed : Deed depot request next phase phase')
    (closes : phase'.closing? = some handle) :
    next.closings = depot.closings ++ [.close handle] := by
  cases deed with
  | plain idle =>
      rw [idle] at closes
      cases closes
  | beginsClose closes' rest =>
      cases closes.symm.trans closes'
      rw [closings_of_untouched rest, closings_record]
      rfl
  | endsClose closed idle =>
      rw [idle] at closes
      cases closes
  | beginsDial calls =>
      rw [(idle_of_call? calls).1] at closes
      cases closes
  | endsDial called isOver =>
      rw [closing?_of_isOver isOver] at closes
      cases closes

theorem closings_still (deed : Deed depot request next phase phase')
    (before : phase.closing? = none) (after : phase'.closing? = none) :
    next.closings = depot.closings := by
  cases deed with
  | plain idle silent nothing rest => exact closings_of_untouched rest
  | beginsClose closes =>
      rw [after] at closes
      cases closes
  | endsClose closed =>
      rw [before] at closed
      cases closed
  | beginsDial calls who rest =>
      rw [closings_of_untouched rest]
      exact (closings_record depot _).trans (List.append_nil _)
  | endsDial called isOver yields rest =>
      rw [closings_of_untouched rest, closings, trace_endDial, closings]

theorem closings_ended (move : Move view depot (some task) next) {due : Option Nat}
    {errand : Errand} (closing : depot.stage task = .closing id handle due errand) :
    next.stage task = .dropped ∧ next.closings = depot.closings ∨
      next.stage task = errand.next id ∧
        ∃ failure, next.closings = depot.closings ++ [.closed handle failure] := by
  have begun : depot.stage task ≠ .asked := by simp [closing]
  have here := (phase?_of_stage begun).trans (congrArg some closing)
  rcases goesOn_of_move move task id handle due errand rfl here with
    ⟨dropped, same⟩ | ⟨goes, grown⟩
  · left
    dsimp only at dropped same
    exact ⟨by rw [stage, dropped]; rfl, by rw [closings, same, closings]⟩
  · right
    dsimp only at goes grown
    refine ⟨by rw [stage, goes]; rfl, depot.failure handle, ?_⟩
    rw [closings, grown, List.filter_append, List.filter_append, ← closings]
    have told : ((Beat.poolClose id handle).events depot.failure).filter (·.closes?.isSome) =
        [.closed handle (depot.failure handle)] := by
      rw [Beat.events]
      cases depot.failure handle <;> rfl
    have ended : (errand.events task).filter (·.closes?.isSome) = [] := by
      cases errand <;> rfl
    rw [told, ended, List.append_nil]

theorem closings_of_grown {events : List Event} (grown : next.closings = depot.closings ++ events) :
    Turn.closings ⟨actor, depot, next⟩ = events := by
  rw [Turn.closings, grown, List.drop_left]

/-- How a task stands with a pool that it shuts, and with the closes it has begun and ended there. -/
inductive Draining (idle : List HandleId) (later : List PoolId) (done : List Event) :
    Phase → Prop where
  | ahead {id past handles} (splits : idle = past ++ handles) (closes : InTurn past none done) :
      Draining idle later done (.draining id handles later)
  | current {id past handle due rest} (splits : idle = past ++ handle :: rest)
      (closes : InTurn past (some handle) done) :
      Draining idle later done (.closing id handle due (.drain rest later))
  | closed (closes : InTurn idle none done) : Draining idle later done (.shutting later)
  | completed (closes : InTurn idle none done) : Draining idle later done (.finished .completed)
  | dropped {past current rest} (splits : idle = past ++ Option.toList current ++ rest)
      (closes : InTurn past current done) : Draining idle later done .dropped

namespace Draining

theorem inTurn (draining : Draining idle later done phase) :
    ∃ closed current ahead, idle = closed ++ Option.toList current ++ ahead ∧
      InTurn closed current done := by
  cases draining with
  | ahead splits closes => exact ⟨_, none, _, by simpa using splits, closes⟩
  | current splits closes => exact ⟨_, _, _, by simpa using splits, closes⟩
  | closed closes => exact ⟨idle, none, [], by simp, closes⟩
  | completed closes => exact ⟨idle, none, [], by simp, closes⟩
  | dropped splits closes => exact ⟨_, _, _, splits, closes⟩

theorem begun (draining : Draining idle later done phase) : phase ≠ .asked := by
  rintro rfl
  cases draining

theorem silent (draining : Draining idle later done phase) : phase.call? = none := by
  cases draining <;> rfl

theorem gainless (draining : Draining idle later done phase) : gains task phase = [] := by
  cases draining <;> rfl

theorem closing_mem (draining : Draining idle later done phase) (closes : phase.closing? = some handle) :
    handle ∈ idle := by
  cases draining with
  | current splits =>
      cases closes
      rw [splits]
      exact List.mem_append_right _ List.mem_cons_self
  | _ => cases closes

theorem goes (move : Move view depot (some task) next)
    (draining : Draining idle later done (depot.stage task))
    (stays : Turn.Stays task later ⟨some task, depot, next⟩) :
    Draining idle later (done ++ Turn.closings ⟨some task, depot, next⟩) (next.stage task) ∧
      next.pools = depot.pools := by
  obtain ⟨request, phase, phase', site, pool, held, effect, pools, tasks, -⟩ := shift_of_move move
  have before := stage_before tasks
  have after := stage_after tasks
  have deed := deed_of_move move tasks
  have leg := leg_of_move move tasks
  have unfinished := unfinished_of_becomes tasks
  have still (before : phase.closing? = none) (after : phase'.closing? = none) :
      done ++ Turn.closings ⟨some task, depot, next⟩ = done := by
    rw [closings_of_grown ((closings_still deed before after).trans (List.append_nil _).symm),
      List.append_nil]
  rw [before] at draining
  rw [after]
  cases leg with
  | apart before =>
      cases draining with
      | completed | dropped => cases unfinished
      | _ => cases before
  | setsOut => cases draining
  | passes | shuts =>
      cases draining with
      | closed => cases stays rfl before
  | begins same =>
      cases draining with
      | ahead splits closes =>
          rw [closings_of_grown (closings_begun deed rfl)]
          exact ⟨.current splits (closes.begins _), same⟩
  | drained same =>
      cases draining with
      | ahead splits closes =>
          rw [still rfl rfl]
          rw [List.append_nil] at splits
          exact ⟨.closed (splits ▸ closes), same⟩
  | ends same =>
      cases draining with
      | current splits closes =>
          rcases closings_ended move before with ⟨dropped, -⟩ | ⟨-, failure, ended⟩
          · rw [after] at dropped
            cases dropped
          · rw [closings_of_grown ended]
            exact ⟨.ahead (by simpa using splits) (closes.ends failure), same⟩
  | arrives same =>
      cases draining with
      | closed closes =>
          rw [still rfl rfl]
          exact ⟨.completed closes, same⟩
  | dropped _ same =>
      refine ⟨?_, same⟩
      obtain ⟨past, current, rest, splits, closes⟩ := draining.inTurn
      cases closing : phase.closing? with
      | none =>
          rw [still closing rfl]
          exact .dropped splits closes
      | some handle =>
          cases draining with
          | current =>
              rcases closings_ended move before with ⟨-, ended⟩ | ⟨goes, -⟩
              · rw [closings_of_grown (ended.trans (List.append_nil _).symm), List.append_nil]
                exact .dropped splits closes
              · rw [after] at goes
                cases goes
          | _ => cases closing

end Draining

theorem handle_of_deed (deed : Deed depot request next phase phase') (quiet : phase.call? = none)
    (silent : phase'.call? = none) (apart : phase.closing? ≠ some handle) :
    next.handle handle = depot.handle handle := by
  cases deed with
  | plain idle silent nothing rest => rw [Depot.handle, rest.handles, Depot.handle]
  | beginsClose closes rest =>
      rw [Depot.handle, rest.handles, Depot.handle]
      rfl
  | endsClose closed idle silent rest =>
      rename_i other
      have differ : other ≠ handle := by
        rintro rfl
        exact apart closed
      rw [Depot.handle, rest.handles, Depot.handle]
      simp [endClose, record, changeHandle, setHandle, List.getD_eq_getElem?_getD,
        List.getElem?_set_ne differ]
  | beginsDial calls =>
      rw [silent] at calls
      cases calls
  | endsDial called =>
      rw [quiet] at called
      cases called

inductive Given (task : TaskId) (handle : HandleId) (depot : Depot) : Prop where
  | ahead (member : handle ∈ (depot.stage task).hands)
  | begun (begun : handle ∈ depot.begun)
  | forsaken (forlorn : Forlorn depot handle) (dropped : depot.stage task = .dropped)

namespace Given

theorem keeps (move : Move view depot actor next) (owned : Owned depot)
    (given : Given task handle depot) : Given task handle next := by
  cases given with
  | begun begun => exact .begun (begun_lasts move begun)
  | ahead member =>
      by_cases mine : actor = some task
      · subst mine
        obtain ⟨request, phase, phase', site, pool, held, effect, pools, tasks, -⟩ :=
          shift_of_move move
        have after := stage_after tasks
        have there := member
        rw [stage_before tasks] at there
        rcases hands_of_leg (leg_of_move move tasks) there with closes | still | dropped
        · refine .begun ?_
          rw [begun_of_deed (deed_of_move move tasks), closes]
          exact List.mem_append_right _ (List.mem_singleton_self _)
        · exact .ahead (after ▸ still)
        · exact .forsaken (forlorn_of_dropped move owned member (after.trans dropped))
            (after.trans dropped)
      · exact .ahead (stage_of_others move mine ▸ member)
  | forsaken forlorn dropped =>
      refine .forsaken (forlorn.keeps move) ?_
      by_cases mine : actor = some task
      · subst mine
        have begun : depot.stage task ≠ .asked := by simp [dropped]
        have unfinished := unfinished_of_move move (phase?_of_stage begun)
        rw [dropped] at unfinished
        cases unfinished
      · exact (stage_of_others move mine).trans dropped

theorem unheld (owned : Owned depot) (given : Given task handle depot) :
    handle ∉ depot.heldHandles := by
  cases given with
  | ahead member =>
      intro held
      have once := owned.once handle
      have limit := known_le_one depot handle
      have one := List.count_pos_iff.mpr held
      have two := List.count_pos_iff.mpr (toClose_of_stage member)
      rw [live] at once
      omega
  | begun begun => exact ((exclusive_of_owned owned).closed handle begun).held
  | forsaken forlorn => exact forlorn.gone.held

theorem alone (move : Move view depot actor next) (owned : Owned depot)
    (given : Given task handle depot) (begun : handle ∈ next.begun) :
    handle ∈ depot.begun ∨ actor = some task := by
  cases given with
  | begun before => exact Or.inl before
  | forsaken forlorn => exact absurd begun (forlorn.keeps move).unclosed
  | ahead member =>
      by_cases mine : actor = some task
      · exact Or.inr mine
      · rw [← stage_of_others move mine] at member
        exact absurd begun
          (unbegun_of_live (owned.keeps move) (live_of_toClose (toClose_of_stage member)))

theorem once (owned : Owned depot) (given : Given task handle depot)
    (empty : (depot.stage task).hands = []) (kept : depot.stage task ≠ .dropped) :
    depot.begun.count handle = 1 := by
  cases given with
  | ahead member =>
      rw [empty] at member
      cases member
  | begun begun =>
      have once := owned.once handle
      have limit := known_le_one depot handle
      have there := List.count_pos_iff.mpr begun
      omega
  | forsaken forlorn dropped => exact absurd dropped kept

end Given

/-- What holds from the turn on in which a task has emptied a pool to shut it. -/
structure Shutting (id : PoolId) (task : TaskId) (idle : List HandleId) (later : List PoolId)
    (done : List Event) (depot : Depot) : Prop where
  owned : Owned depot
  closed : (depot.pool id).closed = true
  given : ∀ handle ∈ idle, Given task handle depot
  draining : Draining idle later done (depot.stage task)

namespace Shutting

theorem keeps (move : Move view depot actor next)
    (shutting : Shutting id task idle later done depot)
    (stays : Turn.Stays task later ⟨actor, depot, next⟩) :
    Shutting id task idle later (done ++ ownClosings task [⟨actor, depot, next⟩]) next := by
  obtain ⟨owned, closed, given, draining⟩ := shutting
  refine ⟨owned.keeps move, closed_lasts move closed,
    fun handle member => (given handle member).keeps move owned, ?_⟩
  by_cases mine : actor = some task
  · subst mine
    have own : ownClosings task [⟨some task, depot, next⟩] =
        Turn.closings ⟨some task, depot, next⟩ := by
      simp [ownClosings, ownTurns]
    rw [own]
    exact (Draining.goes move draining stays).1
  · have none_own : ownClosings task [⟨actor, depot, next⟩] = [] := by
      simp [ownClosings, ownTurns, mine]
    rw [none_own, List.append_nil, stage_of_others move mine]
    exact draining

theorem along (chain : Chain view depot turns last)
    (shutting : Shutting id task idle later done depot)
    (stay : ∀ turn ∈ turns, turn.Stays task later) :
    Shutting id task idle later (done ++ ownClosings task turns) last := by
  induction chain generalizing done with
  | nil =>
      rw [ownClosings, ownTurns, List.filter_nil, List.flatMap_nil, List.append_nil]
      exact shutting
  | cons move rest ih =>
      rename_i depot actor next turns last
      have split : ownClosings task (⟨actor, depot, next⟩ :: turns) =
          ownClosings task [⟨actor, depot, next⟩] ++ ownClosings task turns := by
        rw [ownClosings, ownClosings, ownClosings, ownTurns, ownTurns, ownTurns,
          ← List.flatMap_append, ← List.filter_append, List.singleton_append]
      rw [split, ← List.append_assoc]
      exact ih (shutting.keeps move (stay _ List.mem_cons_self))
        fun turn member => stay turn (List.mem_cons_of_mem _ member)

theorem drains (shutting : Shutting id task idle later (ownClosings task turns) depot) :
    Drains task idle later turns depot := by
  refine ⟨shutting.draining.inTurn, fun through => ⟨?_, fun handle member => ?_⟩⟩
  · have draining := shutting.draining
    rcases through with gone | completed
    · rw [gone] at draining
      cases draining with
      | closed closes => exact closes
    · rw [completed] at draining
      cases draining with
      | completed closes => exact closes
  · apply (shutting.given handle member).once shutting.owned
    · rcases through with same | same <;> rw [same] <;> rfl
    · rcases through with same | same <;> rw [same] <;> simp

theorem spares (move : Move view depot actor next)
    (shutting : Shutting id task idle later done depot)
    (stays : Turn.Stays task later ⟨actor, depot, next⟩) :
    Spares task idle ⟨actor, depot, next⟩ := by
  have shutting' := shutting.keeps move stays
  have own (mine : actor = some task) : next.held = depot.held ∧
      (∀ handle, handle ∉ idle → next.handle handle = depot.handle handle) ∧
      next.pools = depot.pools := by
    subst mine
    obtain ⟨draining', pools⟩ := Draining.goes move shutting.draining stays
    have draining := shutting.draining
    obtain ⟨request, phase, phase', site, pool, held, effect, -, tasks, called, kept, gained⟩ :=
      shift_of_move move
    rw [stage_before tasks] at draining
    rw [stage_after tasks] at draining'
    refine ⟨?_, fun handle outside => ?_, pools⟩
    · rw [gained, draining'.gainless, List.append_nil, kept draining.begun]
    · exact handle_of_deed (deed_of_move move tasks) draining.silent draining'.silent
        fun closes => outside (draining.closing_mem closes)
  exact {
    alone := fun handle member => (shutting.given handle member).alone move shutting.owned
    unheld := fun handle member => (shutting'.given handle member).unheld shutting'.owned
    held := fun mine => (own mine).1
    handles := fun mine => (own mine).2.1
    pools := fun mine => (own mine).2.2 }

end Shutting

section Returning

theorem returns_to_closed
    (effect : Effect depot task request site .asked phase' pool)
    (returns : request.returned? = some (id, handle)) (closed : (depot.pool id).closed = true) :
    (∃ due, phase' = .closing id handle due .conclude) ∨
      request = .discard id handle ∧ phase' = .finished .completed ∧
        depot.isClosed handle = true := by
  have asks : request.pool? = some id := by
    cases request with
    | giveBack | discard =>
        cases returns
        rfl
    | _ => cases returns
  have here := site_of_effect effect (Or.inl ⟨rfl, asks⟩)
  subst here
  cases request with
  | giveBack =>
      cases returns
      exact Or.inl (returns_of_closed closed effect)
  | discard =>
      cases returns
      cases effect with
      | aside apart apart' begun plain => cases plain rfl
      | discard asks goes dead =>
          cases asks
          rw [Pool.slotOverflows_of_closed closed] at goes
          rcases goes with ⟨overflow, -⟩ | ended | closes
          · cases overflow
          · exact Or.inr ⟨rfl, ended, dead ended⟩
          · exact Or.inl closes
      | pass grant => cases grant with
        | free asks => cases asks
        | taken asks => cases asks
      | abandon held => rcases held with held | ⟨other, due, held⟩ <;> cases held
      | turnedAway asks | queue asks | bounce asks | giveBack asks => cases asks
  | _ => cases returns

def Returning (id : PoolId) (task : TaskId) (handle : HandleId) (depot : Depot) : Prop :=
  (∃ due, depot.stage task = .closing id handle due .conclude) ∨
    (depot.stage task).isOver = true

theorem Returning.goes (move : Move view depot actor next)
    (returning : Returning id task handle depot) : Returning id task handle next ∧
      (actor = some task → ∀ event ∈ Turn.closings ⟨actor, depot, next⟩,
        event.closes? = some handle) := by
  by_cases mine : actor = some task
  · subst mine
    rcases returning with ⟨due, closing⟩ | isOver
    · rcases closings_ended move closing with ⟨dropped, same⟩ | ⟨goes, failure, ended⟩
      · refine ⟨Or.inr (by rw [dropped]; rfl), fun _ event member => ?_⟩
        rw [closings_of_grown (same.trans (List.append_nil _).symm)] at member
        cases member
      · refine ⟨Or.inr (by rw [goes]; rfl), fun _ event member => ?_⟩
        rw [closings_of_grown ended, List.mem_singleton] at member
        rw [member]
        rfl
    · have begun : depot.stage task ≠ .asked := by
        intro asked
        rw [asked] at isOver
        cases isOver
      rw [unfinished_of_move move (phase?_of_stage begun)] at isOver
      cases isOver
  · refine ⟨?_, fun same => absurd same mine⟩
    rw [Returning, stage_of_others move mine]
    exact returning

theorem Returning.along (chain : Chain view depot turns last)
    (returning : Returning id task handle depot) :
    ∀ turn ∈ ownTurns task turns, ∀ event ∈ turn.closings, event.closes? = some handle := by
  intro turn own
  obtain ⟨member, mine⟩ := mem_ownTurns.mp own
  have move := chain.move_of_mem member
  have kept := ((chain.keeps (fun move kept => (Returning.goes move kept).1) returning).2
    turn member).1
  exact (kept.goes move).2 mine

theorem held_of_returned (move : Move view depot (some task) next)
    (becomes : Becomes depot.tasks request task .asked phase' next.tasks)
    (returns : request.returned? = some (id, handle)) : handle ∈ depot.heldHandles := by
  obtain ⟨asked, phase, reached, site, pool, held, effect, pools, tasks, called, -⟩ :=
    shift_of_move move
  have same := (phase_of_becomes tasks).symm.trans (phase_of_becomes becomes)
  cases same
  have before := (stage_before tasks).symm.trans (stage_before becomes)
  cases called before with
  | plain keeps =>
      rw [keeps] at returns
      cases returns
  | surrendered there own brings =>
      have carried : request.handle? = some handle := by
        cases request with
        | giveBack | discard =>
            cases returns
            rfl
        | _ => cases returns
      rw [carried] at brings
      cases brings
      exact List.mem_map_of_mem (List.mem_of_getElem? there)

theorem closesOwn_of_start {start : Turn} {rest : List Turn} {task' : TaskId}
    (move : Move view start.before start.actor start.after)
    (chain : Chain view start.after rest last)
    (shutting : Shutting id task' idle later done start.before) (starts : start.Starts task)
    (called : CalledFor request task start.after)
    (returns : request.returned? = some (id, handle)) :
    ClosesOwn id idle task handle start rest := by
  obtain ⟨actor, depot, next⟩ := start
  obtain ⟨mine, asked⟩ := starts
  dsimp only at mine asked move chain shutting called
  subst mine
  obtain ⟨request', phase, phase', site, pool, held, effect, pools, tasks, -⟩ :=
    shift_of_move move
  obtain ⟨last', there⟩ := called
  cases there.symm.trans (phase_of_becomes tasks)
  cases (stage_before tasks).symm.trans asked
  have after := stage_after tasks
  have deed := deed_of_move move tasks
  have own : Turn.closings ⟨some task, depot, next⟩ = [.close handle] ∧
        (∃ due, phase' = .closing id handle due .conclude) ∨
      Turn.closings ⟨some task, depot, next⟩ = [] ∧ request = .discard id handle ∧
        phase' = .finished .completed ∧ depot.isClosed handle = true := by
    rcases returns_to_closed effect returns shutting.closed with ⟨due, rfl⟩ | ⟨asks, rfl, dead⟩
    · exact Or.inl ⟨closings_of_grown (closings_begun deed rfl), due, rfl⟩
    · refine Or.inr ⟨?_, asks, rfl, dead⟩
      exact closings_of_grown ((closings_still deed rfl rfl).trans (List.append_nil _).symm)
  have returning : Returning id task handle next := by
    rcases own with ⟨-, due, rfl⟩ | ⟨-, -, rfl, -⟩
    · exact Or.inl ⟨due, after⟩
    · exact Or.inr (by rw [after]; rfl)
  constructor
  · intro member
    exact (shutting.given handle member).unheld shutting.owned
      (held_of_returned move tasks returns)
  · rcases own with ⟨begins, -⟩ | ⟨nothing, asks, -, dead⟩
    · exact Or.inl begins
    · exact Or.inr ⟨nothing, ⟨_, asks ▸ there⟩, dead⟩
  · intro turn member event occurs
    obtain ⟨first | later, actor⟩ := mem_ownTurns.mp member
    · rcases own with ⟨begins, -⟩ | ⟨nothing, -⟩
      · rw [begins, List.mem_singleton] at occurs
        rw [occurs]
        rfl
      · rw [nothing] at occurs
        cases occurs
    · exact returning.along chain turn (mem_ownTurns.mpr ⟨by assumption, actor⟩) event occurs

end Returning

/-- What follows once a shutdown has emptied a pool, while it has not gone on to those that come
later. -/
structure ClosesInTurn (id : PoolId) (task : TaskId) (idle : List HandleId) (later : List PoolId)
    (emptied : Depot) (turns : List Turn) : Prop where
  drains : ∀ past rest, turns = past ++ rest →
    Drains task idle later past (emptied.reached past)
  spares : ∀ turn ∈ turns, Spares task idle turn
  returns : ∀ past start rest, turns = past ++ start :: rest → ∀ other handle,
    start.Starts other →
      CalledFor (.giveBack id handle) other start.after ∨
        CalledFor (.discard id handle) other start.after →
      ClosesOwn id idle other handle start rest

theorem closesInTurn_of_chain (chain : Chain view depot turns last)
    (shutting : Shutting id task idle later [] depot)
    (stay : ∀ turn ∈ turns, turn.Stays task later) :
    ClosesInTurn id task idle later depot turns := by
  have upTo {past rest : List Turn} {mid : Depot} (splits : turns = past ++ rest)
      (front : Chain view depot past mid) :
      Shutting id task idle later (ownClosings task past) mid :=
    shutting.along front fun turn member => stay turn (splits ▸ List.mem_append_left _ member)
  constructor
  · rintro past rest rfl
    exact (upTo rfl chain.front).drains
  · intro turn member
    obtain ⟨past, rest, rfl⟩ := List.append_of_mem member
    obtain ⟨front, move, -⟩ := chain.at_turn
    exact (upTo rfl front).spares move (stay turn member)
  · rintro past start rest rfl other handle starts called
    obtain ⟨front, move, back⟩ := chain.at_turn
    rcases called with called | called
    · exact closesOwn_of_start move back (upTo rfl front) starts called rfl
    · exact closesOwn_of_start move back (upTo rfl front) starts called rfl

theorem shutFrom_shut (enough : pool.idleList.length ≤ pool.active) :
    pool.ShutFrom pool.shut.1 := by
  rw [Pool.shut_books]
  exact {
    idle := Idle.Shelf.toList_empty
    active := Nat.sub_add_cancel enough
    destroyed := rfl
    closed := rfl
    gate := rfl }

theorem empties_of_move (move : Move view depot (some task) next) (owned : Owned depot)
    (comes : depot.stage task = .shutting (id :: later)) (isOpen : (depot.pool id).closed = false)
    (inside : id < depot.pools.length)
    (enough : (depot.pool id).idleList.length ≤ (depot.pool id).active)
    (kept : next.stage task ≠ .dropped) :
    Empties id depot next ∧ Shutting id task (depot.pool id).idleList later [] next := by
  obtain ⟨request, phase, phase', site, pool, held, effect, -, tasks, -, same, gained⟩ :=
    shift_of_move move
  have before := (stage_before tasks).symm.trans comes
  have after := stage_after tasks
  have deed := deed_of_move move tasks
  subst before
  cases leg_of_move move tasks with
  | apart before => cases before
  | passes closed =>
      rw [isOpen] at closed
      cases closed
  | dropped => exact absurd after kept
  | shuts isOpen pools =>
      rw [Pool.drained_shut] at after
      have books := pool_set_same pools inside
      refine ⟨⟨?_, ?_, closings_still deed rfl rfl, ?_, ?_⟩, owned.keeps move, ?_, ?_, ?_⟩
      · rw [books]
        exact shutFrom_shut enough
      · exact fun other apart => pool_set_other pools apart.symm
      · rw [gained, same (by simp)]
        exact List.append_nil _
      · cases deed with
        | plain idle silent nothing rest => exact rest.handles
        | beginsClose closes => cases closes
        | endsClose closed => cases closed
        | beginsDial calls => cases calls
        | endsDial called => cases called
      · rw [books, Pool.shut_books]
      · intro handle member
        apply Given.ahead
        rw [after]
        exact member
      · rw [after]
        exact .ahead rfl .start

/-- Whatever task comes to an open pool that it is to shut: if it is not dropped there it empties the
pool at once. Until it goes on to the next pool it closes just the handles that were idle, each after
the one before. -/
theorem shutting_closes_in_turn {actions : List Action} {earlier stretch rest : List Turn}
    (splits : ({} : Depot).turns actions =
      earlier ++ ⟨some task, depot, next⟩ :: (stretch ++ rest))
    (comes : depot.stage task = .shutting (id :: later)) (isOpen : (depot.pool id).closed = false)
    (inside : id < depot.pools.length)
    (enough : (depot.pool id).idleList.length ≤ (depot.pool id).active)
    (kept : next.stage task ≠ .dropped) (stay : ∀ turn ∈ stretch, turn.Stays task later) :
    Empties id depot next ∧
      ClosesInTurn id task (depot.pool id).idleList later next stretch := by
  obtain ⟨view, chain⟩ := exists_chain actions
  rw [splits] at chain
  obtain ⟨front, move, back⟩ := chain.at_turn
  have owned := (front.keeps Owned.keeps owned_empty).1
  obtain ⟨empties, shutting⟩ := empties_of_move move owned comes isOpen inside enough kept
  exact ⟨empties, closesInTurn_of_chain back.front shutting stay⟩

/-- In every run in which what went back to an open pool was checked out of it, shutting the pool
empties it at once: its idle list, and its books by as many handles, before any close begins, and
its gate closes. Whatever happens afterwards, the shutdown closes just the handles that were idle,
front to back and each after the one before, and lets all others be; when it completes, each of them
has been closed once. What goes back to the pool meanwhile is closed by its own task, and is none of
those handles. -/
theorem shut_closes_in_turn {earlier : List Action} (rest : List Action)
    (reached : ({} : Depot).run earlier = depot)
    (own : ({} : Depot).returnsOwn id earlier = true) (inside : id < depot.pools.length)
    (isOpen : (depot.pool id).closed = false) :
    ∃ asked emptied more,
      depot.turnsOf (.shut id) = ⟨some depot.tasks.length, depot, asked⟩ ::
        ⟨some depot.tasks.length, asked, emptied⟩ :: more ∧
      Empties id depot emptied ∧
      ClosesInTurn id depot.tasks.length (depot.pool id).idleList [] emptied
        (more ++ (depot.act (.shut id)).turns rest) := by
  obtain ⟨count, first⟩ := turnsOf_shut isOpen
  have enough := (active_conserved own).2.1
  rw [reached, Pool.size_idle] at enough
  have comes : (depot.joined (.shut id) (.shutting [id])).stage depot.tasks.length =
      .shutting [id] := stage_joined depot _ _
  have drains : (depot.emptiedBy id).stage depot.tasks.length =
      .draining id (depot.pool id).idleList [] := stage_joined _ _ _
  have splits : ({} : Depot).turns (earlier ++ .shut id :: rest) =
      (({} : Depot).turns earlier ++
        [⟨some depot.tasks.length, depot, depot.joined (.shut id) (.shutting [id])⟩]) ++
      ⟨some depot.tasks.length, depot.joined (.shut id) (.shutting [id]), depot.emptiedBy id⟩ ::
        ((stepTurns count (depot.emptiedBy id) depot.tasks.length ++
          (depot.act (.shut id)).turns rest) ++ []) := by
    rw [turns_append, reached, turns, first]
    simp
  obtain ⟨empties, closes⟩ := shutting_closes_in_turn splits comes isOpen inside enough
    (by rw [drains]; simp) fun _ _ _ _ => rfl
  exact ⟨_, _, _, first,
    ⟨empties.books, empties.others, empties.closings, empties.held, empties.handles⟩, closes⟩

/-- One handle is out and two are idle, of which the newer one takes its time to close and fails. -/
def stuckFirst : List Action :=
  [.makeDialer "dialer" (.scripted { plans := [{ ending := .connect {} },
     { ending := .connect { closeDelay := some 1000, closeFailure := some "stuck" } },
     { ending := .connect {} }] }),
   .makePool "pool" (some 0) "" { maxActive := 3 },
   .checkout 0 {}, .checkout 0 {}, .checkout 0 {}, .giveBack 0 0, .giveBack 0 0]

def meanwhile : List Action := [.giveBack 0 0, .shut 0, .elapse 1000, .poll 5]

theorem shut_closes_in_turn_stuckFirst :
    ({} : Depot).returnsOwn 0 stuckFirst = true ∧
    ∃ asked emptied more,
      (({} : Depot).run stuckFirst).turnsOf (.shut 0) =
        ⟨some 5, ({} : Depot).run stuckFirst, asked⟩ :: ⟨some 5, asked, emptied⟩ :: more ∧
      Empties 0 (({} : Depot).run stuckFirst) emptied ∧
      ClosesInTurn 0 5 [1, 0] [] emptied
        (more ++ ((({} : Depot).run stuckFirst).act (.shut 0)).turns meanwhile) ∧
      (({} : Depot).run (stuckFirst ++ .shut 0 :: meanwhile)).closings =
        [.close 1, .close 2, .closed 2 none, .closed 1 (some "stuck"), .close 0,
          .closed 0 none] := by
  have own : ({} : Depot).returnsOwn 0 stuckFirst = true := by decide
  obtain ⟨asked, emptied, more, turns, empties, closes⟩ :=
    shut_closes_in_turn meanwhile rfl own (by decide) (by decide)
  exact ⟨own, asked, emptied, more, turns, empties, closes, by decide⟩

end Depot

end HandlePool
