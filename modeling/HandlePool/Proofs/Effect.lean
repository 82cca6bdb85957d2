import HandlePool.Depot.Progress
import HandlePool.Proofs.Books

/-!
All that a move of a task can do: to the books of the one pool it concerns, to its own phase, and to
the handles in the hands of callers.
-/
namespace HandlePool

/-- The pool in whose books a phase shows. -/
def Phase.stake? : Phase → Option PoolId
  | .queued pool _ _ | .scanning pool _ | .dialing pool _ _ | .closing pool _ _ (.rescan _)
  | .finished (.checkedOut pool _) => some pool
  | _ => none

/-- The handles that a task has in hand and is to close. -/
def Phase.hands : Phase → List HandleId
  | .closing _ _ _ (.drain rest _) => rest
  | .draining _ handles _ => handles
  | _ => []

def Phase.closing? : Phase → Option HandleId
  | .closing _ handle _ _ | .closingAlone handle _ => some handle
  | _ => none

def Request.pool? : Request → Option PoolId
  | .checkout pool _ | .giveBack pool _ | .discard pool _ => some pool
  | _ => none

def Request.returned? : Request → Option (PoolId × HandleId)
  | .giveBack pool handle | .discard pool handle => some (pool, handle)
  | _ => none

def Request.handle? : Request → Option HandleId
  | .giveBack _ handle | .discard _ handle | .closeHandle handle => some handle
  | _ => none

def Request.brings (request : Request) (phase : Phase) : List HandleId :=
  if phase = .asked then request.handle?.toList else []

theorem Request.returned?_of_plain {request : Request} (plain : request.pool? = none) :
    request.returned? = none := by
  cases request with
  | giveBack pool handle => cases plain
  | discard pool handle => cases plain
  | _ => rfl

namespace Depot

/-- How a checkout gets past the gate: its phase before, the pool once the slot is taken out of the
gate, whether there was a slot to take, and the wait on record. -/
inductive Grant (depot : Depot) (task : TaskId) (request : Request) (id : PoolId) :
    Phase → Pool → Bool → Option Nat → Prop where
  | free {context} (asks : request = .checkout id context) (ungated : (depot.pool id).gate = none) :
      Grant depot task request id .asked (depot.pool id) false none
  | taken {context gate} (asks : request = .checkout id context)
      (gated : (depot.pool id).gate = some gate) (isOpen : gate.closed = false)
      (left : gate.free ≠ 0) (quiet : context.check depot.signals depot.now = none) :
      Grant depot task request id .asked ((depot.pool id).changeGate Gate.take) true none
  | collected {context since gate} (gated : (depot.pool id).gate = some gate)
      (isOpen : gate.closed = false) (handed : task ∈ gate.granted)
      (quiet : context.check depot.signals depot.now = none) :
      Grant depot task request id (.queued id context since)
        ((depot.pool id).changeGate (·.collect task)) true (since.map (depot.now - ·))

def TurnsAway (depot : Depot) (id : PoolId) (context : Context) (refusal : Refusal) : Prop :=
  (∃ abort, context.check depot.signals depot.now = some abort ∧
    refusal = refusalOf (depot.pool id) abort) ∨
  ((∃ gate, (depot.pool id).gate = some gate ∧ gate.closed = true) ∧
    refusal = .closed (depot.pool id).id)

def overflowOr (overflow : Bool) (outcome : Outcome) : Outcome :=
  if overflow then .panicked Gate.overflowText else outcome

theorem refused_of_overflowOr {overflow : Bool} {outcome : Outcome} {refusal : Refusal}
    (isOver : Phase.finished (overflowOr overflow outcome) = .finished (.refused refusal)) :
    outcome = .refused refusal := by
  cases overflow with
  | true => cases isOver
  | false => exact Phase.finished.inj isOver

/-- A move takes a task from one phase to another, and its pool to other books. -/
inductive Effect (depot : Depot) (task : TaskId) (request : Request) (id : PoolId) :
    Phase → Phase → Pool → Prop where
  | aside {phase phase'} (apart : phase.stake? = none) (apart' : phase'.stake? = none)
      (begun : phase' ≠ .asked) (plain : phase = .asked → request.pool? = none)
      (served : ∀ refusal, phase' ≠ .finished (.refused refusal))
      (calm : ∀ message, phase' = .finished (.panicked message) →
        ∃ call, phase = .calling call ∧ (depot.endDial call).1 = .panicked message)
      (carries : (phase'.closing?.toList ++ phase'.hands).Sublist
        (phase.hands ++ request.brings phase))
      (dials : ∀ handle, phase' = .finished (.dialed handle) →
        ∃ call, phase = .calling call ∧ (depot.endDial call).1 = .connected handle) :
      Effect depot task request id phase phase' (depot.pool id)
  | turnedAway {context gate refusal} (asks : request = .checkout id context)
      (gated : (depot.pool id).gate = some gate) (why : depot.TurnsAway id context refusal) :
      Effect depot task request id .asked (.finished (.refused refusal)) (depot.pool id)
  | queue {context gate} (asks : request = .checkout id context)
      (gated : (depot.pool id).gate = some gate) (isOpen : gate.closed = false)
      (full : gate.free = 0) (quiet : context.interrupt depot.signals depot.now = none) :
      Effect depot task request id .asked (.queued id context (some depot.now))
        ((depot.pool id).changeGate (·.enqueue task))
  | pass {phase passed slot waited} (grant : depot.Grant task request id phase passed slot waited) :
      Effect depot task request id phase (.scanning id slot)
        ((passed.recordWait waited).prune depot.isClosed).1
  | bounce {context gate abort} (asks : request = .checkout id context)
      (gated : (depot.pool id).gate = some gate) (isOpen : gate.closed = false)
      (left : gate.free ≠ 0) (fired : context.check depot.signals depot.now = some abort) :
      Effect depot task request id .asked
        (.finished (overflowOr gate.take.overflows (.refused (refusalOf (depot.pool id) abort))))
        ((depot.pool id).changeGate fun gate => gate.take.release)
  | quit {context since refusal} (why : depot.TurnsAway id context refusal) :
      Effect depot task request id (.queued id context since)
        (.finished (overflowOr ((depot.pool id).gate.any (·.leaveOverflows task))
          (.refused refusal)))
        ((depot.pool id).changeGate (·.leave task))
  | leave {context since} :
      Effect depot task request id (.queued id context since) .dropped
        ((depot.pool id).changeGate (·.leave task))
  | reuse {slot handle rest} (taken : (depot.pool id).takeNewest = some (handle, rest))
      (usable : (depot.handle handle).usable = true) :
      Effect depot task request id (.scanning id slot) (.finished (.checkedOut id handle)) rest
  | reject {slot handle rest phase'} (taken : (depot.pool id).takeNewest = some (handle, rest))
      (unusable : (depot.handle handle).usable = false)
      (goes : phase' = .scanning id slot ∨ ∃ due, phase' = .closing id handle due (.rescan slot))
      (dead : phase' = .scanning id slot → depot.isClosed handle = true) :
      Effect depot task request id (.scanning id slot) phase' (rest.forget 1)
  | deny {slot refusal} (empty : (depot.pool id).takeNewest = none)
      (refused : (depot.pool id).refusal? = some refusal) :
      Effect depot task request id (.scanning id slot)
        (.finished (overflowOr (slot && (depot.pool id).slotOverflows) (.refused refusal)))
        ((depot.pool id).handBack slot false)
  | unconfigured {slot} (empty : (depot.pool id).takeNewest = none)
      (allowed : (depot.pool id).refusal? = none) (missing : (depot.pool id).dialer = none) :
      Effect depot task request id (.scanning id slot)
        (.finished (overflowOr (slot && (depot.pool id).slotOverflows)
          (.refused (.unconfigured (depot.pool id).id))))
        ((depot.pool id).reserve.handBack slot true)
  | dial {slot call dialer} (empty : (depot.pool id).takeNewest = none)
      (allowed : (depot.pool id).refusal? = none) (there : (depot.pool id).dialer = some dialer) :
      Effect depot task request id (.scanning id slot) (.dialing id slot call)
        (depot.pool id).reserve
  | connect {slot call handle} (answer : (depot.endDial call).1 = .connected handle) :
      Effect depot task request id (.dialing id slot call) (.finished (.checkedOut id handle))
        (depot.pool id).recordDial
  | refuse {slot call reason} (answer : (depot.endDial call).1 = .refused reason) :
      Effect depot task request id (.dialing id slot call)
        (.finished (overflowOr (slot && (depot.pool id).slotOverflows)
          (.refused (.dialFailed (depot.pool id).id reason))))
        ((depot.pool id).handBack slot true)
  | panic {slot call message} (answer : (depot.endDial call).1 = .panicked message) :
      Effect depot task request id (.dialing id slot call)
        (.finished (overflowOr (slot && (depot.pool id).slotOverflows) (.panicked message)))
        ((depot.pool id).handBack slot true)
  | letGo {slot call} :
      Effect depot task request id (.dialing id slot call) .dropped
        ((depot.pool id).handBack slot true)
  | rescan {handle due slot} :
      Effect depot task request id (.closing id handle due (.rescan slot)) (.scanning id slot)
        (depot.pool id)
  | abandon {phase slot}
      (held : phase = .scanning id slot ∨
        ∃ handle due, phase = .closing id handle due (.rescan slot)) :
      Effect depot task request id phase .dropped ((depot.pool id).handBack slot false)
  | giveBack {handle phase'} (asks : request = .giveBack id handle)
      (goes : (depot.pool id).slotOverflows = true ∧
          phase' = .finished (.panicked Gate.overflowText) ∨
        (depot.pool id).evicted handle = none ∧ phase' = .finished .completed ∨
        ∃ oldest due, (depot.pool id).evicted handle = some oldest ∧
          phase' = .closing id oldest due .conclude) :
      Effect depot task request id .asked phase' ((depot.pool id).shelve handle).1.releaseSlot
  | discard {handle phase'} (asks : request = .discard id handle)
      (goes : (depot.pool id).slotOverflows = true ∧
          phase' = .finished (.panicked Gate.overflowText) ∨
        phase' = .finished .completed ∨ ∃ due, phase' = .closing id handle due .conclude)
      (dead : phase' = .finished .completed → depot.isClosed handle = true) :
      Effect depot task request id .asked phase' ((depot.pool id).forget 1).releaseSlot
  | shut {later} (isOpen : (depot.pool id).closed = false) :
      Effect depot task request id (.shutting (id :: later))
        (.draining id (depot.pool id).shut.2 later) (depot.pool id).shut.1

def gains (task : TaskId) : Phase → List Holding
  | .finished outcome => (Holding.ofOutcome? task outcome).toList
  | _ => []

/-- The depot differs from an earlier one in the books of one pool, and in nothing that tasks or
callers have. -/
structure Booked (depot mid : Depot) (id : PoolId) (pool : Pool) : Prop where
  tasks : mid.tasks = depot.tasks
  held : mid.held = depot.held
  pools : mid.pools = depot.pools.set id pool

inductive Moves (depot : Depot) (task : TaskId) (request : Request) (phase : Phase) (next : Depot) :
    Prop where
  | intro (phase' : Phase) (id : PoolId) (pool : Pool)
      (tasks : next.tasks = depot.tasks.modify task ({ · with phase := phase' }))
      (held : next.held = depot.held ++ gains task phase')
      (pools : next.pools = depot.pools.set id pool)
      (effect : Effect depot task request id phase phase' pool)

section

variable {depot mid : Depot} {task : TaskId} {request : Request} {phase : Phase} {id : PoolId}
  {pool : Pool}

theorem set_pool (depot : Depot) (id : PoolId) :
    depot.pools.set id (depot.pool id) = depot.pools := by
  by_cases inside : id < depot.pools.length
  · simp [Depot.pool, List.getD_eq_getElem?_getD, inside]
  · exact List.set_eq_of_length_le (Nat.le_of_not_lt inside)

theorem inside_of_gated {gate : Gate} (gated : (depot.pool id).gate = some gate) :
    id < depot.pools.length := by
  apply Nat.lt_of_not_le
  intro outside
  rw [depot.pool_of_length_le outside] at gated
  cases gated

theorem booked_refl (depot : Depot) (id : PoolId) : Booked depot depot id (depot.pool id) :=
  ⟨rfl, rfl, (set_pool depot id).symm⟩

theorem booked_setPool (booked : Booked depot mid id pool) (pool' : Pool) :
    Booked depot (mid.setPool id pool') id pool' :=
  ⟨booked.tasks, booked.held, by simp [setPool, booked.pools]⟩

theorem pool_of_booked (booked : Booked depot mid id pool) :
    mid.pool id = pool ∨ mid.pool id = depot.pool id ∧ depot.pools.length ≤ id := by
  by_cases inside : id < depot.pools.length
  · left
    simp [Depot.pool, booked.pools, List.getD_eq_getElem?_getD, inside]
  · have outside := Nat.le_of_not_lt inside
    right
    rw [mid.pool_of_length_le (by simp [booked.pools, outside]), depot.pool_of_length_le outside]
    exact ⟨rfl, outside⟩

theorem booked_changePool (booked : Booked depot mid id pool) (change : Pool → Pool) :
    Booked depot (mid.changePool id change) id (change pool) := by
  refine ⟨booked.tasks, booked.held, ?_⟩
  rcases pool_of_booked booked with same | ⟨-, outside⟩
  · simp [changePool, setPool, same, booked.pools]
  · simp [changePool, setPool, booked.pools, List.set_eq_of_length_le, outside]

theorem booked_handBack (booked : Booked depot mid id pool) (slot reserved : Bool) :
    Booked depot (mid.handBack id slot reserved) id (pool.handBack slot reserved) := by
  cases slot <;> cases reserved
  · exact booked
  · exact booked_changePool booked Pool.unreserve
  · exact booked_changePool booked Pool.releaseSlot
  · exact booked_changePool (booked_changePool booked Pool.unreserve) Pool.releaseSlot

theorem booked_record (booked : Booked depot mid id pool) (event : Event) :
    Booked depot (mid.record event) id pool :=
  ⟨booked.tasks, booked.held, booked.pools⟩

theorem booked_note (booked : Booked depot mid id pool) (note : Note) :
    Booked depot (mid.note note) id pool :=
  booked_record booked (.noted note)

theorem moves_enter {phase' : Phase} (booked : Booked depot mid id pool)
    (effect : Effect depot task request id phase phase' pool) (nothing : gains task phase' = []) :
    Moves depot task request phase (mid.enter task phase') :=
  .intro phase' id pool (by simp [booked.tasks]) (by rw [nothing]; simp [enter, booked.held])
    booked.pools effect

theorem moves_finish {outcome : Outcome} (booked : Booked depot mid id pool)
    (effect : Effect depot task request id phase (.finished outcome) pool) :
    Moves depot task request phase (mid.finish task outcome) :=
  .intro (.finished outcome) id pool (by simp [booked.tasks]) (by simp [finish, gains, booked.held])
    booked.pools effect

end

end Depot

end HandlePool
