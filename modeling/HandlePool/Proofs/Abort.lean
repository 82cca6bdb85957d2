import HandlePool.Proofs.Reuse

namespace HandlePool

variable {context : Context} {signals : Signals} {now : Nat}

theorem Context.check_eq_expired_iff : context.check signals now = some .expired ↔
    context.signal.any signals.fired = false ∧
      ∃ deadline, context.deadline = some deadline ∧ deadline ≤ now := by
  unfold check abortWhen
  cases context.signal.any signals.fired with
  | true => simp
  | false => cases context.deadline <;> simp

theorem Context.interrupt_of_fired (fired : context.signal.any signals.fired = true) :
    context.interrupt signals now = some .cancelled := if_pos fired

inductive Gate.PassesOn (task : TaskId) (gate : Gate) : Gate → Prop where
  | nothing (empty : task ∉ gate.granted) :
      PassesOn task gate { gate with waiting := gate.waiting.erase task }
  | toNext {other : TaskId} {rest : List TaskId} (handed : task ∈ gate.granted)
      (next : gate.waiting = other :: rest) :
      PassesOn task gate
        { gate with waiting := rest, granted := gate.granted.erase task ++ [other] }
  | toNobody (handed : task ∈ gate.granted) (nobody : gate.waiting = []) :
      PassesOn task gate
        { gate with granted := gate.granted.erase task, free := gate.free + 1 }

theorem Gate.passesOn_leave (gate : Gate) (task : TaskId) :
    gate.PassesOn task (gate.leave task) := by
  unfold leave
  split
  · rename_i handed
    unfold release
    cases next : gate.waiting with
    | nil => simpa [collect, next] using PassesOn.toNobody handed next
    | cons other rest => simpa [collect, next] using PassesOn.toNext handed next
  · rename_i empty
    exact .nothing empty

namespace Depot

variable {id view : PoolId} {depot next : Depot} {task : TaskId} {phase phase' : Phase}
  {pool : Pool} {refusal : Refusal} {actor : Option TaskId}

def Gated (id : PoolId) (depot : Depot) : Prop :=
  (depot.pool id).gate.isSome = (depot.pool id).limits.boundedWait

theorem Gated.keeps (move : Move view depot actor next) (gated : Gated id depot) :
    Gated id next := by
  unfold Gated at *
  cases (touch_of_move move : Touch id depot actor next) with
  | missing outside outside' =>
      rw [next.pool_of_length_le outside']
      rfl
  | fresh outside fresh => exact (gate_fresh fresh).1
  | still same | other who same => rw [same, gated]
  | own who inside becomes effect =>
      have fixed := fixed_of_effect effect
      rw [fixed.gated, fixed.limits, gated]

theorem gated_empty (id : PoolId) : Gated id {} := rfl

theorem quiet_of_effect (effect : Effect depot task (.checkout id context) id phase phase' pool)
    (gated : (depot.pool id).gate.isSome = true)
    (queued : ∀ other since, phase = .queued id other since → other = context)
    (outside : phase.isInside id = false) (inside : phase'.isInside id = true) :
    context.check depot.signals depot.now = none := by
  cases effect with
  | aside apart apart' =>
      rw [isInside_of_apart (stake?_ne_of_none id apart')] at inside
      cases inside
  | pass grant =>
      cases grant with
      | free asks ungated =>
          rw [ungated] at gated
          cases gated
      | taken asks gated isOpen left quiet =>
          cases asks
          exact quiet
      | collected gated isOpen handed quiet =>
          cases queued _ _ rfl
          exact quiet
  | reject | dial =>
      rw [isInside_of_slot? (slot?_scanning _)] at outside
      cases outside
  | rescan =>
      rw [isInside_of_slot? (slot?_rescanning _ _ _)] at outside
      cases outside
  | giveBack asks | discard asks => cases asks
  | _ => cases inside

theorem fired_of_effect (effect : Effect depot task (.checkout id context) id phase phase' pool)
    (queued : ∀ other since, phase = .queued id other since → other = context)
    (calledOff : refusal.isAbort = true) (ends : phase' = .finished (.refused refusal)) :
    ∃ abort, context.check depot.signals depot.now = some abort ∧
      refusal = refusalOf (depot.pool id) abort := by
  have turned (why : depot.TurnsAway id context refusal) :
      ∃ abort, context.check depot.signals depot.now = some abort ∧
        refusal = refusalOf (depot.pool id) abort := by
    rcases why with fired | ⟨-, rfl⟩
    · exact fired
    · cases calledOff
  rcases abort_of_effect effect calledOff ends with rfl | ⟨other, since, rfl⟩
  · cases effect with
    | aside apart apart' begun plain => cases plain rfl
    | turnedAway asks gated why =>
        cases asks
        cases ends
        exact turned why
    | bounce asks gated isOpen left fired =>
        cases asks
        cases refused_of_overflowOr ends
        exact ⟨_, fired, rfl⟩
    | giveBack asks | discard asks => cases asks
    | pass | queue | abandon => cases ends
  · cases effect with
    | aside apart => cases apart
    | quit why =>
        cases queued other since rfl
        cases refused_of_overflowOr ends
        exact turned why
    | pass | leave | abandon => cases ends

structure Heeds (id : PoolId) (task : TaskId) (context : Context) (turn : Turn) : Prop where
  admits : (turn.before.pool id).limits.boundedWait = true →
    (turn.before.stage task).isInside id = false → (turn.after.stage task).isInside id = true →
    context.check turn.before.signals turn.before.now = none
  aborts : ∀ refusal, turn.after.stage task = .finished (.refused refusal) →
    refusal.isAbort = true →
    ∃ abort, context.check turn.before.signals turn.before.now = some abort ∧
      refusal = refusalOf (turn.before.pool id) abort
  expires : ∀ name, turn.after.stage task = .finished (.refused (.expired name)) →
    context.signal.any turn.before.signals.fired = false ∧
      ∃ deadline, context.deadline = some deadline ∧ deadline ≤ turn.before.now

theorem heeds_of_move {turn : Turn} (move : Move view turn.before (some task) turn.after)
    (suited : Suited turn.before) (queues : Queues id turn.before) (gated : Gated id turn.before)
    (called : CalledFor (.checkout id context) task turn.after) :
    Heeds id task context turn := by
  obtain ⟨phase, phase', pool, mine⟩ := checkoutTurn_of_move move suited called
  have queued (other : Context) (since : Option Nat) (waits : phase = .queued id other since) :
      other = context := queued_of_becomes queues mine.becomes waits
  have before := stage_before mine.becomes
  have after := stage_after mine.becomes
  have aborts (refusal : Refusal) (ends : turn.after.stage task = .finished (.refused refusal))
      (calledOff : refusal.isAbort = true) :=
    fired_of_effect mine.effect queued calledOff (after.symm.trans ends)
  refine ⟨fun waits outside inside => ?_, aborts, fun name ends => ?_⟩
  · rw [before] at outside
    rw [after] at inside
    exact quiet_of_effect mine.effect (gated.trans waits) queued outside inside
  · obtain ⟨abort, fired, same⟩ := aborts _ ends rfl
    cases abort with
    | cancelled => cases same
    | expired => exact Context.check_eq_expired_iff.mp fired

structure Bows (id : PoolId) (task : TaskId) (gate : Gate) (depot after : Depot) : Prop where
  pools : ∃ gate', gate.PassesOn task gate' ∧
    after.pools = depot.pools.set id { depot.pool id with gate := some gate' }
  ends : after.stage task = .finished (.refused (.cancelled (depot.pool id).id)) ∨
    after.stage task = .finished (.panicked Gate.overflowText) ∧ task ∈ gate.granted ∧
      gate.waiting = [] ∧ Gate.capacity ≤ gate.free

theorem bows_of_poll {gate : Gate} {since : Option Nat}
    (waits : depot.stage task = .queued id context since)
    (gated : (depot.pool id).gate = some gate)
    (fired : context.signal.any depot.signals.fired = true) :
    Bows id task gate depot (depot.poll task) := by
  obtain ⟨request, step⟩ := step?_of_stage waits (by simp)
  have looked : depot.look task id context since =
      some (depot.quit task id (.cancelled (depot.pool id).id)) := by
    rw [look, Context.interrupt_of_fired fired]
    rfl
  rw [stepFrom, looked] at step
  have ends : (depot.quit task id (.cancelled (depot.pool id).id)).stage task =
      .finished (overflowOr (gate.leaveOverflows task)
        (.refused (.cancelled (depot.pool id).id))) := by
    refine stage_modify (by rw [waits]; simp) ?_
    rw [quit, gated]
    rfl
  have polled : depot.poll task = depot.quit task id (.cancelled (depot.pool id).id) := by
    rw [poll_step step, poll_of_stuck (step?_of_over (by rw [ends]; rfl))]
  rw [polled]
  refine ⟨⟨gate.leave task, gate.passesOn_leave task, ?_⟩, ?_⟩
  · have left : Pool.changeGate (·.leave task) (depot.pool id) =
        { depot.pool id with gate := some (gate.leave task) } := by
      rw [Pool.changeGate, gated]
      rfl
    rw [← left]
    rfl
  · rw [ends, overflowOr]
    split
    · rename_i overflow
      simp only [Gate.leaveOverflows, Gate.overflows, Bool.and_eq_true, decide_eq_true_eq,
        List.isEmpty_iff] at overflow
      exact Or.inr ⟨rfl, overflow⟩
    · exact Or.inl rfl

theorem start_fired (gated : (depot.pool id).gate.isSome = true)
    (fired : context.signal.any depot.signals.fired = true) :
    (depot.start (.checkout id context)).stage depot.tasks.length =
        .finished (.refused (.cancelled (depot.pool id).id)) ∧
      (depot.start (.checkout id context)).pools = depot.pools := by
  obtain ⟨gate, there⟩ := Option.isSome_iff_exists.mp gated
  have turned : (depot.enroll depot.held (.checkout id context)).answer depot.tasks.length
      (.checkout id context) =
      (depot.enroll depot.held (.checkout id context)).finish depot.tasks.length
        (.refused (.cancelled (depot.pool id).id)) := by
    have there' : ((depot.enroll depot.held (.checkout id context)).pool id).gate = some gate :=
      there
    have fired' : context.interrupt (depot.enroll depot.held (.checkout id context)).signals
        (depot.enroll depot.held (.checkout id context)).now = some .cancelled :=
      Context.interrupt_of_fired fired
    rw [answer, checkout]
    simp only [there', fired']
    rfl
  have ends : ((depot.enroll depot.held (.checkout id context)).finish depot.tasks.length
      (.refused (.cancelled (depot.pool id).id))).stage depot.tasks.length =
      .finished (.refused (.cancelled (depot.pool id).id)) := stage_enrolled rfl
  rw [start_eq, turned, poll_of_stuck (step?_of_over (by rw [ends]; rfl))]
  exact ⟨ends, rfl⟩

end Depot

end HandlePool
