import HandlePool.Proofs.Owed
import HandlePool.Proofs.Slack
import HandlePool.Proofs.Trace

namespace HandlePool.Depot

def joined (depot : Depot) (request : Request) (phase : Phase) : Depot :=
  { depot with tasks := depot.tasks ++ [⟨request, phase⟩] }

/-- How a checkout ends that a closed pool turned down. It can end in a panic only if it was handed
a slot while the gate has as many free slots as a gate can have. -/
inductive TurnedDown (depot : Depot) (task : TaskId) (id : PoolId) (context : Context) :
    Phase → Phase → Prop where
  | closed {phase} :
      TurnedDown depot task id context phase (.finished (.refused (.closed (depot.pool id).id)))
  | calledOff {phase abort} (early : phase = .asked ∨ ∃ since, phase = .queued id context since)
      (fired : context.check depot.signals depot.now = some abort) :
      TurnedDown depot task id context phase
        (.finished (.refused (refusalOf (depot.pool id) abort)))
  | dropped {phase} (begun : phase ≠ .asked) : TurnedDown depot task id context phase .dropped
  | overflow {since gate} (gated : (depot.pool id).gate = some gate)
      (handed : task ∈ gate.granted) (full : Gate.capacity ≤ gate.free) :
      TurnedDown depot task id context (.queued id context since)
        (.finished (.panicked Gate.overflowText))

/-- What a turn can do to a pool that is closed, or that it closes. -/
structure Sealed (id : PoolId) (turn : Turn) : Prop where
  idle : (turn.after.pool id).idle.toList = []
  active : (turn.after.pool id).active ≤ (turn.before.pool id).active
  dialing : ∀ task, (turn.after.stage task).isDialing id = true →
    turn.after.stage task = turn.before.stage task
  calls : ∀ task context, turn.actor = some task →
    CalledFor (.checkout id context) task turn.after → turn.after.called = turn.before.called
  ends : ∀ task context, turn.actor = some task →
    CalledFor (.checkout id context) task turn.after →
    (turn.after.stage task).isOver = true → (turn.before.stage task).isDialing id = false →
    TurnedDown turn.before task id context (turn.before.stage task) (turn.after.stage task)
  returns : ∀ task handle, turn.actor = some task →
    CalledFor (.giveBack id handle) task turn.after → turn.before.stage task = .asked →
    (∃ due, turn.after.stage task = .closing id handle due .conclude) ∧
      turn.after.begun = turn.before.begun ++ [handle]
  passes : ∀ task later, turn.actor = some task → (turn.before.pool id).closed = true →
    turn.before.stage task = .shutting (id :: later) →
    ∃ phase, turn.after = turn.before.enter task phase

structure Shuttered (pool : Pool) : Prop where
  idle : pool.idleList = []
  gate : ∀ gate, pool.gate = some gate → gate.closed = true

variable {id view site : PoolId} {depot next last : Depot} {task : TaskId} {request : Request}
  {context : Context} {phase phase' : Phase} {pool : Pool} {handle : HandleId}

section

variable (closed : (depot.pool id).closed = true) (shuttered : Shuttered (depot.pool id))

include shuttered in
theorem not_open {gate : Gate} (gated : (depot.pool id).gate = some gate)
    (isOpen : gate.closed = false) : False := by
  rw [shuttered.gate gate gated] at isOpen
  cases isOpen

include shuttered in
theorem not_taken {entry : HandleId × Pool} (taken : (depot.pool id).takeNewest = some entry) :
    False := by
  rw [(Pool.takeNewest_eq_none _).mpr shuttered.idle] at taken
  cases taken

include closed in
theorem not_allowed (allowed : (depot.pool id).refusal? = none) : False := by
  rw [(allowed_of_refusal? allowed).1] at closed
  cases closed

include closed shuttered

theorem books_of_closed (effect : Effect depot task request id phase phase' pool) :
    Shuttered pool ∧ pool.active ≤ (depot.pool id).active := by
  have handed (slot reserved : Bool) : Shuttered ((depot.pool id).handBack slot reserved) ∧
      ((depot.pool id).handBack slot reserved).active ≤ (depot.pool id).active := by
    rw [Pool.handBack_of_closed closed]
    exact ⟨⟨shuttered.idle, shuttered.gate⟩, Nat.sub_le _ _⟩
  have forgotten : Shuttered ((depot.pool id).forget 1).releaseSlot ∧
      ((depot.pool id).forget 1).releaseSlot.active ≤ (depot.pool id).active := by
    rw [Pool.releaseSlot_of_closed ((Pool.closed_forget _ _).trans closed)]
    exact ⟨⟨shuttered.idle, shuttered.gate⟩, Nat.sub_le _ _⟩
  cases effect with
  | aside | turnedAway | rescan => exact ⟨shuttered, Nat.le_refl _⟩
  | connect => exact ⟨⟨shuttered.idle, shuttered.gate⟩, Nat.le_refl _⟩
  | pass grant =>
      cases grant with
      | free asks ungated =>
          refine ⟨⟨?_, fun gate gated => shuttered.gate gate gated⟩, ?_⟩
          · apply List.sublist_nil.mp
            rw [← shuttered.idle]
            exact Pool.sublist_prune _ _
          · rw [Pool.active_prune]
            exact Nat.sub_le _ _
      | taken asks gated isOpen => exact (not_open shuttered gated isOpen).elim
      | collected gated isOpen => exact (not_open shuttered gated isOpen).elim
  | quit | leave =>
      refine ⟨⟨shuttered.idle, fun gate gated => ?_⟩, Nat.le_refl _⟩
      obtain ⟨before, there, rfl⟩ := Option.map_eq_some_iff.mp gated
      rw [Gate.closed_leave]
      exact shuttered.gate before there
  | deny | refuse | panic | letGo | abandon => exact handed _ _
  | giveBack asks goes =>
      rw [Pool.shelve_of_closed _ _ closed]
      exact forgotten
  | discard => exact forgotten
  | queue asks gated isOpen => exact (not_open shuttered gated isOpen).elim
  | bounce asks gated isOpen => exact (not_open shuttered gated isOpen).elim
  | reuse taken => exact (not_taken shuttered taken).elim
  | reject taken => exact (not_taken shuttered taken).elim
  | unconfigured empty allowed => exact (not_allowed closed allowed).elim
  | dial empty allowed => exact (not_allowed closed allowed).elim
  | shut isOpen =>
      rw [isOpen] at closed
      cases closed

theorem goes_of_closed (effect : Effect depot task (.checkout id context) id phase phase' pool)
    (uses : phase = .asked ∨ phase.stake? = some id) :
    phase'.isOver = true ∨ ∃ slot, phase' = .scanning id slot := by
  cases effect with
  | aside apart apart' begun plain =>
      rcases uses with asked | shows
      · cases plain asked
      · rw [apart] at shows
        cases shows
  | pass | rescan => exact Or.inr ⟨_, rfl⟩
  | queue asks gated isOpen => exact (not_open shuttered gated isOpen).elim
  | reject taken => exact (not_taken shuttered taken).elim
  | dial empty allowed => exact (not_allowed closed allowed).elim
  | giveBack asks => cases asks
  | discard asks => cases asks
  | shut => rcases uses with asked | shows <;> contradiction
  | _ => exact Or.inl rfl

theorem ends_of_closed (effect : Effect depot task (.checkout id context) id phase phase' pool)
    (uses : phase = .asked ∨ phase.stake? = some id)
    (queued : ∀ other since, phase = .queued id other since → other = context)
    (isOver : phase'.isOver = true) (quiet : phase.isDialing id = false) :
    TurnedDown depot task id context phase phase' := by
  cases effect with
  | aside apart apart' begun plain =>
      rcases uses with asked | shows
      · cases plain asked
      · rw [apart] at shows
        cases shows
  | turnedAway asks gated why =>
      cases asks
      rcases why with ⟨abort, fired, rfl⟩ | ⟨-, rfl⟩
      · exact .calledOff (Or.inl rfl) fired
      · exact .closed
  | quit why =>
      rename_i other since refusal
      cases queued other since rfl
      unfold overflowOr
      split
      · rename_i overflow
        obtain ⟨gate, gated, leaves⟩ := (Option.any_eq_true _ _).mp overflow
        simp only [Gate.leaveOverflows, Gate.overflows, Bool.and_eq_true, decide_eq_true_eq]
          at leaves
        exact .overflow gated leaves.1 leaves.2.2
      · rcases why with ⟨abort, fired, rfl⟩ | ⟨-, rfl⟩
        · exact .calledOff (Or.inr ⟨since, rfl⟩) fired
        · exact .closed
  | deny empty refused =>
      rw [Pool.slotOverflows_of_closed closed, Bool.and_false]
      rw [Pool.refusal?, if_pos closed] at refused
      cases refused
      exact .closed
  | leave => exact .dropped (by simp)
  | abandon held =>
      apply TurnedDown.dropped
      rcases held with rfl | ⟨handle, due, rfl⟩ <;> simp
  | queue asks gated isOpen => exact (not_open shuttered gated isOpen).elim
  | bounce asks gated isOpen => exact (not_open shuttered gated isOpen).elim
  | reuse taken => exact (not_taken shuttered taken).elim
  | reject taken => exact (not_taken shuttered taken).elim
  | unconfigured empty allowed => exact (not_allowed closed allowed).elim
  | connect | refuse | panic | letGo =>
      rw [isDialing_own] at quiet
      cases quiet
  | giveBack asks => cases asks
  | discard asks => cases asks
  | pass | dial | rescan | shut => cases isOver

omit shuttered in
theorem returns_of_closed
    (effect : Effect depot task (.giveBack id handle) id .asked phase' pool) :
    ∃ due, phase' = .closing id handle due .conclude := by
  cases effect with
  | aside apart apart' begun plain => cases plain rfl
  | giveBack asks goes =>
      cases asks
      rw [Pool.slotOverflows_of_closed closed, Pool.evicted, Pool.shelve_of_closed _ _ closed]
        at goes
      rcases goes with ⟨overflow, -⟩ | ⟨kept, -⟩ | ⟨oldest, due, evicted, rfl⟩
      · cases overflow
      · cases kept
      · cases evicted
        exact ⟨due, rfl⟩
  | pass grant => cases grant with
    | free asks => cases asks
    | taken asks => cases asks
  | abandon held => rcases held with held | ⟨other, due, held⟩ <;> cases held
  | turnedAway asks | queue asks | bounce asks | discard asks => cases asks

end

structure Shuts (id : PoolId) (phase phase' : Phase) (pool : Pool) (active : Nat) : Prop where
  shuttered : Shuttered pool
  active : pool.active ≤ active
  begun : phase ≠ .asked
  apart : phase.stake? = none
  apart' : phase'.stake? = none

theorem shuts_of_effect (effect : Effect depot task request id phase phase' pool)
    (isOpen : (depot.pool id).closed = false) (closes : pool.closed = true) :
    Shuts id phase phase' pool (depot.pool id).active := by
  rcases closed_of_effect effect with same | ⟨⟨pools, rfl⟩, -⟩
  · rw [same, isOpen] at closes
    cases closes
  · cases effect with
    | aside =>
        rw [isOpen] at closes
        cases closes
    | shut =>
        refine ⟨⟨by simp [Pool.idleList], fun gate gated => ?_⟩, ?_, by simp, rfl, rfl⟩
        · rw [Pool.shut_books] at gated
          obtain ⟨before, -, rfl⟩ := Option.map_eq_some_iff.mp gated
          rfl
        · rw [Pool.shut_books]
          exact Nat.sub_le _ _
    | pass grant => cases grant
    | abandon held => rcases held with held | ⟨handle, due, held⟩ <;> cases held

theorem shuttered_of_move {actor : Option TaskId} (move : Move view depot actor next)
    (shuttered : (depot.pool id).closed = true → Shuttered (depot.pool id))
    (closed : (next.pool id).closed = true) :
    Shuttered (next.pool id) ∧ (next.pool id).active ≤ (depot.pool id).active := by
  cases (touch_of_move move : Touch id depot actor next) with
  | missing outside outside' =>
      rw [next.pool_of_length_le outside'] at closed
      cases closed
  | fresh outside fresh =>
      obtain ⟨name, dialer, parameter, limits, gate, made⟩ := fresh.made
      rw [made] at closed
      cases closed
  | still same tasks =>
      rw [same] at closed ⊢
      exact ⟨shuttered closed, Nat.le_refl _⟩
  | other who same =>
      rw [same] at closed ⊢
      exact ⟨shuttered closed, Nat.le_refl _⟩
  | own who inside becomes effect =>
      cases before : (depot.pool id).closed with
      | true => exact books_of_closed before (shuttered before) effect
      | false =>
          have shuts := shuts_of_effect effect before closed
          exact ⟨shuts.shuttered, shuts.active⟩

def Queues (id : PoolId) (depot : Depot) : Prop :=
  ∀ task context since, depot.phase? task = some (.queued id context since) →
    CalledFor (.checkout id context) task depot ∧ (depot.pool id).gate.isSome = true

theorem queues_of_effect (effect : Effect depot task request site phase phase' pool)
    {since : Option Nat} (queued : phase' = .queued id context since) :
    phase = .asked ∧ request = .checkout id context ∧ (depot.pool id).gate.isSome = true := by
  cases effect with
  | aside apart apart' =>
      rw [queued] at apart'
      cases apart'
  | queue asks gated =>
      cases queued
      exact ⟨rfl, asks, by rw [gated]; rfl⟩
  | reject taken unusable goes =>
      rw [queued] at goes
      rcases goes with goes | ⟨due, goes⟩ <;> cases goes
  | giveBack asks goes =>
      rw [queued] at goes
      rcases goes with ⟨-, goes⟩ | ⟨-, goes⟩ | ⟨oldest, due, -, goes⟩ <;> cases goes
  | discard asks goes =>
      rw [queued] at goes
      rcases goes with ⟨-, goes⟩ | goes | ⟨due, goes⟩ <;> cases goes
  | _ => cases queued

theorem gated_lasts {actor : Option TaskId} (move : Move view depot actor next)
    (gated : (depot.pool id).gate.isSome = true) : (next.pool id).gate.isSome = true := by
  have there : ¬ depot.pools.length ≤ id := by
    intro outside
    rw [depot.pool_of_length_le outside] at gated
    cases gated
  cases (touch_of_move move : Touch id depot actor next) with
  | missing outside => exact absurd outside there
  | fresh outside => exact absurd outside there
  | still same => rw [same]; exact gated
  | other who same => rw [same]; exact gated
  | own who inside becomes effect => rw [(fixed_of_effect effect).gated]; exact gated

theorem Queues.keeps {actor : Option TaskId} (move : Move view depot actor next)
    (queues : Queues id depot) : Queues id next := by
  intro task context since queued
  by_cases mine : actor = some task
  · subst mine
    obtain ⟨request, phase, phase', site, pool, held, effect, pools, tasks, -⟩ :=
      shift_of_move move
    rw [phase?_of_getElem? (phase_of_becomes tasks), Option.some.injEq] at queued
    obtain ⟨-, asks, gated⟩ := queues_of_effect effect queued
    exact ⟨⟨phase', asks ▸ phase_of_becomes tasks⟩, gated_lasts move gated⟩
  · rw [phase?_of_others move mine] at queued
    obtain ⟨called, gated⟩ := queues task context since queued
    exact ⟨request_stays move called, gated_lasts move gated⟩

structure Watched (id : PoolId) (depot : Depot) : Prop where
  suited : Suited depot
  shuttered : (depot.pool id).closed = true → Shuttered (depot.pool id)
  queues : Queues id depot
  owned : Owned depot
  brought : Brought id depot
  covered : Covered id depot

theorem Watched.keeps {actor : Option TaskId} (move : Move view depot actor next)
    (watched : Watched id depot) : Watched id next :=
  ⟨suited_of_move move watched.suited,
    fun closed => (shuttered_of_move move watched.shuttered closed).1,
    watched.queues.keeps move, watched.owned.keeps move,
    watched.brought.keeps move watched.owned, watched.covered.keeps move watched.brought⟩

theorem watched_empty (id : PoolId) : Watched id {} := by
  refine ⟨suited_empty, ?_, ?_, owned_empty, ?_, Nat.zero_le _⟩
  · intro closed
    cases closed
  · intro task context since queued
    cases queued
  · intro handle member
    cases member

theorem request_of_called {asked : Request}
    (becomes : Becomes depot.tasks request task phase phase' next.tasks)
    (called : CalledFor asked task next) : request = asked := by
  obtain ⟨last, there⟩ := called
  rw [phase_of_becomes becomes] at there
  cases there
  rfl

theorem queued_of_becomes (queues : Queues id depot)
    (becomes : Becomes depot.tasks (.checkout id context) task phase phase' next.tasks)
    {other : Context} {since : Option Nat} (queued : phase = .queued id other since) :
    other = context := by
  subst queued
  have there := (phase?_before becomes).resolve_left (by simp)
  have here := (before_of_becomes becomes).resolve_left (by simp)
  obtain ⟨⟨last, same⟩, -⟩ := queues task other since there.2
  rw [here.2] at same
  cases same
  rfl

theorem checkoutTurn_of_move {turn : Turn} (move : Move view turn.before (some task) turn.after)
    (suited : Suited turn.before) (called : CalledFor (.checkout id context) task turn.after) :
    ∃ phase phase' pool, CheckoutTurn id context task turn phase phase' pool := by
  obtain ⟨request, phase, phase', site, pool, held, effect, pools, becomes, -⟩ :=
    shift_of_move move
  have asks := request_of_called becomes called
  subst asks
  have uses := uses_of_suited suited becomes
  have here := site_of_effect effect (uses.imp_left fun asked => ⟨asked, rfl⟩)
  subst here
  exact ⟨phase, phase', pool, becomes, effect, pools, uses⟩

structure Barred (id : PoolId) (depot : Depot) (task : TaskId) (request : Request)
    (phase phase' : Phase) : Prop where
  dialing : phase'.isDialing id = false
  goes : ∀ context, request = .checkout id context →
    phase'.isOver = true ∨ ∃ slot, phase' = .scanning id slot
  ends : ∀ context, request = .checkout id context → phase'.isOver = true →
    phase.isDialing id = false → TurnedDown depot task id context phase phase'
  returns : ∀ handle, request = .giveBack id handle → phase = .asked →
    ∃ due, phase' = .closing id handle due .conclude

theorem barred_of_effect (becomes : Becomes depot.tasks request task phase phase' next.tasks)
    (effect : Effect depot task request site phase phase' pool)
    (pools : next.pools = depot.pools.set site pool) (watched : Watched id depot)
    (closed : (next.pool id).closed = true) : Barred id depot task request phase phase' := by
  have uses {context : Context} (asks : request = .checkout id context) :
      phase = .asked ∨ phase.stake? = some id := by
    subst asks
    exact uses_of_suited watched.suited becomes
  by_cases here : site = id
  · subst here
    by_cases inside : site < depot.pools.length
    · rw [pool_set_same pools inside] at closed
      cases before : (depot.pool site).closed with
      | true =>
          have shuttered := watched.shuttered before
          constructor
          · apply Bool.eq_false_iff.mpr
            intro dials
            exact not_allowed before (dials_of_effect effect dials).allowed
          · intro context asks
            have mine := uses asks
            subst asks
            exact goes_of_closed before shuttered effect mine
          · intro context asks
            have mine := uses asks
            subst asks
            exact ends_of_closed before shuttered effect mine fun other since =>
              queued_of_becomes watched.queues becomes
          · intro handle asks asked
            subst asks asked
            exact returns_of_closed before effect
      | false =>
          have shuts := shuts_of_effect effect before closed
          have never {context : Context} (asks : request = .checkout site context) : False := by
            rcases uses asks with asked | shows
            · exact shuts.begun asked
            · rw [shuts.apart] at shows
              cases shows
          -- This is the move that closes the pool, and it is no move of a checkout.
          exact ⟨isDialing_of_apart (stake?_ne_of_none site shuts.apart'),
            fun _ asks => (never asks).elim, fun _ asks => (never asks).elim,
            fun _ _ asked => absurd asked shuts.begun⟩
    · have outside := Nat.le_of_not_lt inside
      rw [next.pool_of_length_le (by rw [pools, List.length_set]; exact outside)] at closed
      cases closed
  · have apart' := (stakes_of_effect effect here).2.1
    have never {context : Context} (asks : request = .checkout id context) : False :=
      here (site_of_effect effect ((uses asks).imp_left fun asked => ⟨asked, by rw [asks]; rfl⟩))
    exact ⟨isDialing_of_apart apart', fun _ asks => (never asks).elim,
      fun _ asks => (never asks).elim,
      fun _ asks asked => (here (site_of_effect effect (Or.inl ⟨asked, by rw [asks]; rfl⟩))).elim⟩

theorem passes_of_move {later : List PoolId} (move : Move view depot (some task) next)
    (closed : (depot.pool id).closed = true) (shuts : depot.stage task = .shutting (id :: later)) :
    ∃ phase, next = depot.enter task phase := by
  cases move with
  | begins called moves answers =>
      rw [depot.stage_length] at shuts
      cases shuts
  | steps here begun unfinished moves goes =>
      rename_i found
      rw [stage, phase?_of_getElem? here, Option.getD_some] at shuts
      rw [shuts] at goes
      rcases goes with step | dropped
      · rw [stepFrom, shutNext, if_pos closed, Option.some.injEq] at step
        exact ⟨_, step.symm⟩
      · exact ⟨_, dropped⟩

theorem call?_of_goes (goes : phase.isOver = true ∨ ∃ slot, phase = .scanning id slot) :
    phase.call? = none := by
  rcases goes with isOver | ⟨slot, rfl⟩
  · exact call?_of_isOver isOver
  · rfl

theorem sealed_of_move {turn : Turn} (move : Move view turn.before turn.actor turn.after)
    (watched : Watched id turn.before) (closed : (turn.after.pool id).closed = true) :
    Sealed id turn := by
  obtain ⟨shuttered, active⟩ := shuttered_of_move move watched.shuttered closed
  have stays {other : TaskId} (apart : turn.actor ≠ some other) :
      turn.after.stage other = turn.before.stage other := by
    rw [stage, stage, phase?_of_others move apart]
  have acts {task : TaskId} (mine : turn.actor = some task) :
      ∃ request, (∀ asked, CalledFor asked task turn.after → request = asked) ∧
        Barred id turn.before task request (turn.before.stage task) (turn.after.stage task) ∧
        Deed turn.before request turn.after (turn.before.stage task) (turn.after.stage task) := by
    rw [mine] at move
    obtain ⟨request, phase, phase', site, pool, held, effect, pools, tasks, -⟩ :=
      shift_of_move move
    rw [stage_before tasks, stage_after tasks]
    exact ⟨request, fun asked => request_of_called tasks,
      barred_of_effect tasks effect pools watched closed, deed_of_move move tasks⟩
  constructor
  · exact shuttered.idle
  · exact active
  · intro task dials
    by_cases mine : turn.actor = some task
    · obtain ⟨request, -, barred, -⟩ := acts mine
      rw [barred.dialing] at dials
      cases dials
    · exact stays mine
  · intro task context mine called
    obtain ⟨request, asks, barred, deed⟩ := acts mine
    exact called_of_deed deed (call?_of_goes (barred.goes context (asks _ called)))
  · intro task context mine called isOver quiet
    obtain ⟨request, asks, barred, -⟩ := acts mine
    exact barred.ends context (asks _ called) isOver quiet
  · intro task handle mine called asked
    obtain ⟨request, asks, barred, deed⟩ := acts mine
    obtain ⟨due, closes⟩ := barred.returns handle (asks _ called) asked
    refine ⟨⟨due, closes⟩, ?_⟩
    rw [begun_of_deed deed, closes]
    rfl
  · intro task later mine before shuts
    rw [mine] at move
    exact passes_of_move move before shuts

/-- On its way through a pool that is closed: a checkout that goes on at once, or is over. -/
structure Going (id : PoolId) (task : TaskId) (depot : Depot) : Prop where
  watched : Watched id depot
  closed : (depot.pool id).closed = true
  goes : ∀ context, CalledFor (.checkout id context) task depot →
    (depot.stage task).isOver = true ∨ ∃ slot, depot.stage task = .scanning id slot

theorem going_of_move (move : Move view depot (some task) next) (watched : Watched id depot)
    (closed : (depot.pool id).closed = true) : Going id task next := by
  have closed' := closed_lasts move closed
  refine ⟨watched.keeps move, closed', fun context called => ?_⟩
  obtain ⟨request, phase, phase', site, pool, held, effect, pools, tasks, -⟩ := shift_of_move move
  rw [stage_after tasks]
  exact (barred_of_effect tasks effect pools watched closed').goes context
    (request_of_called tasks called)

theorem Going.keeps {actor : Option TaskId} (move : Move view depot actor next)
    (going : Going id task depot) : Going id task next := by
  by_cases mine : actor = some task
  · subst mine
    exact going_of_move move going.watched going.closed
  · refine ⟨going.watched.keeps move, closed_lasts move going.closed, fun context called => ?_⟩
    obtain ⟨phase, there⟩ := called
    rw [stage, phase?_of_others move mine]
    rw [tasks_of_others move mine] at there
    exact going.goes context ⟨phase, there⟩

theorem over_of_advance (going : Going id task depot)
    (called : CalledFor (.checkout id context) task depot) (turns : Nat)
    (stuck : (advance turns depot task).step? task = none) :
    ((advance turns depot task).phase? task).any Phase.isOver = true := by
  have chain : Chain id depot (stepTurns turns depot task) (advance turns depot task) := by
    apply chain_stepTurns
    intro found here asked
    have goes := going.goes context called
    rw [stage, phase?_of_getElem? here, Option.getD_some, asked] at goes
    rcases goes with isOver | ⟨slot, scans⟩
    · cases isOver
    · cases scans
  -- All along the way the checkout scans or is over, and one that scans is not stuck.
  obtain ⟨going, -⟩ := chain.keeps Going.keeps going
  obtain ⟨⟨phase, here⟩, -⟩ := chain.keeps request_stays called
  have goes := going.goes context ⟨phase, here⟩
  rw [stage, phase?_of_getElem? here, Option.getD_some] at goes
  rw [phase?_of_getElem? here, Option.any_some]
  rcases goes with isOver | ⟨slot, rfl⟩
  · exact isOver
  · rw [step?, here] at stuck
    cases stuck

theorem poll_of_step (stepped : depot.step? task = some next) :
    ∃ turns, depot.poll task = advance turns next task := by
  have stuck := step?_poll depot task
  obtain ⟨found, here, -⟩ := Option.bind_eq_some_iff.mp stepped
  unfold poll at stuck ⊢
  rw [here] at stuck ⊢
  dsimp only at stuck ⊢
  cases load : depot.load found.request found.phase with
  | zero =>
      rw [load, advance, stepped] at stuck
      cases stuck
  | succ turns =>
      rw [advance, stepped]
      exact ⟨turns, rfl⟩

theorem poll_of_stuck (stuck : depot.step? task = none) : depot.poll task = depot := by
  unfold poll
  split
  · rfl
  · rename_i found here
    cases depot.load found.request found.phase with
    | zero => rfl
    | succ turns => rw [advance, stuck]

theorem over_of_start (watched : Watched id depot) (closed : (depot.pool id).closed = true)
    (context : Context) :
    ((depot.start (.checkout id context)).phase? depot.tasks.length).any Phase.isOver = true := by
  have moves := moves_answer (depot.enroll depot.held (.checkout id context)) depot.tasks.length
    (.checkout id context)
  have stuck := step?_poll (depot.enroll depot.held (.checkout id context)) depot.tasks.length
  obtain ⟨turns, next, answers, -, polled⟩ := depot.startTurns_eq depot.held (.checkout id context)
  rw [← answers] at moves
  rw [polled] at stuck
  have move : Move id depot (some depot.tasks.length) next := .begins (.plain rfl rfl) moves answers
  obtain ⟨phase, -, tasks⟩ := tasks_of_answer moves
  have called : CalledFor (.checkout id context) depot.tasks.length next :=
    ⟨phase, by rw [tasks, List.getElem?_concat_length]⟩
  show (((depot.enroll depot.held (.checkout id context)).poll depot.tasks.length).phase?
    depot.tasks.length).any Phase.isOver = true
  rw [polled]
  exact over_of_advance (going_of_move move watched closed) called turns stuck

theorem waits_of_stuck (watched : Watched id depot) (closed : (depot.pool id).closed = true)
    (here : depot.tasks[task]? = some ⟨.checkout id context, phase⟩)
    (quiet : phase.isDialing id = false) (stuck : depot.step? task = none) :
    phase.isOver = true ∨
      ∃ handle due slot, phase = .closing id handle due (.rescan slot) ∧
        depot.elapsed due = false := by
  rw [step?, here, Option.bind_some] at stuck
  rcases (watched.suited task _ here).goes id context rfl with isOver | shows
  · exact Or.inl isOver
  · cases phase with
    | queued site other since =>
        cases shows
        obtain ⟨-, gated⟩ := watched.queues task other since (phase?_of_getElem? here)
        obtain ⟨gate, gated⟩ := Option.isSome_iff_exists.mp gated
        have shut := (watched.shuttered closed).gate gate gated
        cases fired : other.interrupt depot.signals depot.now with
        | some abort =>
            rw [stepFrom, look, fired] at stuck
            cases stuck
        | none =>
            rw [stepFrom, look, fired, gated] at stuck
            simp only [shut, if_true] at stuck
            cases stuck
    | scanning site slot => cases stuck
    | dialing site slot call =>
        cases shows
        rw [isDialing_own] at quiet
        cases quiet
    | closing site handle due errand =>
        cases errand with
        | rescan slot =>
            cases shows
            refine Or.inr ⟨handle, due, slot, rfl, ?_⟩
            cases late : depot.elapsed due with
            | false => rfl
            | true =>
                rw [stepFrom, late] at stuck
                cases stuck
        | conclude => cases shows
        | drain rest later => cases shows
    | finished outcome => exact Or.inl rfl
    | _ => cases shows

theorem over_of_poll (watched : Watched id depot) (closed : (depot.pool id).closed = true)
    (here : depot.tasks[task]? = some ⟨.checkout id context, phase⟩)
    (quiet : phase.isDialing id = false) :
    ((depot.poll task).phase? task).any Phase.isOver = true ∨
      ∃ handle due slot, phase = .closing id handle due (.rescan slot) ∧
        depot.elapsed due = false := by
  cases stepped : depot.step? task with
  | none =>
      rw [poll_of_stuck stepped, phase?_of_getElem? here]
      exact waits_of_stuck watched closed here quiet stepped
  | some next =>
      obtain ⟨found, there, step⟩ := Option.bind_eq_some_iff.mp stepped
      rw [here] at there
      cases there
      have begun : phase ≠ .asked := by
        rintro rfl
        rcases (watched.suited task _ here).goes id context rfl with isOver | shows
        · cases isOver
        · cases shows
      have move : Move id depot (some task) next :=
        .steps here begun (unfinished_of_stepFrom step) (moves_stepFrom step) (Or.inl step)
      obtain ⟨turns, polled⟩ := poll_of_step stepped
      have stuck := step?_poll depot task
      rw [polled] at stuck ⊢
      left
      exact over_of_advance (going_of_move move watched closed)
        (request_stays move ⟨phase, here⟩) turns stuck

theorem enter_joined (depot : Depot) (request : Request) (phase phase' : Phase) :
    (depot.joined request phase).enter depot.tasks.length phase' = depot.joined request phase' := by
  simp [joined, enter, List.modify_eq_set_getElem?]

theorem step?_joined (depot : Depot) (request : Request) (phase : Phase) :
    (depot.joined request phase).step? depot.tasks.length =
      (depot.joined request phase).stepFrom depot.tasks.length request phase := by
  simp [step?, joined]

theorem finish_joined (depot : Depot) (request : Request) (phase : Phase) :
    (depot.joined request phase).finish depot.tasks.length .completed =
      (depot.joined request (.finished .completed)).record
        (.done depot.tasks.length .completed) := by
  rw [finish, enter_joined]
  simp [Holding.ofOutcome?, joined, record]

theorem start_shut (closed : (depot.pool id).closed = true) (idle : (depot.pool id).idleList = []) :
    depot.start (.shut id) = (depot.joined (.shut id) (.finished .completed)).record
      (.done depot.tasks.length .completed) := by
  have size : (depot.pool id).idle.size = 0 := by rw [Pool.size_idle, idle]; rfl
  have load : (depot.joined (.shut id) .asked).load (.shut id) .asked = 5 := by
    have same : (depot.joined (.shut id) .asked).pool id = depot.pool id := rfl
    simp [load, requestLoad, shutLoad, same, size]
  have asked : (depot.joined (.shut id) .asked).step? depot.tasks.length =
      some (depot.joined (.shut id) (.shutting [id])) := by
    rw [step?_joined, stepFrom, answer, enter_joined]
  have passed : (depot.joined (.shut id) (.shutting [id])).step? depot.tasks.length =
      some (depot.joined (.shut id) (.shutting [])) := by
    have shut : ((depot.joined (.shut id) (.shutting [id])).pool id).closed = true := closed
    rw [step?_joined, stepFrom, shutNext, if_pos shut, enter_joined]
  have done : (depot.joined (.shut id) (.shutting [])).step? depot.tasks.length =
      some ((depot.joined (.shut id) (.finished .completed)).record
        (.done depot.tasks.length .completed)) := by
    rw [step?_joined, stepFrom, shutNext, finish_joined]
  have stuck : ((depot.joined (.shut id) (.finished .completed)).record
      (.done depot.tasks.length .completed)).step? depot.tasks.length = none := by
    simp [step?, joined, stepFrom]
  have here : (depot.joined (.shut id) .asked).tasks[depot.tasks.length]? =
      some ⟨.shut id, .asked⟩ := by
    simp [joined]
  show (depot.joined (.shut id) .asked).poll depot.tasks.length = _
  simp only [poll, here, load, advance, asked, passed, done, stuck]

def emptiedBy (depot : Depot) (id : PoolId) : Depot :=
  ((depot.setPool id (depot.pool id).shut.1).note
    (.closing id (depot.pool id).idleList.length)).joined (.shut id)
      (.draining id (depot.pool id).idleList [])

theorem stage_joined (depot : Depot) (request : Request) (phase : Phase) :
    (depot.joined request phase).stage depot.tasks.length = phase := by
  simp [stage, phase?, joined]

theorem turnsOf_shut (isOpen : (depot.pool id).closed = false) :
    ∃ count, depot.turnsOf (.shut id) =
      ⟨some depot.tasks.length, depot, depot.joined (.shut id) (.shutting [id])⟩ ::
        ⟨some depot.tasks.length, depot.joined (.shut id) (.shutting [id]), depot.emptiedBy id⟩ ::
        stepTurns count (depot.emptiedBy id) depot.tasks.length := by
  have load : (depot.enroll depot.held (.shut id)).load (.shut id) .asked =
      2 * (depot.pool id).idle.size + 3 + 1 + 1 := rfl
  have answers : depot.joined (.shut id) (.shutting [id]) =
      (depot.enroll depot.held (.shut id)).answer depot.tasks.length (.shut id) :=
    (enter_joined depot (.shut id) .asked (.shutting [id])).symm
  have stepped : (depot.joined (.shut id) (.shutting [id])).step? depot.tasks.length =
      some (depot.emptiedBy id) := by
    have here : (depot.joined (.shut id) (.shutting [id])).pool id = depot.pool id := rfl
    rw [step?_joined, stepFrom, shutNext, here, if_neg (by simp [isOpen])]
    simp only [Pool.drained_shut]
    exact congrArg some (enter_joined ((depot.setPool id (depot.pool id).shut.1).note
      (.closing id (depot.pool id).idleList.length)) (.shut id) (.shutting [id]) _)
  refine ⟨2 * (depot.pool id).idle.size + 3, (startTurns_of_load load answers).1.trans ?_⟩
  rw [stepTurns, stepped]

theorem closed_of_shut (resting : depot.Resting) (inside : id < depot.pools.length) :
    ((depot.act (.shut id)).pool id).closed = true := by
  have chain : Chain id depot (depot.turnsOf (.shut id)) (depot.act (.shut id)) :=
    (chain_turnsOf (.shut id) rfl resting).2
  cases before : (depot.pool id).closed with
  | true => exact (chain.keeps closed_lasts before).1
  | false =>
      obtain ⟨count, turns⟩ := turnsOf_shut before
      rw [turns] at chain
      cases chain with
      | cons setsOut chain =>
          cases chain with
          | cons empties later =>
              refine (later.keeps closed_lasts ?_).1
              have pools : (depot.emptiedBy id).pools = depot.pools.set id (depot.pool id).shut.1 :=
                rfl
              rw [pool_set_same pools inside, Pool.shut_books]

/-- What a pool that is closed has come to, whatever is asked of it next. -/
structure Settled (id : PoolId) (depot : Depot) : Prop where
  idle : (depot.pool id).idle.toList = []
  started : ∀ context,
    ((depot.start (.checkout id context)).phase? depot.tasks.length).any Phase.isOver = true
  polled : ∀ task context phase, depot.tasks[task]? = some ⟨.checkout id context, phase⟩ →
    phase.isDialing id = false →
    ((depot.poll task).phase? task).any Phase.isOver = true ∨
      ∃ handle due slot, phase = .closing id handle due (.rescan slot) ∧ depot.elapsed due = false
  shuts : depot.start (.shut id) = (depot.joined (.shut id) (.finished .completed)).record
    (.done depot.tasks.length .completed)
  drained : (depot.checkedOut id).Subperm (depot.cameBack id) → depot.dialing id = 0 →
    (depot.pool id).active = 0

theorem settled_of_watched (watched : Watched id depot) (closed : (depot.pool id).closed = true) :
    Settled id depot := by
  have idle := (watched.shuttered closed).idle
  refine ⟨idle, over_of_start watched closed, ?_, start_shut closed idle, ?_⟩
  · intro task context phase here quiet
    exact over_of_poll watched closed here quiet
  · intro settled quiet
    have few := active_le_idle watched.covered settled quiet
    rw [idle] at few
    exact Nat.le_zero.mp few

theorem calm_of_closed (move : Move id depot (some task) next) (admitting : Admitting id depot)
    {message : String}
    (here : next.tasks[task]? = some ⟨.checkout id context, .finished (.panicked message)⟩) :
    (depot.stage task).isDialing id = true := by
  obtain ⟨call, calls | ⟨slot, dials⟩, -⟩ := calm_of_move move admitting.suited admitting.custody
    admitting.admission here rfl rfl
  · obtain ⟨found, there, same⟩ := Option.map_eq_some_iff.mp calls
    obtain ⟨last, asks⟩ := request_stays move ⟨found.phase, there⟩
    rw [here, Option.some.injEq, Task.mk.injEq] at asks
    rcases (admitting.suited task found there).goes id context asks.1.symm with isOver | shows
    · rw [same] at isOver
      cases isOver
    · rw [same] at shows
      cases shows
  · rw [stage, dials]
    exact isDialing_own slot call

theorem not_panicked_of_short {count : Nat} {message : String}
    (ends : TurnedDown depot task id context phase (.finished (.panicked message)))
    (slack : Slack id count depot) (short : count < Gate.capacity) : False := by
  cases ends with
  | overflow gated handed full => exact not_overflows_of_slack slack short gated handed full

/-- In every run a pool that is closed stays closed. From the turn on that closes it nothing is idle
in it and nothing dialed for it, checkouts that were not dialing are turned down, what is put back
is closed, and shutting it again does nothing; with all handles back and no dial in flight, nothing
of it is active. Only a dialer makes a checkout panic, if what goes back to the pool was checked out
of it, or if the run is not so long that its gate could overflow. -/
theorem closed_is_terminal (id : PoolId) (actions : List Action) :
    (∀ turn ∈ ({} : Depot).turns actions,
      ((turn.before.pool id).closed = true → (turn.after.pool id).closed = true) ∧
        ((turn.after.pool id).closed = true → Sealed id turn)) ∧
      (((({} : Depot).run actions).pool id).closed = true →
        Settled id (({} : Depot).run actions)) ∧
      (({} : Depot).returnsOwn id actions = true ∨
          (({} : Depot).turns actions).length < Gate.capacity →
        ∀ turn ∈ ({} : Depot).turns actions, (turn.after.pool id).closed = true →
          ∀ task context message, turn.actor = some task →
            turn.after.tasks[task]? =
              some ⟨.checkout id context, .finished (.panicked message)⟩ →
            (turn.before.stage task).isDialing id = true) ∧
      (id < (({} : Depot).run actions).pools.length →
        (((({} : Depot).run actions).act (.shut id)).pool id).closed = true) := by
  obtain ⟨view, rests, chain⟩ := exists_chain_of_resting resting_empty actions
  obtain ⟨ended, all⟩ := chain.keeps Watched.keeps (watched_empty id)
  have seals (turn : Turn) (member : turn ∈ ({} : Depot).turns actions) :=
    sealed_of_move (chain.move_of_mem member) (all turn member).1
  refine ⟨fun turn member => ⟨closed_lasts (chain.move_of_mem member), seals turn member⟩,
    settled_of_watched ended, ?_, closed_of_shut rests⟩
  intro modest turn member closed task context message mine here
  rcases modest with own | short
  · have move := (chain_turns id actions own resting_empty).move_of_mem member
    rw [mine] at move
    exact calm_of_closed move ((admitting_turns own).2 turn member).1 here
  · have panics : turn.after.stage task = .finished (.panicked message) := by
      rw [stage, phase?_of_getElem? here]
      rfl
    apply Bool.of_not_eq_false
    intro quiet
    have ends := (seals turn member closed).ends task context mine ⟨_, here⟩ (by rw [panics]; rfl)
      quiet
    rw [panics] at ends
    have slack := (chain.slack (slack_empty id)).2 turn member
    rw [Nat.zero_add] at slack
    exact not_panicked_of_short ends slack short

def closedEarly : List Action :=
  [.makeDialer "dialer" (.counted { delay := some 1000 }),
   .makePool "pool" (some 0) "" { maxActive := 2, wait := true },
   .checkout 0 {}, .elapse 2000, .poll 0, .checkout 0 {}, .checkout 0 {}, .shut 0, .poll 2,
   .elapse 2000, .poll 1, .giveBack 0 0, .discard 0 0]

theorem closed_is_terminal_closedEarly :
    Settled 0 (({} : Depot).run closedEarly) ∧
      (({} : Depot).run closedEarly).phase? 2 = some (.finished (.refused (.closed "pool"))) ∧
      (({} : Depot).run closedEarly).begun = [0, 1] ∧
      ((({} : Depot).run closedEarly).pool 0).active = 0 := by
  have settled := (closed_is_terminal 0 closedEarly).2.1 (by decide)
  exact ⟨settled, by decide, by decide, settled.drained (by decide) (by decide)⟩

end HandlePool.Depot
