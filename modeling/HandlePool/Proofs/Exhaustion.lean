import HandlePool.Proofs.Ledger
import HandlePool.Proofs.Reuse

namespace HandlePool.Depot

variable {id view site : PoolId} {depot next : Depot} {task : TaskId} {request : Request}
  {phase phase' : Phase} {pool : Pool} {handle : HandleId} {actor : Option TaskId}
  {context : Context} {slot : Bool} {call : Call} {refusal : Refusal}

structure Exhausted (pool : Pool) (refusal : Refusal) : Prop where
  isOpen : pool.closed = false
  hurried : pool.limits.wait = false
  bounded : pool.limits.maxActive ≠ 0
  idle : pool.idle.toList = []
  full : pool.limits.maxActive.toNat ≤ pool.active
  reports : refusal = .exhausted pool.id pool.active pool.limits.maxActive.toNat

theorem exhausted_iff : Exhausted pool refusal ↔
    pool.idleList = [] ∧ pool.refusal? = some refusal ∧ refusal.retryable = true := by
  unfold Pool.refusal?
  constructor
  · rintro ⟨isOpen, hurried, bounded, idle, full, rfl⟩
    simp [isOpen, hurried, Limits.bounded, bounded, full, Pool.idleList, idle, Refusal.retryable]
  · rintro ⟨idle, refused, retryable⟩
    cases isOpen : pool.closed with
    | true =>
        rw [isOpen, if_pos rfl, Option.some.injEq] at refused
        rw [← refused] at retryable
        cases retryable
    | false =>
        rw [isOpen, if_neg (by simp)] at refused
        split at refused
        · rename_i exhausted
          simp only [Bool.and_eq_true, Bool.not_eq_true', decide_eq_true_eq, Limits.bounded,
            bne_iff_ne] at exhausted
          cases refused
          exact ⟨isOpen, exhausted.1.1, exhausted.1.2, idle, exhausted.2, rfl⟩
        · cases refused

theorem exhausted_of_effect (effect : Effect depot task request site phase phase' pool)
    (refused : phase' = .finished (.refused refusal)) (retryable : refusal.retryable = true) :
    Exhausted (depot.pool site) refusal := by
  have turned {context : Context} {asked : Refusal} (why : depot.TurnsAway site context asked) :
      asked.retryable = false := by
    rcases why with ⟨abort, -, rfl⟩ | ⟨-, rfl⟩
    · cases abort <;> rfl
    · rfl
  cases effect with
  | aside apart apart' begun plain served => exact absurd refused (served refusal)
  | turnedAway asks gated why =>
      cases refused
      rw [turned why] at retryable
      cases retryable
  | bounce asks gated isOpen left fired =>
      cases refused_of_overflowOr refused
      rename_i context gate abort
      cases abort <;> cases retryable
  | quit why =>
      cases refused_of_overflowOr refused
      rw [turned why] at retryable
      cases retryable
  | deny empty refuses =>
      cases refused_of_overflowOr refused
      exact exhausted_iff.mpr ⟨(Pool.takeNewest_eq_none _).mp empty, refuses, retryable⟩
  | unconfigured | refuse =>
      cases refused_of_overflowOr refused
      cases retryable
  | panic => cases refused_of_overflowOr refused
  | reject taken unusable goes => rcases goes with rfl | ⟨due, rfl⟩ <;> cases refused
  | giveBack asks goes =>
      rcases goes with ⟨-, rfl⟩ | ⟨-, rfl⟩ | ⟨oldest, due, -, rfl⟩ <;> cases refused
  | discard asks goes => rcases goes with ⟨-, rfl⟩ | rfl | ⟨due, rfl⟩ <;> cases refused
  | _ => cases refused

theorem exhausted_of_move {turn : Turn} (move : Move view turn.before (some task) turn.after)
    (suited : Suited turn.before) (called : CalledFor (.checkout id context) task turn.after)
    (refused : turn.after.stage task = .finished (.refused refusal))
    (retryable : refusal.retryable = true) : Exhausted (turn.before.pool id) refusal := by
  obtain ⟨phase, phase', pool, mine⟩ := checkoutTurn_of_move move suited called
  exact exhausted_of_effect mine.effect ((stage_after mine.becomes).symm.trans refused) retryable

theorem slotOverflows_of_ungated (ungated : pool.gate = none) : pool.slotOverflows = false := by
  rw [Pool.slotOverflows, ungated]
  exact Bool.and_false _

theorem stage_refused (here : depot.stage task = .scanning id slot)
    (ungated : (depot.pool id).gate = none) (refused : (depot.pool id).refusal? = some refusal) :
    (depot.reserve task id slot).stage task = .finished (.refused refusal) := by
  have begins : depot.stage task ≠ .asked := by rw [here]; simp
  have fits (mid : Depot) (same : mid.pool id = depot.pool id) :
      (slot && (mid.pool id).slotOverflows) = false := by
    rw [same, slotOverflows_of_ungated ungated, Bool.and_false]
  have failed (mid : Depot) (tasks : mid.tasks = depot.tasks) (same : mid.pool id = depot.pool id) :
      (mid.fail task id slot false (.refused refusal)).stage task =
        .finished (.refused refusal) := by
    rw [fail, fits mid same]
    exact stage_modify begins (by rw [tasks_finish, tasks_handBack, tasks]; rfl)
  unfold reserve
  simp only [refused]
  split
  · exact failed _ rfl rfl
  · exact failed _ rfl rfl

theorem prune_of_empty (nothing : pool.idleList = []) (isClosed : HandleId → Bool) :
    pool.prune isClosed = (pool, 0) := by
  have size : pool.idle.size = 0 := by rw [Pool.size_idle, nothing]; rfl
  rw [Pool.prune, size]
  rfl

theorem pool_checkout (there : id < depot.pools.length) (ungated : (depot.pool id).gate = none)
    (nothing : (depot.pool id).idleList = []) (context : Context) :
    ∃ next slot, depot.start (.checkout id context) = next.poll depot.tasks.length ∧
      next.stage depot.tasks.length = .scanning id slot ∧
      next.pool id = depot.pool id ∧ Untouched depot next := by
  obtain ⟨slot, scanning⟩ := stage_checkout (.free ungated)
  obtain ⟨request, pool, waited, grant, pools, untouched⟩ :=
    pruned_of_move (move_of_start id depot id context) (by rw [stage_length]; rfl) scanning
  refine ⟨_, slot, depot.start_eq _, scanning, ?_, untouched⟩
  rw [answer, pool_set_same pools there]
  rw [stage_length] at grant
  cases grant with
  | free => rw [Pool.recordWait, prune_of_empty nothing]
  | taken asks gated =>
      rw [ungated] at gated
      cases gated

theorem start_refused (there : id < depot.pools.length) (ungated : (depot.pool id).gate = none)
    (exhausted : Exhausted (depot.pool id) refusal) (context : Context) :
    (depot.start (.checkout id context)).stage depot.tasks.length =
      .finished (.refused refusal) := by
  obtain ⟨next, slot, started, scanning, same, -⟩ :=
    pool_checkout there ungated exhausted.idle context
  rw [← same] at ungated exhausted
  have nothing : (next.pool id).idleList = [] := exhausted.idle
  have refused := stage_refused scanning ungated (exhausted_iff.mp exhausted).2.1
  rw [← scan_of_nil nothing] at refused
  rw [started, poll_step (step?_scanning scanning),
    poll_of_stuck (step?_of_over (by rw [refused]; rfl))]
  exact refused

structure Freed (before : Pool) (kept : List HandleId) (after : Pool) : Prop where
  fixed : Fixed before after
  closed : after.closed = before.closed
  idle : after.idleList = kept
  active : after.active + 1 = before.active + kept.length

theorem freed_forget (nothing : pool.idleList = []) (taken : 1 ≤ pool.active) :
    Freed pool [] (pool.forget 1).releaseSlot := by
  rw [Pool.releaseSlot_eq]
  exact ⟨⟨rfl, rfl, Option.isSome_map⟩, rfl, nothing, Nat.sub_add_cancel taken⟩

theorem freed_handBack (nothing : pool.idleList = []) (taken : 1 ≤ pool.active) (slot : Bool) :
    Freed pool [] (pool.handBack slot true) := by
  rw [Pool.handBack_eq]
  exact ⟨⟨rfl, rfl, Option.isSome_map⟩, rfl, nothing, Nat.sub_add_cancel taken⟩

theorem freed_shelve (isOpen : pool.closed = false) (nothing : pool.idleList = [])
    (taken : 1 ≤ pool.active) (handle : HandleId) :
    Freed pool ([handle].take pool.limits.maxIdle.toNat) (pool.shelve handle).1.releaseSlot := by
  obtain ⟨idle, evicted⟩ := Pool.shelve_of_slim isOpen (by rw [nothing]; exact Nat.zero_le _) handle
  have books := (pool.shelve_books handle).2
  rw [nothing] at idle evicted
  have parts := congrArg List.length (List.take_append_drop pool.limits.maxIdle.toNat [handle])
  rw [List.length_append, ← evicted] at parts
  constructor
  · rw [Pool.releaseSlot_eq, books]
    exact ⟨rfl, rfl, Option.isSome_map⟩
  · rw [Pool.releaseSlot_eq, books]
    rfl
  · rw [idleList_releaseSlot]
    exact idle
  · have active : (pool.shelve handle).1.releaseSlot.active =
        pool.active - (pool.evicted handle).toList.length := by
      rw [Pool.releaseSlot_eq, books]
      rfl
    rw [List.length_singleton] at parts
    omega

/-- What gives a place back to the pool, and what is idle then if nothing was before. -/
inductive Frees (id : PoolId) (depot : Depot) : Action → List HandleId → Prop where
  | keeps {place holding} (there : depot.held[place]? = some holding)
      (own : holding.pool = some id) :
      Frees id depot (.giveBack id place)
        ([holding.handle].take (depot.pool id).limits.maxIdle.toNat)
  | discards {place holding} (there : depot.held[place]? = some holding)
      (own : holding.pool = some id) : Frees id depot (.discard id place) []
  | fails {caller : TaskId} {owns : Bool} {dial : Call}
      (dials : depot.stage caller = .dialing id owns dial) (due : depot.elapsed dial.due = true)
      (fails : ∀ handle, (depot.endDial dial).1 ≠ .connected handle) :
      Frees id depot (.poll caller) []
  | drops {caller : TaskId} {owns : Bool} {dial : Call}
      (dials : depot.stage caller = .dialing id owns dial) : Frees id depot (.drop caller) []

theorem freed_of_dialing (effect : Effect depot task request id (.dialing id slot call) phase' pool)
    (vain : phase' = .dropped ∨ ∀ handle, (depot.endDial call).1 ≠ .connected handle)
    (nothing : (depot.pool id).idleList = []) (taken : 1 ≤ (depot.pool id).active) :
    Freed (depot.pool id) [] pool ∧ phase'.isOver = true := by
  cases effect with
  | aside apart => cases apart
  | pass grant => cases grant
  | connect answer =>
      rcases vain with dropped | fails
      · cases dropped
      · exact absurd answer (fails _)
  | refuse | panic | letGo => exact ⟨freed_handBack nothing taken slot, rfl⟩
  | abandon held => rcases held with held | ⟨handle, due, held⟩ <;> cases held

theorem freed_of_giveBack
    (effect : Effect depot task (.giveBack id handle) id .asked phase' pool)
    (isOpen : (depot.pool id).closed = false) (ungated : (depot.pool id).gate = none)
    (nothing : (depot.pool id).idleList = []) (taken : 1 ≤ (depot.pool id).active) :
    Freed (depot.pool id) ([handle].take (depot.pool id).limits.maxIdle.toNat) pool ∧
      GoesWell phase' ∧
      ([handle].take (depot.pool id).limits.maxIdle.toNat ≠ [] →
        phase' = .finished .completed) := by
  have fits := slotOverflows_of_ungated ungated
  obtain ⟨-, evicted⟩ :=
    Pool.shelve_of_slim isOpen (by rw [nothing]; exact Nat.zero_le _) handle
  rw [nothing] at evicted
  cases effect with
  | giveBack asks goes =>
      cases asks
      refine ⟨freed_shelve isOpen nothing taken handle, ?_⟩
      rcases goes with ⟨overflow, -⟩ | ⟨-, rfl⟩ | ⟨oldest, due, given, rfl⟩
      · rw [fits] at overflow
        cases overflow
      · exact ⟨Or.inr (Or.inl rfl), fun _ => rfl⟩
      · refine ⟨Or.inl ⟨id, oldest, due, rfl⟩, fun kept => ?_⟩
        have parts := congrArg List.length
          (List.take_append_drop (depot.pool id).limits.maxIdle.toNat [handle])
        rw [← evicted, given, List.length_append] at parts
        exact absurd (List.eq_nil_of_length_eq_zero (Nat.succ.inj parts)) kept
  | aside apart apart' begun plain => cases plain rfl
  | pass grant => cases grant with
    | free asks | taken asks => cases asks
  | abandon held => rcases held with held | ⟨other, due, held⟩ <;> cases held
  | turnedAway asks | queue asks | bounce asks | discard asks => cases asks

theorem freed_of_discard
    (effect : Effect depot task (.discard id handle) id .asked phase' pool)
    (ungated : (depot.pool id).gate = none) (nothing : (depot.pool id).idleList = [])
    (taken : 1 ≤ (depot.pool id).active) : Freed (depot.pool id) [] pool ∧ GoesWell phase' := by
  have fits := slotOverflows_of_ungated ungated
  cases effect with
  | discard asks goes =>
      refine ⟨freed_forget nothing taken, ?_⟩
      rcases goes with ⟨overflow, -⟩ | rfl | ⟨due, rfl⟩
      · rw [fits] at overflow
        cases overflow
      · exact Or.inr (Or.inl rfl)
      · exact Or.inl ⟨id, _, due, rfl⟩
  | aside apart apart' begun plain => cases plain rfl
  | pass grant => cases grant with
    | free asks | taken asks => cases asks
  | abandon held => rcases held with held | ⟨other, due, held⟩ <;> cases held
  | turnedAway asks | queue asks | bounce asks | giveBack asks => cases asks

theorem pools_poll (goes : GoesWell (depot.stage task)) :
    (depot.poll task).pools = depot.pools := by
  rcases goes with ⟨site, handle, due, closes⟩ | isOver
  · obtain ⟨request, step⟩ := step?_of_stage closes (by simp)
    have booked := booked_endPoolClose depot site handle site
    have pools := booked.pools
    rw [set_pool] at pools
    rw [stepFrom] at step
    split at step
    · have isOver : ((depot.endPoolClose site handle).resume task site .conclude).stage task =
          .finished .completed :=
        stage_modify (by rw [closes]; simp) (by rw [resume, tasks_finish, booked.tasks])
      rw [poll_step step, poll_of_stuck (step?_of_over (by rw [isOver]; rfl))]
      exact pools
    · rw [poll_of_stuck step]
  · rw [poll_of_stuck (step?_of_over (by rcases isOver with ended | ended <;> rw [ended] <;> rfl))]

theorem answer_of_surrender {place : Nat} {holding : Holding} (called : HandleId → Request)
    (there : depot.held[place]? = some holding)
    (calls : (called holding.handle).pool? = some id) :
    ∃ (first : Depot) (phase : Phase) (pool : Pool),
      depot.surrender place called = first.poll depot.tasks.length ∧
      Effect depot depot.tasks.length (called holding.handle) id .asked phase pool ∧
      first.stage depot.tasks.length = phase ∧ first.pools = depot.pools.set id pool ∧
      (phase = .finished .completed → first.handles = depot.handles) := by
  have moves := moves_answer (depot.enroll (depot.held.eraseIdx place) (called holding.handle))
    depot.tasks.length (called holding.handle)
  have acts := acts_answer (depot.enroll (depot.held.eraseIdx place) (called holding.handle))
    depot.tasks.length (called holding.handle)
  obtain ⟨phase, site, pool, tasks, gained, pools, effect⟩ := moves
  have here : site = id := site_of_effect effect (Or.inl ⟨rfl, calls⟩)
  subst here
  refine ⟨_, phase, pool, ?_, effect_of_enroll effect, stage_enrolled tasks, pools, ?_⟩
  · rw [surrender, there]
    exact start_eq { depot with held := depot.held.eraseIdx place } (called holding.handle)
  · rintro rfl
    obtain ⟨phase', tasks', deed⟩ := acts
    have same : phase' = .finished .completed :=
      (stage_enrolled tasks').symm.trans (stage_enrolled tasks)
    subst same
    exact (untouched_of_deed deed rfl rfl rfl rfl).handles

structure Taken (id : PoolId) (depot : Depot) : Prop where
  there : id < depot.pools.length
  isOpen : (depot.pool id).closed = false
  ungated : (depot.pool id).gate = none
  nothing : (depot.pool id).idleList = []
  taken : 1 ≤ (depot.pool id).active

theorem freed_of_moves (request : Request) (known : Taken id depot)
    (moves : depot.Moves task request (.dialing id slot call) next)
    (here : depot.stage task = .dialing id slot call)
    (vain : next.stage task = .dropped ∨ ∀ handle, (depot.endDial call).1 ≠ .connected handle) :
    id < next.pools.length ∧ Freed (depot.pool id) [] (next.pool id) ∧
      (next.stage task).isOver = true := by
  obtain ⟨phase', site, pool, tasks, gained, pools, effect⟩ := moves
  have site_eq : site = id := site_of_effect effect (Or.inr rfl)
  subst site_eq
  rw [stage_modify (by rw [here]; simp) tasks] at vain ⊢
  obtain ⟨freed, isOver⟩ := freed_of_dialing effect vain known.nothing known.taken
  rw [pool_set_same pools known.there, pools, List.length_set]
  exact ⟨known.there, freed, isOver⟩

theorem moves_of_drop (here : depot.stage task = phase) (begun : phase ≠ .asked)
    (unfinished : phase.isOver = false) :
    ∃ request, depot.Moves task request phase (depot.drop task) ∧
      (depot.drop task).stage task = .dropped := by
  obtain ⟨found, there, same⟩ := exists_of_stage (by rw [here]; exact begun)
  rw [here] at same
  have dropped : depot.drop task = (depot.undo task phase).enter task .dropped := by
    rw [drop, phase?_of_getElem? there, same]
    dsimp only
    rw [unfinished]
    rfl
  rw [dropped]
  exact ⟨found.request, moves_drop depot task found.request begun unfinished,
    stage_modify (by rw [here]; exact begun) (by rw [tasks_enter, tasks_undo])⟩

theorem freed_of_frees {action : Action} {kept : List HandleId} (known : Taken id depot)
    (frees : Frees id depot action kept) :
    id < (depot.act action).pools.length ∧
      Freed (depot.pool id) kept ((depot.act action).pool id) ∧
      (kept ≠ [] → (depot.act action).handles = depot.handles) := by
  have booked {first : Depot} {pool : Pool} {kept : List HandleId}
      (pools : first.pools = depot.pools.set id pool) (freed : Freed (depot.pool id) kept pool) :
      id < first.pools.length ∧ Freed (depot.pool id) kept (first.pool id) := by
    rw [pool_set_same pools known.there, pools, List.length_set]
    exact ⟨known.there, freed⟩
  cases frees with
  | keeps there own =>
      rename_i place holding
      obtain ⟨first, phase, pool, started, effect, here, pools, handles⟩ :=
        answer_of_surrender (.giveBack id) there rfl
      obtain ⟨freed, goes, ends⟩ :=
        freed_of_giveBack effect known.isOpen known.ungated known.nothing known.taken
      rw [← here] at goes
      obtain ⟨there', freed'⟩ := booked ((pools_poll goes).trans pools) freed
      rw [act, started]
      refine ⟨there', freed', fun some_ => ?_⟩
      have isOver := here.trans (ends some_)
      rw [poll_of_stuck (step?_of_over (by rw [isOver]; rfl)), handles (ends some_)]
  | discards there own =>
      rename_i place holding
      obtain ⟨first, phase, pool, started, effect, here, pools, -⟩ :=
        answer_of_surrender (.discard id) there rfl
      obtain ⟨freed, goes⟩ := freed_of_discard effect known.ungated known.nothing known.taken
      rw [← here] at goes
      obtain ⟨there', freed'⟩ := booked ((pools_poll goes).trans pools) freed
      rw [act, started]
      exact ⟨there', freed', by simp⟩
  | fails dials due fails =>
      rename_i caller owns dial
      obtain ⟨request, step⟩ := step?_of_stage dials (by simp)
      rw [stepFrom, if_pos due] at step
      obtain ⟨there', freed, isOver⟩ :=
        freed_of_moves request known moves_endCheckoutDial dials (Or.inr fails)
      rw [act, poll_step step, poll_of_stuck (step?_of_over isOver)]
      exact ⟨there', freed, by simp⟩
  | drops dials =>
      rename_i caller owns dial
      obtain ⟨request, moves, out⟩ := moves_of_drop dials (by simp) rfl
      obtain ⟨there', freed, -⟩ := freed_of_moves request known moves dials (Or.inl out)
      exact ⟨there', freed, by simp⟩

structure Vacant (id : PoolId) (dialer : DialerId) (depot : Depot) : Prop where
  nothing : (depot.pool id).idleList = []
  allowed : (depot.pool id).refusal? = none
  serves : (depot.pool id).dialer = some dialer

variable {dialer : DialerId}

theorem Vacant.same (vacant : Vacant id dialer depot) (same : next.pool id = depot.pool id) :
    Vacant id dialer next := by
  obtain ⟨nothing, allowed, serves⟩ := vacant
  rw [← same] at nothing allowed serves
  exact ⟨nothing, allowed, serves⟩

theorem over_of_dialing
    (effect : Effect depot task request site (.dialing id slot call) phase' pool) :
    phase'.isOver = true := by
  cases effect with
  | aside apart => cases apart
  | pass grant => cases grant
  | connect | refuse | panic | letGo => rfl
  | abandon held => rcases held with held | ⟨handle, due, held⟩ <;> cases held

theorem called_endCheckoutDial (here : depot.stage task = .dialing id slot call) :
    (depot.endCheckoutDial task id slot call).called = depot.called ∧
      ((depot.endCheckoutDial task id slot call).stage task).isOver = true := by
  have begun : depot.stage task ≠ .asked := by rw [here]; simp
  have moves : depot.Moves task (.shut id) (.dialing id slot call)
    (depot.endCheckoutDial task id slot call) := moves_endCheckoutDial
  have acts : depot.Acts task (.shut id) (.dialing id slot call)
    (depot.endCheckoutDial task id slot call) := acts_endCheckoutDial
  obtain ⟨phase', site, pool, tasks, gained, pools, effect⟩ := moves
  obtain ⟨phase'', tasks', deed⟩ := acts
  have isOver := over_of_dialing effect
  rw [← stage_modify begun tasks] at isOver
  refine ⟨called_of_deed deed (call?_of_isOver ?_), isOver⟩
  rw [← stage_modify begun tasks']
  exact isOver

theorem poll_dials (vacant : Vacant id dialer depot)
    (here : depot.stage task = .scanning id slot) :
    (depot.poll task).called = depot.called ++ [dialer] := by
  obtain ⟨called, call, dialing⟩ := reserve_dials here vacant.serves vacant.allowed
  rw [poll_step (step?_scanning here), scan_of_nil vacant.nothing, ← called]
  obtain ⟨request, step⟩ := step?_of_stage dialing (by simp)
  rw [stepFrom] at step
  split at step
  · obtain ⟨same, isOver⟩ := called_endCheckoutDial dialing
    rw [poll_step step, poll_of_stuck (step?_of_over isOver), same]
  · rw [poll_of_stuck step]

theorem called_rescanned (depot : Depot) (id : PoolId) (handle : HandleId) (task : TaskId)
    (slot : Bool) :
    ((depot.endPoolClose id handle).enter task (.scanning id slot)).called = depot.called := by
  refine (called_of_untouched (untouched_endPoolClose depot id handle)).trans ?_
  exact List.filterMap_append.trans (List.append_nil _)

theorem poll_dials_closed {due : Option Nat} (vacant : Vacant id dialer depot)
    (here : depot.stage task = .closing id handle due (.rescan slot))
    (elapsed : depot.elapsed due = true) :
    (depot.poll task).called = depot.called ++ [dialer] := by
  have pools := (booked_endPoolClose depot id handle id).pools
  rw [set_pool] at pools
  have step := step?_rescanning here
  rw [if_pos elapsed] at step
  rw [poll_step step, poll_dials (vacant.same (congrArg (·.getD id default) pools))
    (stage_rescanned (by rw [here]; simp)), called_rescanned]

/-- A checkout that is called now calls the dialer, at once or when the handle is closed that it
closes first. -/
inductive GetsToDial (id : PoolId) (dialer : DialerId) (context : Context) (depot : Depot) :
    Prop where
  | atOnce (calls : (depot.start (.checkout id context)).called = depot.called ++ [dialer])
  | afterClose {handle : HandleId} {due : Option Nat} {owns : Bool}
      (closes : (depot.start (.checkout id context)).stage depot.tasks.length =
        .closing id handle due (.rescan owns))
      (silent : (depot.start (.checkout id context)).called = depot.called)
      (calls : ∀ time,
        ((depot.start (.checkout id context)).act (.elapse time)).elapsed due = true →
          ((depot.start (.checkout id context)).run
              [.elapse time, .poll depot.tasks.length]).called = depot.called ++ [dialer])

theorem vacant_of_scan {gone : List HandleId} (scan : Scan id depot next gone)
    (isOpen : (depot.pool id).closed = false) (serves : (depot.pool id).dialer = some dialer)
    (room : (depot.pool id).active <
      (depot.pool id).limits.maxActive.toNat + (depot.pool id).idleList.length)
    (nothing : (next.pool id).idleList = []) : Vacant id dialer next := by
  have active := scan.active
  rw [nothing, List.length_nil, Nat.add_zero] at active
  have few : ¬ (depot.pool id).limits.maxActive.toNat ≤ (next.pool id).active := by omega
  refine ⟨nothing, ?_, scan.fixed.dialer.trans serves⟩
  rw [Pool.refusal?, scan.closed, isOpen, scan.fixed.limits]
  simp [few]

theorem dials_of_scan {gone : List HandleId} (scan : Scan id depot next gone)
    (vacant : Vacant id dialer next)
    (started : depot.start (.checkout id context) = next.poll depot.tasks.length)
    (scans : (next.stage depot.tasks.length).Scans id slot) :
    GetsToDial id dialer context depot := by
  rcases scans with scanning | ⟨handle, due, closing⟩
  · apply GetsToDial.atOnce
    rw [started, poll_dials vacant scanning, scan.called]
  · cases elapsed : next.elapsed due with
    | true =>
        apply GetsToDial.atOnce
        rw [started, poll_dials_closed vacant closing elapsed, scan.called]
    | false =>
        have step := step?_rescanning closing
        rw [elapsed, if_neg Bool.false_ne_true] at step
        rw [poll_of_stuck step] at started
        refine .afterClose (by rw [started]; exact closing) (by rw [started]; exact scan.called) ?_
        intro time elapsed
        rw [started] at elapsed ⊢
        have waited : (next.act (.elapse time)).stage depot.tasks.length =
            .closing id handle due (.rescan slot) := closing
        rw [← scan.called]
        exact poll_dials_closed (vacant.same rfl) waited elapsed

theorem start_dials (there : id < depot.pools.length) (ungated : (depot.pool id).gate = none)
    (isOpen : (depot.pool id).closed = false) (serves : (depot.pool id).dialer = some dialer)
    (room : (depot.pool id).active <
      (depot.pool id).limits.maxActive.toNat + (depot.pool id).idleList.length)
    (enough : (depot.pool id).idleList.length ≤ (depot.pool id).active)
    (few : (depot.pool id).idleList.length ≤ 1)
    (unusable : ∀ handle ∈ (depot.pool id).idleList, (depot.handle handle).usable = false)
    (context : Context) : GetsToDial id dialer context depot := by
  obtain ⟨slot, scanning⟩ := stage_checkout (.free ungated)
  obtain ⟨request, pool, waited, grant, pools, untouched⟩ :=
    pruned_of_move (move_of_start id depot id context) (by rw [stage_length]; rfl) scanning
  have scan := scan_of_pruned there grant pools untouched enough
  have started := depot.start_eq (.checkout id context)
  rw [answer] at started
  cases looks_of_scan scan.there scanning with
  | nothing empty =>
      exact dials_of_scan scan (vacant_of_scan scan isOpen serves room empty) started
        (Or.inl scanning)
  | takes entries usable takes =>
      rename_i newest older
      have idles : newest ∈ newest :: older := List.mem_cons_self
      rw [← entries] at idles
      have dead := unusable newest (scan.mem_of_idle idles)
      rw [← scan.same newest idles, usable] at dead
      cases dead
  | sheds entries unusable' sheds scans =>
      rename_i newest older
      have scan' := scan.sheds entries unusable' sheds
      rw [poll_step (step?_scanning scanning)] at started
      refine dials_of_scan scan' (vacant_of_scan scan' isOpen serves room ?_) started scans
      have fewer := (List.rdropWhile_prefix depot.isClosed (depot.pool id).idleList).length_le
      rw [scan.kept, entries, List.nil_append, List.length_cons] at fewer
      rw [sheds.idle]
      exact List.eq_nil_of_length_eq_zero (by omega)

def Undialed (id : PoolId) (depot : Depot) : Prop :=
  (depot.pool id).dialer = none → (depot.pool id).created = 0

theorem Undialed.keeps (move : Move view depot actor next)
    (kept : Calling depot ∧ Undialed id depot) : Calling next ∧ Undialed id next := by
  obtain ⟨calling, undialed⟩ := kept
  refine ⟨calling.keeps move, fun missing => ?_⟩
  have before : (depot.pool id).dialer = none := by
    cases there : (depot.pool id).dialer with
    | none => rfl
    | some dialer =>
        rw [dialer_lasts move there] at missing
        cases missing
  rw [created_of_move calling move, undialed before]
  cases actor with
  | none => rfl
  | some task =>
      cases dials : (depot.stage task).isDialing id with
      | false => simp [Turn.dialsFor, dials]
      | true =>
          obtain ⟨slot, call, dialing⟩ := isDialing_eq_true dials
          have begun : depot.stage task ≠ .asked := by rw [dialing]; simp
          obtain ⟨found, here, same⟩ := exists_of_stage begun
          have serves := calling.pools task id slot call
            (by rw [phase?_of_getElem? here, same, dialing])
          rw [before] at serves
          cases serves

theorem dialing_eq_zero (calling : Calling depot) (missing : (depot.pool id).dialer = none) :
    depot.dialing id = 0 := by
  apply List.countP_eq_zero.mpr
  intro found member dials
  obtain ⟨task, here⟩ := exists_phase? member
  obtain ⟨slot, call, dialing⟩ := isDialing_eq_true dials
  rw [dialing] at here
  rw [calling.pools task id slot call here] at missing
  cases missing

theorem exists_dialer (calling : Calling depot) (undialed : Undialed id depot)
    (balanced : Balanced id depot) (taken : 1 ≤ (depot.pool id).active) :
    ∃ dialer, (depot.pool id).dialer = some dialer := by
  cases there : (depot.pool id).dialer with
  | some dialer => exact ⟨dialer, rfl⟩
  | none =>
      have room := balanced.room
      rw [undialed there, dialing_eq_zero calling there] at room
      omega

/-- What the next checkout comes to once a place has been given back: it gets the handle that came
back, if that can be used, and otherwise it gets to dial. -/
structure Recovers (id : PoolId) (context : Context) (depot after : Depot) (kept : List HandleId) :
    Prop where
  reuses : ∀ handle, kept = [handle] → (depot.handle handle).usable = true →
    (after.start (.checkout id context)).stage after.tasks.length =
      .finished (.checkedOut id handle)
  dials : (∀ handle ∈ kept, (depot.handle handle).usable = false) →
    ∃ dialer, (depot.pool id).dialer = some dialer ∧ GetsToDial id dialer context after

theorem length_of_frees {action : Action} {kept : List HandleId}
    (frees : Frees id depot action kept) : kept.length ≤ 1 := by
  cases frees with
  | keeps there own =>
      rename_i place holding
      exact (List.take_prefix _ [holding.handle]).length_le
  | discards | fails | drops => exact Nat.zero_le _

theorem recovers_of_frees {action : Action} {kept : List HandleId} (known : Taken id depot)
    (exact_ : (depot.pool id).active = (depot.pool id).limits.maxActive.toNat)
    (serves : (depot.pool id).dialer = some dialer) (frees : Frees id depot action kept)
    (context : Context) : Recovers id context depot (depot.act action) kept := by
  obtain ⟨there, freed, handles⟩ := freed_of_frees known frees
  have ungated : ((depot.act action).pool id).gate = none := by
    have gated := freed.fixed.gated
    rw [known.ungated] at gated
    exact Option.not_isSome_iff_eq_none.mp (by rw [gated]; simp)
  have alike (some_ : kept ≠ []) (handle : HandleId) :
      (depot.act action).handle handle = depot.handle handle := by
    rw [Depot.handle, handles some_, Depot.handle]
  have active := freed.active
  have taken := known.taken
  have few := length_of_frees frees
  constructor
  · rintro handle rfl usable
    rw [← alike (by simp)] at usable
    exact start_takes there (.free ungated) freed.idle usable
  · intro unusable
    refine ⟨dialer, serves, ?_⟩
    rw [← freed.idle] at active few
    refine start_dials there ungated (freed.closed.trans known.isOpen)
      (freed.fixed.dialer.trans serves) ?_ ?_ few ?_ context
    · rw [freed.fixed.limits]
      omega
    · omega
    · intro handle idles
      rw [freed.idle] at idles
      rw [alike (List.ne_nil_of_mem idles)]
      exact unusable handle idles

theorem taken_of_exhausted (admitting : Admitting id depot)
    (exhausted : Exhausted (depot.pool id) refusal) : Taken id depot := by
  have bounded : (depot.pool id).limits.maxActive.toNat ≠ 0 := by
    intro zero
    exact exhausted.bounded (UInt64.toNat_inj.mp zero)
  constructor
  · apply Nat.lt_of_not_le
    intro outside
    have unbounded := exhausted.bounded
    rw [depot.pool_of_length_le outside] at unbounded
    exact unbounded rfl
  · exact exhausted.isOpen
  · have gated := admitting.admission.gated
    rw [Limits.boundedWait, exhausted.hurried] at gated
    exact Option.not_isSome_iff_eq_none.mp (by rw [gated]; simp)
  · exact exhausted.idle
  · exact Nat.le_trans (Nat.pos_of_ne_zero bounded) exhausted.full

theorem active_of_exhausted (bounded : Bounded id depot)
    (exhausted : Exhausted (depot.pool id) refusal) :
    (depot.pool id).active = (depot.pool id).limits.maxActive.toNat :=
  Nat.le_antisymm (bounded (bne_iff_ne.mpr exhausted.bounded)) exhausted.full

/-- In every run a checkout is refused for want of room only if the pool never makes checkouts wait,
bounds its handles, is open, has nothing idle and no place left, and the refusal says so. Where what
goes back to the pool was checked out of it, all its places are then taken by handles that are away
or being dialed, each checkout that looks at the idle handles or is called is refused, and the next
one after a place was given back is not. -/
theorem refused_when_exhausted (id : PoolId) (actions : List Action) :
    (∀ turn ∈ ({} : Depot).turns actions, ∀ task context refusal, turn.actor = some task →
      CalledFor (.checkout id context) task turn.after →
      turn.after.stage task = .finished (.refused refusal) → refusal.retryable = true →
        Exhausted (turn.before.pool id) refusal) ∧
    (({} : Depot).returnsOwn id actions = true →
      (∀ turn ∈ ({} : Depot).turns actions, ∀ refusal,
        Exhausted (turn.before.pool id) refusal →
          (turn.before.pool id).active = (turn.before.pool id).limits.maxActive.toNat ∧
          (turn.before.away id).length + turn.before.dialing id =
            (turn.before.pool id).limits.maxActive.toNat ∧
          ∀ task slot, turn.actor = some task → turn.before.stage task = .scanning id slot →
            turn.after.stage task ≠ .dropped →
              turn.after.stage task = .finished (.refused refusal)) ∧
      ∀ refusal, Exhausted ((({} : Depot).run actions).pool id) refusal → ∀ context,
        ((({} : Depot).run actions).start (.checkout id context)).stage
            (({} : Depot).run actions).tasks.length = .finished (.refused refusal) ∧
        ∀ action kept, Frees id (({} : Depot).run actions) action kept →
          Recovers id context (({} : Depot).run actions)
            ((({} : Depot).run actions).act action) kept) := by
  constructor
  · obtain ⟨view, chain⟩ := exists_chain actions
    intro turn member task context refusal mine called refused retryable
    have move := chain.move_of_mem member
    rw [mine] at move
    exact exhausted_of_move move ((chain.keeps suited_of_move suited_empty).2 turn member).1 called
      refused retryable
  · intro own
    have chain := chain_turns id actions own resting_empty
    obtain ⟨last, turns⟩ := bounded_turns own
    constructor
    · intro turn member refusal exhausted
      obtain ⟨⟨admitting, balanced, bounded⟩, -⟩ := turns turn member
      have known := taken_of_exhausted admitting exhausted
      have active := active_of_exhausted bounded exhausted
      have conserved := conserved_of_balanced admitting.custody balanced
      have size : (turn.before.pool id).idle.size = 0 := by
        rw [Pool.size_idle, known.nothing]
        rfl
      refine ⟨active, by rw [Conserved, active, size] at conserved; omega, ?_⟩
      intro task slot mine scanning kept
      have move := chain.move_of_mem member
      rw [mine] at move
      have step := step_of_move move (begun_of_scans (Or.inl scanning)) kept
      rw [step?_scanning scanning, Option.some.injEq, scan_of_nil known.nothing] at step
      rw [← step]
      exact stage_refused scanning known.ungated (exhausted_iff.mp exhausted).2.1
    · intro refusal exhausted context
      obtain ⟨admitting, balanced, bounded⟩ := last
      have known := taken_of_exhausted admitting exhausted
      refine ⟨start_refused known.there known.ungated exhausted context, ?_⟩
      intro action kept frees
      obtain ⟨dialer, serves⟩ := exists_dialer (chain.keeps Calling.keeps calling_empty).1
        (chain.keeps Undialed.keeps ⟨calling_empty, fun _ => rfl⟩).1.2 balanced known.taken
      exact recovers_of_frees known (active_of_exhausted bounded exhausted) serves frees
        context

def exhausted : List Action :=
  [.makeDialer "dialer" (.counted {}), .makePool "pool" (some 0) "" { maxActive := 1 },
   .checkout 0 {}, .checkout 0 {}]

theorem refused_when_exhausted_once :
    Exhausted ((({} : Depot).run exhausted).pool 0) (.exhausted "pool" 1 1) ∧
      (({} : Depot).run exhausted).stage 1 = .finished (.refused (.exhausted "pool" 1 1)) ∧
      ∃ kept, Frees 0 (({} : Depot).run exhausted) (.giveBack 0 0) kept ∧ kept = [0] ∧
        Recovers 0 {} (({} : Depot).run exhausted)
          ((({} : Depot).run exhausted).act (.giveBack 0 0)) kept := by
  have full : Exhausted ((({} : Depot).run exhausted).pool 0) (.exhausted "pool" 1 1) :=
    ⟨by decide, by decide, by decide, by decide, by decide, by decide⟩
  have there : (({} : Depot).run exhausted).held[0]? = some ⟨0, 0, some 0⟩ := by decide
  have frees : Frees 0 (({} : Depot).run exhausted) (.giveBack 0 0) _ := .keeps there rfl
  exact ⟨full, by decide, _, frees, by decide,
    (((refused_when_exhausted 0 exhausted).2 (by decide)).2 _ full {}).2 _ _ frees⟩

end HandlePool.Depot
