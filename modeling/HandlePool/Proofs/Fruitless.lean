import HandlePool.Proofs.Trace

namespace HandlePool.Depot

variable {id : PoolId} {depot next last : Depot} {task : TaskId} {context : Context}
  {phase phase' final : Phase} {pool : Pool} {turns : List Turn} {turn ending : Turn}

def poolChange (id : PoolId) (figure : Pool → Nat) (task : TaskId) (turns : List Turn) : Int :=
  ownChange (fun depot => figure (depot.pool id)) task turns

def booked : List (Pool → Nat) :=
  [Pool.created, (·.idle.size), Pool.active, Pool.destroyed, Pool.slotCount, Pool.waitCount,
    Pool.waitTime]

def EndsAtGate (id : PoolId) (task : TaskId) (ending : Turn) : Prop :=
  ∀ phase, ending.before.phase? task = some phase →
    ∃ context since, phase = .queued id context since

/-- What a checkout leaves behind that ended without a handle: the idle handles that it gave up were
dead, as many as `active` fell by and `destroyed` rose by. It keeps no slot, and what it put on
record is the wait of one that was let past the gate after it had queued. One that ended at the gate
changed nothing at all. -/
structure NoTrace (id : PoolId) (task : TaskId) (final : Phase) (turns : List Turn)
    (ending : Turn) : Prop where
  books : ∃ removed : Nat,
    poolChange id Pool.created task turns = 0 ∧
      poolChange id (·.idle.size) task turns = -removed ∧
      poolChange id Pool.active task turns = -removed ∧
      poolChange id Pool.destroyed task turns = removed
  removes : ∀ turn ∈ ownTurns task turns,
    RemovesDead turn.before (turn.before.pool id) (turn.after.pool id)
  others : ∀ turn ∈ ownTurns task turns,
    (turn.after.pool id).closed = (turn.before.pool id).closed ∧
      ∀ other, other ≠ id → turn.after.pool other = turn.before.pool other
  slots : (ending.after.pool id).closed = false → poolChange id Pool.slotCount task turns = 0
  waits : poolChange id Pool.waitCount task turns ≠ 0 ∨ poolChange id Pool.waitTime task turns ≠ 0 →
    ∃ turn ∈ ownTurns task turns,
      (∃ context since, turn.before.phase? task = some (.queued id context since)) ∧
        (turn.after.phase? task).any (Phase.isInside id) = true
  gate : EndsAtGate id task ending → ∀ figure ∈ booked, poolChange id figure task turns = 0
  aborts : ∀ refusal, final = .finished (.refused refusal) → refusal.isAbort = true →
    EndsAtGate id task ending

theorem booked_changeGate {change : Gate → Gate}
    (kept : ∀ gate, pool.gate = some gate → (change gate).slots = gate.slots) :
    ∀ figure ∈ booked, figure (pool.changeGate change) = figure pool := by
  have slots : (pool.changeGate change).slotCount = pool.slotCount := by
    unfold Pool.slotCount
    rw [Pool.gate_changeGate]
    cases gated : pool.gate with
    | none => rfl
    | some gate => exact kept gate gated
  intro figure member
  simp only [booked, List.mem_cons, List.not_mem_nil, or_false] at member
  rcases member with rfl | rfl | rfl | rfl | rfl | rfl | rfl
  · rfl
  · rfl
  · rfl
  · rfl
  · exact slots
  · rfl
  · rfl

theorem booked_of_turn (mine : CheckoutTurn id context task turn phase phase' pool)
    (before : phase.isInside id = false) (after : phase'.isInside id = false) :
    ∀ figure ∈ booked, figure (turn.after.pool id) = figure (turn.before.pool id) := by
  by_cases inside : id < turn.before.pools.length
  · obtain ⟨change, same, kept⟩ := gate_of_effect mine.effect mine.uses before after
    rw [pool_set_same mine.pools inside, same]
    exact booked_changeGate kept
  · have outside := Nat.le_of_not_lt inside
    have outside' : turn.after.pools.length ≤ id := by
      rw [mine.pools, List.length_set]
      exact outside
    intro figure _
    rw [turn.after.pool_of_length_le outside', turn.before.pool_of_length_le outside]

structure Fruitless (id : PoolId) (context : Context) (task : TaskId) (final : Phase)
    (turns : List Turn) (last : Depot) : Prop where
  chain : Chain id {} turns last
  called : last.tasks[task]? = some ⟨.checkout id context, final⟩
  isOver : final.isOver = true
  fruitless : final.checkedOut? id = none
  kept : ∀ turn ∈ turns, (Admitting id turn.before ∧ Balanced id turn.before) ∧
    Admitting id turn.after

section

variable (fruitless : Fruitless id context task final turns last)

include fruitless

theorem Fruitless.checkoutTurn (own : turn ∈ ownTurns task turns) :
    ∃ phase phase' pool, CheckoutTurn id context task turn phase phase' pool ∧
      (phase'.isOver = true → phase' = final) ∧ Trace id task turn := by
  obtain ⟨⟨before, balanced⟩, after⟩ := fruitless.kept turn (mem_ownTurns.mp own).1
  obtain ⟨phase, phase', pool, mine, ends⟩ :=
    checkoutTurn_of_mem fruitless.chain own before.suited fruitless.called
  refine ⟨phase, phase', pool, mine, ends, trace_of_turn mine before after balanced ?_⟩
  cases isOver : phase'.isOver with
  | false => exact checkedOut?_of_unfinished id isOver
  | true =>
      rw [ends isOver]
      exact fruitless.fruitless

theorem Fruitless.trace (own : turn ∈ ownTurns task turns) : Trace id task turn := by
  obtain ⟨-, -, -, -, -, trace⟩ := fruitless.checkoutTurn own
  exact trace

theorem Fruitless.passing {test : Phase → Bool}
    (quiet : ∀ phase : Phase, phase.isOver = true → test phase = false) :
    ownChange (fun depot => (((depot.phase? task).any test).toNat : Int)) task turns = 0 := by
  have passed := ownChange_of_phase task fruitless.chain
    (fun phase => ((phase.any test).toNat : Int))
  have there : last.phase? task = some final := by
    rw [phase?_of_getElem? fruitless.called]
  rw [there, Option.any_some, quiet final fruitless.isOver] at passed
  exact passed

theorem Fruitless.books : ∃ removed : Nat,
    poolChange id Pool.created task turns = 0 ∧
      poolChange id (·.idle.size) task turns = -removed ∧
      poolChange id Pool.active task turns = -removed ∧
      poolChange id Pool.destroyed task turns = removed := by
  have falls : poolChange id (·.idle.size) task turns ≤ 0 := by
    apply ownChange_nonpos
    intro turn own
    obtain ⟨newer, older, split, -⟩ := (fruitless.trace own).removes
    have lengths := congrArg List.length split
    simp only [List.length_append] at lengths
    simp only [Pool.size_idle]
    omega
  have created : poolChange id Pool.created task turns = 0 := by
    apply ownChange_eq_zero
    intro turn own
    simp only [(fruitless.trace own).created]
  have dialed : ownChange (fun depot => (dials id task depot : Int)) task turns = 0 := by
    apply fruitless.passing
    intro phase isOver
    cases phase with
    | dialing => cases isOver
    | _ => rfl
  have active : poolChange id Pool.active task turns = poolChange id (·.idle.size) task turns +
      ownChange (fun depot => (dials id task depot : Int)) task turns := by
    apply ownChange_split
    intro turn own
    have same := (fruitless.trace own).active
    simp only [Pool.size_idle]
    omega
  have destroyed : poolChange id Pool.destroyed task turns =
      -poolChange id (·.idle.size) task turns := by
    apply ownChange_opposite
    intro turn own
    have same := (fruitless.trace own).destroyed
    simp only [Pool.size_idle]
    omega
  refine ⟨(poolChange id (·.idle.size) task turns).natAbs, created, ?_, ?_, ?_⟩
  · omega
  · omega
  · omega

theorem Fruitless.slots (member : ending ∈ turns) (ends : ending.Ends task)
    (isOpen : (ending.after.pool id).closed = false) :
    poolChange id Pool.slotCount task turns = 0 := by
  have own_ending : ending ∈ ownTurns task turns := mem_ownTurns.mpr ⟨member, ends.1⟩
  have open_before : (ending.before.pool id).closed = false := by
    rw [← (fruitless.trace own_ending).closed]
    exact isOpen
  -- Nothing opens a pool again, so it was open in all the turns before.
  have opens (turn : Turn) (own : turn ∈ ownTurns task turns) :
      (turn.after.pool id).closed = false := by
    rcases fruitless.chain.not_before_end (fun depot => (depot.pool id).closed = true)
      closed_lasts member ends (by simp [open_before]) turn own with rfl | still_open
    · exact isOpen
    · exact Bool.eq_false_iff.mpr still_open
  have owned : ownChange (fun depot => (owns id task depot : Int)) task turns = 0 := by
    apply fruitless.passing
    intro phase isOver
    cases phase with
    | finished outcome => rfl
    | dropped => rfl
    | _ => cases isOver
  have opposite : poolChange id Pool.slotCount task turns =
      -ownChange (fun depot => (owns id task depot : Int)) task turns := by
    apply ownChange_opposite
    intro turn own
    have same := (fruitless.trace own).slots (opens turn own)
    omega
  omega

theorem Fruitless.waits
    (waited : poolChange id Pool.waitCount task turns ≠ 0 ∨
      poolChange id Pool.waitTime task turns ≠ 0) :
    ∃ turn ∈ ownTurns task turns,
      (∃ context since, turn.before.phase? task = some (.queued id context since)) ∧
        (turn.after.phase? task).any (Phase.isInside id) = true := by
  by_contra never
  have still (turn : Turn) (own : turn ∈ ownTurns task turns) :
      (turn.after.pool id).waitCount = (turn.before.pool id).waitCount ∧
        (turn.after.pool id).waitTime = (turn.before.pool id).waitTime :=
    (fruitless.trace own).waits.resolve_right fun passes => never ⟨turn, own, passes⟩
  have count : poolChange id Pool.waitCount task turns = 0 := by
    apply ownChange_eq_zero
    intro turn own
    simp only [(still turn own).1]
  have time : poolChange id Pool.waitTime task turns = 0 := by
    apply ownChange_eq_zero
    intro turn own
    simp only [(still turn own).2]
  rcases waited with counted | timed
  · exact counted count
  · exact timed time

theorem Fruitless.aborts (member : ending ∈ turns) (ends : ending.Ends task) {refusal : Refusal}
    (refused : final = .finished (.refused refusal)) (abort : refusal.isAbort = true) :
    EndsAtGate id task ending := by
  obtain ⟨phase, phase', pool, mine, last_phase, -⟩ :=
    fruitless.checkoutTurn (mem_ownTurns.mpr ⟨member, ends.1⟩)
  have isOver := ends.2
  rw [any_after mine.becomes] at isOver
  have at_gate := abort_of_effect mine.effect abort ((last_phase isOver).trans refused)
  intro before there
  rcases phase?_before mine.becomes with ⟨-, absent⟩ | ⟨begun, here⟩
  · rw [absent] at there
    cases there
  · rw [here] at there
    cases there
    exact at_gate.resolve_left begun

theorem Fruitless.gate (member : ending ∈ turns) (ends : ending.Ends task)
    (at_gate : EndsAtGate id task ending) :
    ∀ figure ∈ booked, poolChange id figure task turns = 0 := by
  have not_past : ¬ Past id task ending.before := by
    intro past
    obtain ⟨phase, there, reached⟩ := (Option.any_eq_true _ _).mp past
    obtain ⟨context, since, rfl⟩ := at_gate phase there
    cases reached
  intro figure booked
  apply ownChange_eq_zero
  intro turn own
  obtain ⟨phase, phase', pool, mine, -, -⟩ := fruitless.checkoutTurn own
  have here : turn.after.phase? task = some phase' :=
    phase?_of_getElem? (phase_of_becomes mine.becomes)
  have after_and_before : phase'.isInside id = false ∧ ¬ Past id task turn.before := by
    -- A checkout that is past the gate stays past it, and at its last turn it was not.
    rcases fruitless.chain.not_before_end (Past id task) past_lasts member ends not_past turn own
      with rfl | not_yet
    · have isOver := ends.2
      rw [here, Option.any_some] at isOver
      refine ⟨?_, not_past⟩
      cases phase' with
      | finished outcome => rfl
      | dropped => rfl
      | _ => cases isOver
    · obtain ⟨there, actor⟩ := mem_ownTurns.mp own
      refine ⟨?_, fun past => not_yet (past_lasts (fruitless.chain.move_of_mem there) past)⟩
      apply Bool.eq_false_iff.mpr
      intro inside
      apply not_yet
      rw [Past, here, Option.any_some, inside, Bool.true_or]
  have before : phase.isInside id = false := by
    apply Bool.eq_false_iff.mpr
    intro inside
    apply after_and_before.2
    rw [Past, any_before mine.becomes rfl, inside, Bool.true_or]
  have same := booked_of_turn mine before after_and_before.1 figure booked
  simp only [same]

end

/-- In every run in which what goes back to a pool was checked out of it, a checkout that is over
and got no handle has left no trace, whether it was refused, panicked or was dropped. -/
theorem fruitless_leaves_no_trace (id : PoolId) (task : TaskId) (context : Context)
    {actions : List Action}
    (own : ({} : Depot).returnsOwn id actions = true)
    (called : (({} : Depot).run actions).tasks[task]? = some ⟨.checkout id context, final⟩)
    (isOver : final.isOver = true)
    (empty_handed : ∀ handle, final ≠ .finished (.checkedOut id handle)) :
    ∃ ending ∈ ({} : Depot).turns actions, ending.Ends task ∧
      NoTrace id task final (({} : Depot).turns actions) ending := by
  have chain := chain_turns id actions own resting_empty
  obtain ⟨-, all⟩ := bounded_turns own
  have fruitless : Fruitless id context task final (({} : Depot).turns actions)
      (({} : Depot).run actions) := by
    refine ⟨chain, called, isOver, ?_, fun turn member => ?_⟩
    · cases got : final.checkedOut? id with
      | none => rfl
      | some handle => exact absurd (checkedOut?_eq_some got) (empty_handed handle)
    · obtain ⟨⟨before, balanced, -⟩, after, -⟩ := all turn member
      exact ⟨⟨before, balanced⟩, after⟩
  have ended : ((({} : Depot).run actions).phase? task).any Phase.isOver = true := by
    rw [phase?_of_getElem? called]
    exact isOver
  obtain ⟨ending, member, ends⟩ := chain.exists_end task rfl ended
  refine ⟨ending, member, ends, fruitless.books, ?_, ?_, fruitless.slots member ends,
    fruitless.waits, fruitless.gate member ends, fun _ => fruitless.aborts member ends⟩
  · intro turn own_turn
    exact (fruitless.trace own_turn).removes
  · intro turn own_turn
    exact ⟨(fruitless.trace own_turn).closed, (fruitless.trace own_turn).others⟩

def inVain : List Action :=
  [.makeDialer "dialer" (.counted {}),
   .makePool "pool" (some 0) "" { maxActive := 1, wait := true },
   .checkout 0 {}, .checkout 0 {}, .mark 0 { reusable := some false }, .giveBack 0 0, .failNext 0 1,
   .elapse 5000, .poll 1]

theorem fruitless_leaves_no_trace_inVain :
    (∃ ending ∈ ({} : Depot).turns inVain, ending.Ends 1 ∧
        NoTrace 0 1 (.finished (.refused (.dialFailed "pool" Counter.refusalText)))
          (({} : Depot).turns inVain) ending) ∧
      poolChange 0 Pool.destroyed 1 (({} : Depot).turns inVain) = 1 :=
  ⟨fruitless_leaves_no_trace 0 1 {} (by decide) (by decide) rfl (by simp), by decide⟩

end HandlePool.Depot
