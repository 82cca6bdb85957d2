import HandlePool.Proofs.Admission

namespace HandlePool.Depot

variable {id site : PoolId} {depot next : Depot} {task : TaskId} {request : Request}
  {phase phase' : Phase} {pool : Pool} {gate gate' : Gate}

theorem slots_le (slots : Slots id (depot.cameBack id).length depot gate)
    (custody : Custody id depot) : gate.slots ≤ (depot.pool id).limits.maxActive.toNat := by
  have owed := (cameBack_subperm custody).length_le
  have within := slots.within
  omega

theorem overflows_of_room (room : gate.free < Gate.capacity) : gate.overflows = false := by
  rw [Gate.overflows, decide_eq_false (Nat.not_le_of_lt room), Bool.and_false]

theorem slotOverflows_eq_false (admission : Admission id depot) (custody : Custody id depot)
    (out : 1 ≤ depot.inside id ∨ (depot.cameBack id).length < (depot.checkedOut id).length) :
    (depot.pool id).slotOverflows = false := by
  have owed := (cameBack_subperm custody).length_le
  unfold Pool.slotOverflows
  cases gated : (depot.pool id).gate with
  | none => exact Bool.and_false _
  | some gate =>
      have slots := admission.slots gate gated
      cases closed : (depot.pool id).closed with
      | true => rfl
      | false =>
          have spread := slots.spread (slots.alike.trans closed)
          have roomy := slots.roomy
          have room : gate.free < Gate.capacity := by
            simp only [Gate.slots] at spread
            omega
          rw [Option.any_some, overflows_of_room room]
          rfl

theorem leaveOverflows_eq_false (admission : Admission id depot) (custody : Custody id depot)
    (task : TaskId) : (depot.pool id).gate.any (·.leaveOverflows task) = false := by
  cases gated : (depot.pool id).gate with
  | none => rfl
  | some gate =>
      have slots := admission.slots gate gated
      have fits := Nat.le_trans (slots_le slots custody) slots.roomy
      rw [Option.any_some, Gate.leaveOverflows]
      by_cases handed : task ∈ gate.granted
      · have some_handed := List.length_pos_of_mem handed
        have room : gate.free < Gate.capacity := by
          simp only [Gate.slots] at fits
          omega
        rw [overflows_of_room room, Bool.and_false]
      · rw [decide_eq_false handed, Bool.false_and]

theorem panicked_of_overflowOr {overflow : Bool} {outcome : Outcome} {message : String}
    (fits : overflow = false)
    (isOver : Phase.finished (overflowOr overflow outcome) = .finished (.panicked message)) :
    outcome = .panicked message := by
  rw [fits] at isOver
  exact Phase.finished.inj isOver

theorem calm_of_effect (effect : Effect depot task request id phase phase' pool)
    (becomes : Becomes depot.tasks request task phase phase' next.tasks)
    (custody : Custody id depot) (custody' : Custody id next) (admission : Admission id depot)
    {message : String} (isOver : phase' = .finished (.panicked message)) :
    ∃ call, (phase = .calling call ∨ ∃ slot, phase = .dialing id slot call) ∧
      (depot.endDial call).1 = .panicked message := by
  -- A slot that is given back was out until then, with the checkout or for the handle.
  have owner (inside : phase.isInside id = true) : (depot.pool id).slotOverflows = false := by
    apply slotOverflows_eq_false admission custody
    left
    rcases phase?_before becomes with ⟨asked, -⟩ | ⟨-, there⟩
    · rw [asked] at inside
      cases inside
    · exact census_pos there inside
  have returner (brings : bringsBack id request phase = 1) (keeps : phase'.checkedOut? id = none) :
      (depot.pool id).slotOverflows = false := by
    apply slotOverflows_eq_false admission custody
    right
    have tally := tally_of_becomes id becomes
    have owed' := (cameBack_subperm custody').length_le
    rw [tally.out, tally.back, brings, keeps] at owed'
    exact owed'
  cases effect with
  | aside apart apart' begun plain served calm =>
      obtain ⟨call, calling, answer⟩ := calm message isOver
      exact ⟨call, Or.inl calling, answer⟩
  | bounce asks gated isOpen left fired =>
      rename_i gate abort
      have slots := admission.slots gate gated
      have fits := Nat.le_trans (slots_le slots custody) slots.roomy
      have room : gate.take.free < Gate.capacity := by
        simp only [Gate.slots] at fits
        simp only [Gate.take]
        omega
      cases panicked_of_overflowOr (overflows_of_room room) isOver
  | quit =>
      cases panicked_of_overflowOr (leaveOverflows_eq_false admission custody task) isOver
  | deny | unconfigured =>
      have fits := owner (isInside_of_slot? (slot?_scanning _))
      cases panicked_of_overflowOr (by rw [fits, Bool.and_false]) isOver
  | refuse =>
      have fits := owner (isInside_of_slot? (slot?_dialing _ _))
      cases panicked_of_overflowOr (by rw [fits, Bool.and_false]) isOver
  | panic answer =>
      rename_i slot call panic
      have fits := owner (isInside_of_slot? (slot?_dialing _ _))
      cases panicked_of_overflowOr (by rw [fits, Bool.and_false]) isOver
      exact ⟨call, Or.inr ⟨slot, rfl⟩, answer⟩
  | reject taken unusable goes => rcases goes with rfl | ⟨due, rfl⟩ <;> cases isOver
  | giveBack asks goes =>
      have fits := returner (bringsBack_own (by rw [asks]; rfl)) (by rw [isOver]; rfl)
      rcases goes with ⟨overflow, -⟩ | ⟨-, rfl⟩ | ⟨oldest, due, -, rfl⟩
      · rw [fits] at overflow
        cases overflow
      · cases isOver
      · cases isOver
  | discard asks goes =>
      have fits := returner (bringsBack_own (by rw [asks]; rfl)) (by rw [isOver]; rfl)
      rcases goes with ⟨overflow, -⟩ | rfl | ⟨due, rfl⟩
      · rw [fits] at overflow
        cases overflow
      · cases isOver
      · cases isOver
  | _ => cases isOver

theorem calm_of_unstaked (effect : Effect depot task request site phase phase' pool)
    (apart : phase.stake? = none) (begun : phase ≠ .asked) {message : String}
    (isOver : phase' = .finished (.panicked message)) :
    ∃ call, phase = .calling call ∧ (depot.endDial call).1 = .panicked message := by
  cases effect with
  | aside apart apart' begun plain served calm => exact calm message isOver
  | pass grant => cases isOver
  | shut => cases isOver
  | abandon held => cases isOver
  | turnedAway | queue | bounce | giveBack | discard => exact absurd rfl begun
  | _ => cases apart

theorem calm_of_move (move : Move id depot (some task) next) (suited : Suited depot)
    (custody : Custody id depot) (admission : Admission id depot) {found : Task} {message : String}
    (here : next.tasks[task]? = some found) (calls : found.request.pool? = some id)
    (isOver : found.phase = .finished (.panicked message)) :
    ∃ call, (depot.phase? task = some (.calling call) ∨
        ∃ slot, depot.phase? task = some (.dialing id slot call)) ∧
      (depot.endDial call).1 = .panicked message := by
  have custody' := custody.keeps move
  obtain ⟨request, phase, phase', site, pool, held, effect, pools, tasks, -, -, -⟩ :=
    shift_of_move move
  rw [phase_of_becomes tasks] at here
  cases here
  have there (begun : phase ≠ .asked) : depot.phase? task = some phase :=
    ((phase?_before tasks).resolve_left fun asked => begun asked.1).2
  have mine (same : site = id) : ∃ call, (depot.phase? task = some (.calling call) ∨
        ∃ slot, depot.phase? task = some (.dialing id slot call)) ∧
      (depot.endDial call).1 = .panicked message := by
    subst same
    obtain ⟨call, rfl | ⟨slot, rfl⟩, answer⟩ :=
      calm_of_effect effect tasks custody custody' admission isOver
    · exact ⟨call, Or.inl (there (by simp)), answer⟩
    · exact ⟨call, Or.inr ⟨slot, there (by simp)⟩, answer⟩
  by_cases asked : phase = .asked
  · exact mine (site_of_effect effect (Or.inl ⟨asked, calls⟩))
  · cases shows : phase.stake? with
    | none =>
        obtain ⟨call, rfl, answer⟩ := calm_of_unstaked effect shows asked isOver
        exact ⟨call, Or.inl (there asked), answer⟩
    | some at_ =>
        have before := ((before_of_becomes tasks).resolve_left fun new => asked new.1).2
        obtain ⟨context, asks⟩ := (suited task ⟨request, phase⟩ before).uses at_ shows
        have same : at_ = id := by
          rw [show request = .checkout at_ context from asks] at calls
          exact Option.some.inj calls
        rw [same] at shows
        exact mine (site_of_effect effect (Or.inr shows))

/-- While a pool that makes checkouts wait is open, each of its slots is free, or lies ready for a
checkout that is queued, or is with one that got past the gate, or belongs to a handle that is away;
and none is free while a checkout waits for one. -/
def SlotsKept (id : PoolId) (depot : Depot) : Prop :=
  (depot.pool id).limits.boundedWait = true → (depot.pool id).closed = false →
    ∃ gate, (depot.pool id).gate = some gate ∧
      (gate.granted.Nodup ∧ ∀ task ∈ gate.granted, depot.isQueued id task = true) ∧
      gate.free + gate.granted.length + depot.inside id + (depot.away id).length =
        (depot.pool id).limits.maxActive.toNat ∧
      ∀ task, depot.isQueued id task = true → task ∉ gate.granted → gate.free = 0

theorem slotsKept_of_admission (custody : Custody id depot) (admission : Admission id depot) :
    SlotsKept id depot := by
  intro waits isOpen
  have gated := admission.gated
  rw [waits] at gated
  obtain ⟨gate, there⟩ := Option.isSome_iff_exists.mp gated
  obtain ⟨roomy, alike, orderly, known, listed, spread, -⟩ := admission.slots gate there
  have open_gate : gate.closed = false := alike.trans isOpen
  refine ⟨gate, there, ⟨?_, ?_⟩, ?_, ?_⟩
  · exact (List.nodup_append.mp orderly.distinct).2.1
  · intro task handed
    exact known task (List.mem_append_right _ handed)
  · have spread := spread open_gate
    have away := length_away custody
    simp only [Gate.slots] at spread
    omega
  · intro task queued unhanded
    have member := listed open_gate task queued
    have waiting := (List.mem_append.mp member).resolve_right unhanded
    exact orderly.busy (List.ne_nil_of_mem waiting)

/-- No slot is given back to a gate that has no room for it: a gate never has more than it can, and
a task that was called on the pool panics only where a dial that it made panicked. -/
structure Roomy (id : PoolId) (turn : Turn) : Prop where
  fits : ∀ gate, (turn.after.pool id).gate = some gate →
    gate.free + gate.granted.length ≤ (turn.after.pool id).limits.maxActive.toNat ∧
      (turn.after.pool id).limits.maxActive.toNat ≤ Gate.capacity
  calm : ∀ task found message, turn.actor = some task → turn.after.tasks[task]? = some found →
    found.request.pool? = some id → found.phase = .finished (.panicked message) →
    ∃ call, (turn.before.phase? task = some (.calling call) ∨
        ∃ slot, turn.before.phase? task = some (.dialing id slot call)) ∧
      (turn.before.endDial call).1 = .panicked message

structure Admitting (id : PoolId) (depot : Depot) : Prop where
  custody : Custody id depot
  suited : Suited depot
  admission : Admission id depot

theorem admitting_empty (id : PoolId) : Admitting id {} :=
  ⟨custody_empty id, suited_empty, admission_empty id⟩

theorem admitting_of_move {actor : Option TaskId} (move : Move id depot actor next)
    (kept : Admitting id depot) : Admitting id next :=
  ⟨kept.custody.keeps move, suited_of_move move kept.suited,
    admission_of_move move kept.custody kept.admission⟩

theorem admitting_turns {actions : List Action}
    (own : ({} : Depot).returnsOwn id actions = true) :
    Admitting id (({} : Depot).run actions) ∧
      ∀ turn ∈ ({} : Depot).turns actions,
        Admitting id turn.before ∧ Admitting id turn.after :=
  turns_keep (Admitting id) (admitting_empty id) admitting_of_move own

/-- In every run in which what goes back to a pool was checked out of it, no slot of its gate leaks
or is made, no checkout waits while a slot is free, and no slot is given back that the gate cannot
take. -/
theorem slots_conserved {actions : List Action}
    (own : ({} : Depot).returnsOwn id actions = true) :
    SlotsKept id (({} : Depot).run actions) ∧
      ∀ turn ∈ ({} : Depot).turns actions,
        SlotsKept id turn.before ∧ SlotsKept id turn.after ∧ Roomy id turn := by
  obtain ⟨last, all⟩ := admitting_turns own
  refine ⟨slotsKept_of_admission last.custody last.admission, ?_⟩
  intro turn member
  obtain ⟨before, after⟩ := all turn member
  refine ⟨slotsKept_of_admission before.custody before.admission,
    slotsKept_of_admission after.custody after.admission, ?_, ?_⟩
  · intro gate gated
    have slots := after.admission.slots gate gated
    exact ⟨slots_le slots after.custody, slots.roomy⟩
  · intro task found message actor here calls isOver
    have move := (chain_turns id actions own resting_empty).move_of_mem member
    rw [actor] at move
    exact calm_of_move move before.suited before.custody before.admission here calls isOver

def crowded : List Action :=
  [.makeDialer "dialer" (.counted {}),
   .makePool "pool" (some 0) "" { maxActive := 1, wait := true },
   .checkout 0 {}, .checkout 0 {}, .checkout 0 {}, .giveBack 0 0]

theorem slots_conserved_crowded :
    ({} : Depot).returnsOwn 0 crowded = true ∧ SlotsKept 0 (({} : Depot).run crowded) ∧
      ((({} : Depot).run crowded).pool 0).gate =
        some { free := 0, waiting := [2], granted := [1] } :=
  ⟨by decide, (slots_conserved (by decide)).1, by decide⟩

end HandlePool.Depot
