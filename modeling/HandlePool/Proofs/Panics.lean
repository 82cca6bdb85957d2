import HandlePool.Limits.Reader
import HandlePool.Proofs.Ledger
import HandlePool.Proofs.Sequence
import HandlePool.Proofs.Slots

namespace HandlePool

def Limits.oversized (limits : Limits) : Bool :=
  limits.boundedWait && decide (Gate.capacity < limits.maxActive.toNat)

theorem Pool.open?_eq_none_iff {id parameter : String} {dialer : Option DialerId}
    {limits : Limits} :
    Pool.open? id dialer parameter limits = none ↔ limits.oversized = true := by
  unfold Pool.open? Limits.oversized Gate.open?
  cases limits.boundedWait with
  | false => simp
  | true => simp

structure Idle.Arena.Works (arena : Arena HandleId) : Prop where
  pushFront : ∀ handle, ∃ pushed, arena.pushFront handle = .ok pushed
  popFront : ∃ popped, arena.popFront = .ok popped
  popBack : ∃ popped, arena.popBack = .ok popped
  oldest : ∃ handle, arena.oldest = .ok handle
  drain : ∃ drained, arena.drain = .ok drained

theorem Idle.Shelf.works (shelf : Shelf HandleId) : shelf.arena.Works := by
  obtain ⟨indices, holds⟩ := shelf.holds_toList
  refine ⟨fun handle => ?_, ?_, ?_, ⟨_, holds.oldest⟩, ⟨_, holds.drain⟩⟩
  · obtain ⟨pushed, -, result, -⟩ := holds.pushFront handle
    exact ⟨pushed, result⟩
  · generalize shelf.toList = values at holds
    cases values with
    | nil => exact ⟨none, holds.popFront_nil⟩
    | cons newest older =>
        obtain ⟨index, rest, rfl⟩ := holds.indices_cons
        obtain ⟨popped, result, -⟩ := holds.popFront_cons
        exact ⟨_, result⟩
  · generalize shelf.toList = values at holds
    rcases List.eq_nil_or_concat' values with rfl | ⟨newer, oldest, rfl⟩
    · exact ⟨none, holds.popBack_nil⟩
    · obtain ⟨rest, index, rfl⟩ := holds.indices_append
      obtain ⟨popped, result, -⟩ := holds.popBack_append
      exact ⟨_, result⟩

namespace Depot

def undoOverflows (depot : Depot) (id : PoolId) (task : TaskId) : Phase → Bool
  | .queued pool _ _ => pool == id && (depot.pool id).gate.any (·.leaveOverflows task)
  | .scanning pool slot | .dialing pool slot _ | .closing pool _ _ (.rescan slot) =>
      pool == id && slot && (depot.pool id).slotOverflows
  | _ => false

structure Counts (clock count : Nat) (pool : Pool) : Prop where
  active : pool.active ≤ count
  created : pool.created ≤ count
  waits : pool.waitCount ≤ count
  time : pool.waitTime ≤ count * clock

variable {id view site : PoolId} {depot next last : Depot} {task : TaskId}
  {actor : Option TaskId} {request : Request} {phase phase' : Phase} {pool before : Pool}
  {clock count : Nat}

theorem Counts.grow (counts : Counts clock count before) (active : pool.active ≤ before.active + 1)
    (created : pool.created ≤ before.created + 1) (waits : pool.waitCount ≤ before.waitCount + 1)
    (time : pool.waitTime ≤ before.waitTime + clock) : Counts clock (count + 1) pool :=
  ⟨Nat.le_trans active (Nat.succ_le_succ counts.active),
    Nat.le_trans created (Nat.succ_le_succ counts.created),
    Nat.le_trans waits (Nat.succ_le_succ counts.waits),
    Nat.succ_mul count clock ▸ Nat.le_trans time (Nat.add_le_add_right counts.time _)⟩

theorem Counts.fall (counts : Counts clock count before) (active : pool.active ≤ before.active)
    (created : pool.created = before.created) (waits : pool.waitCount = before.waitCount)
    (time : pool.waitTime = before.waitTime) : Counts clock (count + 1) pool :=
  counts.grow (Nat.le_succ_of_le active) (created ▸ Nat.le_succ _) (waits ▸ Nat.le_succ _)
    (time ▸ Nat.le_add_right _ _)

theorem counts_of_effect (effect : Effect depot task request id phase phase' pool)
    (early : depot.now ≤ clock) (counts : Counts clock count (depot.pool id)) :
    Counts clock (count + 1) pool := by
  cases effect with
  | pass grant =>
      rw [Pool.recordWait_eq]
      have one (waited : Option Nat) : waited.toList.length ≤ 1 := by cases waited <;> simp
      have short (waited : Option Nat) (within : ∀ time ∈ waited, time ≤ depot.now) :
          waited.getD 0 ≤ clock := by
        cases waited with
        | none => exact Nat.zero_le _
        | some time => exact Nat.le_trans (within time rfl) early
      cases grant with
      | free | taken =>
          refine counts.grow ?_ (Nat.le_succ _) (Nat.add_le_add_left (one _) _) (by simp)
          rw [Pool.active_prune]
          exact Nat.le_succ_of_le (Nat.sub_le _ _)
      | collected =>
          refine counts.grow ?_ (Nat.le_succ _) (Nat.add_le_add_left (one _) _)
            (Nat.add_le_add_left (short _ ?_) _)
          · rw [Pool.active_prune]
            exact Nat.le_succ_of_le (Nat.sub_le _ _)
          · intro time waited
            obtain ⟨since, -, rfl⟩ := Option.map_eq_some_iff.mp waited
            exact Nat.sub_le _ _
  | reuse taken =>
      rw [(Pool.takeNewest_eq_some taken).2]
      exact counts.fall (Nat.le_refl _) rfl rfl rfl
  | reject taken =>
      rw [(Pool.takeNewest_eq_some taken).2]
      exact counts.fall (Nat.sub_le _ _) rfl rfl rfl
  | deny | refuse | panic | letGo | abandon =>
      refine counts.fall ?_ (by simp) (by simp) (by simp)
      rw [Pool.active_handBack]
      exact Nat.sub_le _ _
  | unconfigured =>
      refine counts.grow ?_ (by simp [Pool.reserve]) (by simp [Pool.reserve])
        (by simp [Pool.reserve])
      rw [Pool.active_handBack]
      exact Nat.sub_le _ _
  | giveBack asks goes =>
      rename_i handle
      rw [Pool.releaseSlot_eq, ((depot.pool id).shelve_books handle).2]
      exact counts.fall (Nat.sub_le _ _) rfl rfl rfl
  | discard =>
      rw [Pool.releaseSlot_eq]
      exact counts.fall (Nat.sub_le _ _) rfl rfl rfl
  | shut =>
      rw [Pool.shut_books]
      exact counts.fall (Nat.sub_le _ _) rfl rfl rfl
  | dial =>
      exact counts.grow (Nat.le_refl _) (Nat.le_succ _) (Nat.le_succ _) (Nat.le_add_right _ _)
  | connect =>
      exact counts.grow (Nat.le_succ _) (Nat.le_refl _) (Nat.le_succ _) (Nat.le_add_right _ _)
  | _ => exact counts.fall (Nat.le_refl _) rfl rfl rfl

theorem counts_of_move (move : Move view depot actor next) (early : depot.now ≤ clock)
    (counts : Counts clock count (depot.pool id)) : Counts clock (count + 1) (next.pool id) := by
  have stays (same : next.pool id = depot.pool id) : Counts clock (count + 1) (next.pool id) :=
    same ▸ counts.fall (Nat.le_refl _) rfl rfl rfl
  cases (touch_of_move move : Touch id depot actor next) with
  | missing outside outside' =>
      exact stays ((next.pool_of_length_le outside').trans (depot.pool_of_length_le outside).symm)
  | fresh outside fresh =>
      obtain ⟨name, dialer, parameter, limits, gate, made⟩ := fresh.made
      rw [made]
      exact ⟨Nat.zero_le _, Nat.zero_le _, Nat.zero_le _, Nat.zero_le _⟩
  | still same => exact stays same
  | other who same => exact stays same
  | own who inside becomes effect => exact counts_of_effect effect early counts

theorem counts_empty (id : PoolId) (clock : Nat) : Counts clock 0 (({} : Depot).pool id) :=
  ⟨Nat.le_refl _, Nat.le_refl _, Nat.le_refl _, Nat.zero_le _⟩

theorem Chain.counts {turns : List Turn} (chain : Chain view depot turns last)
    (early : ∀ turn ∈ turns, turn.before.now ≤ clock)
    (counts : Counts clock count (depot.pool id)) :
    Counts clock (count + turns.length) (last.pool id) := by
  induction chain generalizing count with
  | nil => exact counts
  | cons move rest ih =>
      have soon := early _ List.mem_cons_self
      have later := ih (fun turn member => early turn (List.mem_cons_of_mem _ member))
        (counts_of_move move soon counts)
      rwa [List.length_cons, Nat.add_comm _ 1, ← Nat.add_assoc]

theorem calm_of_plain (effect : Effect depot task request site phase phase' pool)
    (becomes : Becomes depot.tasks request task phase phase' next.tasks) (suited : Suited depot)
    (plain : request.pool? = none) {message : String}
    (isOver : phase' = .finished (.panicked message)) :
    ∃ call, phase = .calling call ∧ (depot.endDial call).1 = .panicked message := by
  by_cases asked : phase = .asked
  · cases effect with
    | aside apart apart' begun plain served calm => exact calm message isOver
    | pass grant => cases isOver
    | shut => cases isOver
    | abandon held => cases isOver
    | turnedAway asks | queue asks | bounce asks | giveBack asks | discard asks =>
        rw [asks] at plain
        cases plain
    | _ => cases asked
  · cases shows : phase.stake? with
    | none => exact calm_of_unstaked effect shows asked isOver
    | some at_ =>
        -- Only a checkout has a stake, and a pool serves it.
        have before := ((before_of_becomes becomes).resolve_left fun new => asked new.1).2
        obtain ⟨context, asks⟩ := (suited task ⟨request, phase⟩ before).uses at_ shows
        rw [show request = .checkout at_ context from asks] at plain
        cases plain

theorem undoOverflows_eq_false (admitting : Admitting id depot)
    (there : depot.phase? task = some phase) : depot.undoOverflows id task phase = false := by
  have owner (inside : phase.isInside id = true) : (depot.pool id).slotOverflows = false :=
    slotOverflows_eq_false admitting.admission admitting.custody (Or.inl (census_pos there inside))
  have returns {pool : PoolId} {slot : Bool} (inside : pool = id → phase.isInside id = true) :
      (pool == id && slot && (depot.pool id).slotOverflows) = false := by
    by_cases same : pool = id
    · rw [owner (inside same), Bool.and_false]
    · simp [same]
  unfold undoOverflows
  split
  · rw [leaveOverflows_eq_false admitting.admission admitting.custody, Bool.and_false]
  · exact returns fun same => same ▸ isInside_of_slot? (slot?_scanning _)
  · exact returns fun same => same ▸ isInside_of_slot? (slot?_dialing _ _)
  · exact returns fun same => same ▸ isInside_of_slot? (slot?_rescanning _ _ _)
  · rfl

/-- After the turns `past`, the last of which is `turn`: no task panics but where a dial does, nor
would a gate overflow if any task were dropped, as far as the pool `id` goes. No counter of the pool
is greater than the number of turns. -/
structure Calm (id : PoolId) (past : List Turn) (turn : Turn) : Prop where
  panics : ∀ task found message, turn.actor = some task → turn.after.tasks[task]? = some found →
    found.request.pool? = some id ∨ found.request.pool? = none →
    found.phase = .finished (.panicked message) →
    ∃ call, (turn.before.phase? task = some (.calling call) ∨
        ∃ slot, turn.before.phase? task = some (.dialing id slot call)) ∧
      (turn.before.endDial call).1 = .panicked message
  drops : ∀ task phase, turn.after.phase? task = some phase →
    turn.after.undoOverflows id task phase = false
  works : (turn.after.pool id).idle.arena.Works
  counts : ∀ clock, (∀ early ∈ past, early.before.now ≤ clock) →
    Counts clock past.length (turn.after.pool id)
  destroyed : (turn.after.pool id).destroyed ≤ past.length

/-- Limits make no pool just if checkouts would wait for more slots than a gate can have. Once a
pool is made, no run in which what goes back to it was checked out of it panics but where a dial
does. -/
theorem calm_once_made {actions : List Action}
    (own : ({} : Depot).returnsOwn id actions = true) :
    (∀ (depot : Depot) (name : String) (dialer : Option DialerId) (parameter : String)
      (limits : Limits), depot.addPool? name dialer parameter limits = none ↔
        limits.oversized = true) ∧
      ∀ first turn later, ({} : Depot).turns actions = first ++ turn :: later →
        Calm id (first ++ [turn]) turn := by
  refine ⟨fun depot name dialer parameter limits => ?_, fun first turn later splits => ?_⟩
  · rw [addPool?, Option.map_eq_none_iff]
    exact Pool.open?_eq_none_iff
  have member : turn ∈ ({} : Depot).turns actions := by
    rw [splits]
    exact List.mem_append_right _ List.mem_cons_self
  have chain := chain_turns id actions own resting_empty
  have move := chain.move_of_mem member
  obtain ⟨before, after⟩ := (admitting_turns own).2 turn member
  have counts (clock : Nat) (early : ∀ early ∈ first ++ [turn], early.before.now ≤ clock) :
      Counts clock (first ++ [turn]).length (turn.after.pool id) := by
    rw [splits] at chain
    cases chain.back with
    | cons last rest =>
        have path := chain.front.append (.single last)
        have counts := path.counts early (counts_empty id clock)
        rwa [Nat.zero_add] at counts
  have balanced := ((chain.keeps books_keep ⟨custody_empty id, balanced_empty id⟩).2
    turn member).2
  refine ⟨?_, fun task phase there => undoOverflows_eq_false after there, Idle.Shelf.works _,
    counts, ?_⟩
  · intro task found message actor here calls isOver
    rw [actor] at move
    rcases calls with calls | plain
    · exact calm_of_move move before.suited before.custody before.admission here calls isOver
    · obtain ⟨request, phase, phase', site, pool, held, effect, pools, tasks, -, -, -⟩ :=
        shift_of_move move
      rw [phase_of_becomes tasks] at here
      cases here
      obtain ⟨call, rfl, answer⟩ := calm_of_plain effect tasks before.suited plain isOver
      have there := ((phase?_before tasks).resolve_left fun asked => nomatch asked.1).2
      exact ⟨call, Or.inl there, answer⟩
  · have created := created_of_balanced balanced.1 balanced.2
    have bound := (counts _ fun early member => List.le_sum_of_mem
      (List.mem_map_of_mem (f := fun turn : Turn => turn.before.now) member)).created
    omega

def firstDialPanics : List Action :=
  [.makeDialer "dialer" (.scripted { plans := [{ ending := .panic "no port" }] }),
   .makePool "pool" (some 0) "" { maxActive := 1, wait := true },
   .checkout 0 {}, .checkout 0 {}, .giveBack 0 0]

theorem calm_once_made_firstDialPanics :
    ({} : Depot).returnsOwn 0 firstDialPanics = true ∧
      (({} : Depot).run firstDialPanics).phase? 0 = some (.finished (.panicked "no port")) ∧
      (({} : Depot).run firstDialPanics).phase? 1 = some (.finished (.checkedOut 0 0)) ∧
      ∀ first turn later, ({} : Depot).turns firstDialPanics = first ++ turn :: later →
        Calm 0 (first ++ [turn]) turn :=
  ⟨by decide, by decide, by decide, (calm_once_made (by decide)).2⟩

def tooMany : Limits := { maxActive := 2305843009213693952, wait := true }

theorem tooMany_makes_no_pool :
    Limits.read "\x7b\"max_active\":2305843009213693952,\"wait\":true\x7d" = .ok tooMany ∧
      Pool.open? "pool" none "" tooMany = none ∧
      (({} : Depot).run [.makePool "pool" none "" tooMany]).pools.length = 0 ∧
      (({} : Depot).run [.makeDirectory, .register 0 "pool" none "" tooMany]).pools.length = 0 :=
  ⟨by decide +kernel, by decide +kernel, by decide +kernel, by decide +kernel⟩

end Depot

end HandlePool
