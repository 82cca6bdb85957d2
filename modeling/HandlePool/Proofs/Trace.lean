import HandlePool.Proofs.OwnTurns

namespace HandlePool

def Pool.slotCount (pool : Pool) : Nat := (pool.gate.map Gate.slots).getD 0

def Phase.ownsSlot (id : PoolId) (phase : Phase) : Bool := phase.slot? id == some true

def Refusal.isAbort : Refusal → Bool
  | .cancelled _ | .expired _ => true
  | _ => false

namespace Depot

variable {id site : PoolId} {depot next : Depot} {task : TaskId} {request : Request}
  {context : Context} {phase phase' : Phase} {pool : Pool} {gate : Gate}

theorem Entry.fruitless {before after : Figures} {dial dial' : Nat}
    (entry : Entry before after dial dial' 0 0) (fits : before.idle + dial ≤ before.active) :
    after.created = before.created ∧
      after.active + before.idle + dial = before.active + after.idle + dial' ∧
      after.destroyed + after.idle = before.destroyed + before.idle := by
  cases entry with
  | kept => exact ⟨rfl, rfl, rfl⟩
  | reserved =>
      refine ⟨rfl, ?_, rfl⟩
      dsimp only
      omega
  | culled count enough =>
      refine ⟨rfl, ?_, ?_⟩
      · dsimp only
        omega
      · dsimp only
        omega
  | undone =>
      refine ⟨rfl, ?_, rfl⟩
      dsimp only
      omega

/-- Idle handles that are gone were dead: the oldest ones closed, the newest one not usable. -/
def RemovesDead (depot : Depot) (before after : Pool) : Prop :=
  ∃ newer older, before.idleList = newer ++ after.idleList ++ older ∧
    (∀ handle ∈ newer, (depot.handle handle).usable = false) ∧
    ∀ handle ∈ older, depot.isClosed handle = true

theorem removesDead_of_same {before after : Pool} (same : after.idleList = before.idleList) :
    RemovesDead depot before after :=
  ⟨[], [], by simp [same], by simp, by simp⟩

theorem removesDead_of_prune (passed : Pool) (same : passed.idleList = pool.idleList)
    (waited : Option Nat) :
    RemovesDead depot pool ((passed.recordWait waited).prune depot.isClosed).1 := by
  have recorded : (passed.recordWait waited).idleList = pool.idleList := by
    rw [← same, Pool.recordWait_eq]
    rfl
  refine ⟨[], (passed.recordWait waited).stale depot.isClosed, ?_, by simp, ?_⟩
  · rw [← recorded, List.nil_append]
    exact Pool.idleList_split _ _
  · intro handle
    exact Pool.closed_of_mem_stale _ _

theorem removesDead_of_effect
    (effect : Effect depot task (.checkout id context) id phase phase' pool)
    (uses : phase = .asked ∨ phase.stake? = some id) (fruitless : phase'.checkedOut? id = none) :
    RemovesDead depot (depot.pool id) pool := by
  cases effect with
  | pass grant =>
      cases grant with
      | free => exact removesDead_of_prune (depot.pool id) rfl _
      | taken => exact removesDead_of_prune ((depot.pool id).changeGate Gate.take) rfl _
      | collected => exact removesDead_of_prune ((depot.pool id).changeGate (·.collect task)) rfl _
  | reuse =>
      rw [checkedOut?_own] at fruitless
      cases fruitless
  | connect =>
      rw [checkedOut?_own] at fruitless
      cases fruitless
  | reject taken unusable goes dead =>
      rename_i slot handle rest
      obtain ⟨entries, -⟩ := Pool.takeNewest_eq_some taken
      refine ⟨[handle], [], ?_, ?_, by simp⟩
      · rw [entries]
        simp
      · intro other member
        rw [List.mem_singleton.mp member]
        exact unusable
  | giveBack asks => cases asks
  | discard asks => cases asks
  | shut => rcases uses with asked | shows <;> contradiction
  | deny | unconfigured | refuse | panic | letGo | abandon =>
      exact removesDead_of_same (Pool.idleList_handBack _ _ _)
  | aside | turnedAway | queue | bounce | quit | leave | dial | rescan =>
      exact removesDead_of_same rfl

theorem closed_of_effect (effect : Effect depot task request id phase phase' pool) :
    pool.closed = (depot.pool id).closed ∨
      (∃ pools, phase = .shutting pools) ∧ pool.closed = true := by
  cases effect with
  | shut => exact Or.inr ⟨⟨_, rfl⟩, rfl⟩
  | pass grant => cases grant <;> simp
  | reuse taken =>
      rw [(Pool.takeNewest_eq_some taken).2]
      exact Or.inl rfl
  | reject taken =>
      rw [(Pool.takeNewest_eq_some taken).2]
      exact Or.inl rfl
  | giveBack asks goes =>
      rename_i handle
      rw [Pool.releaseSlot_eq, ((depot.pool id).shelve_books handle).2]
      exact Or.inl rfl
  | discard =>
      rw [Pool.releaseSlot_eq]
      exact Or.inl rfl
  | deny | unconfigured | refuse | panic | letGo | abandon =>
      exact Or.inl (Pool.closed_handBack _ _ _)
  | aside | turnedAway | queue | bounce | quit | leave | dial | rescan | connect => exact Or.inl rfl

theorem closed_lasts {actor : Option TaskId} {view : PoolId} (move : Move view depot actor next)
    (closed : (depot.pool id).closed = true) : (next.pool id).closed = true := by
  have there : ¬ depot.pools.length ≤ id := by
    intro outside
    rw [depot.pool_of_length_le outside] at closed
    cases closed
  cases touch_of_move move with
  | missing outside => exact absurd outside there
  | fresh outside => exact absurd outside there
  | still same => rw [same]; exact closed
  | other who same => rw [same]; exact closed
  | own who inside becomes effect =>
      rcases closed_of_effect effect with same | ⟨-, now⟩
      · exact same.trans closed
      · exact now

theorem waits_of_effect (effect : Effect depot task request id phase phase' pool) :
    (pool.waitCount = (depot.pool id).waitCount ∧ pool.waitTime = (depot.pool id).waitTime) ∨
      (∃ context since, phase = .queued id context since) ∧ phase'.isInside id = true := by
  cases effect with
  | pass grant =>
      cases grant with
      | free => exact Or.inl ⟨rfl, rfl⟩
      | taken => exact Or.inl ⟨rfl, rfl⟩
      | collected => exact Or.inr ⟨⟨_, _, rfl⟩, isInside_of_slot? (slot?_scanning _)⟩
  | reuse taken =>
      rw [(Pool.takeNewest_eq_some taken).2]
      exact Or.inl ⟨rfl, rfl⟩
  | reject taken =>
      rw [(Pool.takeNewest_eq_some taken).2]
      exact Or.inl ⟨rfl, rfl⟩
  | giveBack asks goes =>
      rename_i handle
      rw [Pool.releaseSlot_eq, ((depot.pool id).shelve_books handle).2]
      exact Or.inl ⟨rfl, rfl⟩
  | discard =>
      rw [Pool.releaseSlot_eq]
      exact Or.inl ⟨rfl, rfl⟩
  | shut =>
      rw [Pool.shut_books]
      exact Or.inl ⟨rfl, rfl⟩
  | deny | unconfigured | refuse | panic | letGo | abandon =>
      exact Or.inl ⟨Pool.waitCount_handBack _ _ _, Pool.waitTime_handBack _ _ _⟩
  | aside | turnedAway | queue | bounce | quit | leave | dial | rescan | connect =>
      exact Or.inl ⟨rfl, rfl⟩

theorem gate_of_effect
    (effect : Effect depot task (.checkout id context) id phase phase' pool)
    (uses : phase = .asked ∨ phase.stake? = some id) (before : phase.isInside id = false)
    (after : phase'.isInside id = false) :
    ∃ change : Gate → Gate, pool = (depot.pool id).changeGate change ∧
      ∀ gate, (depot.pool id).gate = some gate → (change gate).slots = gate.slots := by
  have still : ∃ change : Gate → Gate, depot.pool id = (depot.pool id).changeGate change ∧
      ∀ gate, (depot.pool id).gate = some gate → (change gate).slots = gate.slots :=
    ⟨fun gate => gate, ((depot.pool id).changeGate_same).symm, fun _ _ => rfl⟩
  cases effect with
  | aside => exact still
  | turnedAway => exact still
  | queue => exact ⟨(·.enqueue task), rfl, fun _ _ => rfl⟩
  | bounce asks gated isOpen left =>
      refine ⟨fun gate => gate.take.release, rfl, fun other gated' => ?_⟩
      cases gated.symm.trans gated'
      rw [Gate.slots_release, Gate.slots_take left]
  | quit => exact ⟨(·.leave task), rfl, fun _ _ => Gate.slots_leave⟩
  | leave => exact ⟨(·.leave task), rfl, fun _ _ => Gate.slots_leave⟩
  | pass =>
      rw [isInside_of_slot? (slot?_scanning _)] at after
      cases after
  | reuse | reject | deny | unconfigured | dial =>
      rw [isInside_of_slot? (slot?_scanning _)] at before
      cases before
  | connect | refuse | panic | letGo =>
      rw [isInside_of_slot? (slot?_dialing _ _)] at before
      cases before
  | rescan =>
      rw [isInside_of_slot? (slot?_rescanning _ _ _)] at before
      cases before
  | abandon held =>
      rcases held with rfl | ⟨handle, due, rfl⟩
      · rw [isInside_of_slot? (slot?_scanning _)] at before
        cases before
      · rw [isInside_of_slot? (slot?_rescanning _ _ _)] at before
        cases before
  | giveBack asks => cases asks
  | discard asks => cases asks
  | shut => rcases uses with asked | shows <;> contradiction

theorem past_of_effect (effect : Effect depot task request site phase phase' pool)
    (inside : phase.isInside id = true) : phase'.isInside id = true ∨ phase'.isOver = true := by
  have shows : phase.stake? = some id := by
    by_contra apart
    rw [isInside_of_apart apart] at inside
    cases inside
  have here := site_of_effect effect (Or.inr shows)
  subst here
  cases effect with
  | aside apart =>
      rw [apart] at shows
      cases shows
  | pass | rescan => exact Or.inl (isInside_of_slot? (slot?_scanning _))
  | dial => exact Or.inl (isInside_of_slot? (slot?_dialing _ _))
  | reject taken unusable goes =>
      rcases goes with rfl | ⟨due, rfl⟩
      · exact Or.inl (isInside_of_slot? (slot?_scanning _))
      · exact Or.inl (isInside_of_slot? (slot?_rescanning _ _ _))
  | queue | giveBack | discard | shut => cases shows
  | _ => exact Or.inr rfl

def Past (id : PoolId) (task : TaskId) (depot : Depot) : Prop :=
  (depot.phase? task).any (fun phase => phase.isInside id || phase.isOver) = true

theorem past_lasts {actor : Option TaskId} {view : PoolId} (move : Move view depot actor next)
    (past : Past id task depot) : Past id task next := by
  by_cases mine : actor = some task
  · subst mine
    obtain ⟨phase, there, reached⟩ := (Option.any_eq_true _ _).mp past
    obtain ⟨request, before, phase', site, pool, held, effect, pools, tasks, -⟩ :=
      shift_of_move move
    rw [Past, phase?_of_becomes tasks, if_pos rfl, Option.any_some]
    have unfinished := unfinished_of_move move there
    rcases phase?_before tasks with ⟨-, absent⟩ | ⟨-, here⟩
    · rw [absent] at there
      cases there
    · rw [here] at there
      cases there
      rw [unfinished, Bool.or_false] at reached
      rw [Bool.or_eq_true]
      exact past_of_effect effect reached
  · rw [Past, phase?_of_others move mine]
    exact past

theorem abort_of_effect (effect : Effect depot task (.checkout id context) id phase phase' pool)
    {refusal : Refusal} (abort : refusal.isAbort = true)
    (isOver : phase' = .finished (.refused refusal)) :
    phase = .asked ∨ ∃ context since, phase = .queued id context since := by
  cases effect with
  | aside apart apart' begun plain served => exact absurd isOver (served refusal)
  | turnedAway => exact Or.inl rfl
  | bounce => exact Or.inl rfl
  | quit => exact Or.inr ⟨_, _, rfl⟩
  | deny empty why =>
      cases refused_of_overflowOr isOver
      unfold Pool.refusal? at why
      split at why
      · cases why
        cases abort
      · split at why
        · cases why
          cases abort
        · cases why
  | unconfigured =>
      cases refused_of_overflowOr isOver
      cases abort
  | refuse =>
      cases refused_of_overflowOr isOver
      cases abort
  | panic => cases refused_of_overflowOr isOver
  | reject taken unusable goes => rcases goes with rfl | ⟨due, rfl⟩ <;> cases isOver
  | giveBack asks => cases asks
  | discard asks => cases asks
  | _ => cases isOver

structure CheckoutTurn (id : PoolId) (context : Context) (task : TaskId) (turn : Turn)
    (phase phase' : Phase) (pool : Pool) : Prop where
  becomes : Becomes turn.before.tasks (.checkout id context) task phase phase' turn.after.tasks
  effect : Effect turn.before task (.checkout id context) id phase phase' pool
  pools : turn.after.pools = turn.before.pools.set id pool
  uses : phase = .asked ∨ phase.stake? = some id

theorem checkoutTurn_of_mem {last : Depot} {turns : List Turn} {turn : Turn} {final : Phase}
    (chain : Chain id depot turns last) (own : turn ∈ ownTurns task turns)
    (suited : Suited turn.before)
    (called : last.tasks[task]? = some ⟨.checkout id context, final⟩) :
    ∃ phase phase' pool, CheckoutTurn id context task turn phase phase' pool ∧
      (phase'.isOver = true → phase' = final) := by
  obtain ⟨member, mine⟩ := mem_ownTurns.mp own
  have move := chain.move_of_mem member
  obtain ⟨later, rest⟩ := chain.after_of_mem member
  rw [mine] at move
  obtain ⟨request, phase, phase', site, pool, held, effect, pools, tasks, -⟩ := shift_of_move move
  have now : CalledFor request task turn.after := ⟨phase', phase_of_becomes tasks⟩
  obtain ⟨phase_then, then_⟩ := (rest.keeps request_stays now).1
  rw [called] at then_
  cases then_
  have uses := uses_of_suited suited tasks
  have here := site_of_effect effect (uses.imp_left fun asked => ⟨asked, rfl⟩)
  subst here
  refine ⟨phase, phase', pool, ⟨tasks, effect, pools, uses⟩, fun isOver => ?_⟩
  have ended := (rest.none_of_over task (by rw [any_after tasks, isOver])).1
  rw [phase?_of_getElem? called, phase?_of_getElem? (phase_of_becomes tasks)] at ended
  exact (Option.some.inj ended).symm

def dials (id : PoolId) (task : TaskId) (depot : Depot) : Nat :=
  ((depot.phase? task).any (Phase.isDialing id)).toNat

def owns (id : PoolId) (task : TaskId) (depot : Depot) : Nat :=
  ((depot.phase? task).any (Phase.ownsSlot id)).toNat

theorem dials_le (id : PoolId) (task : TaskId) (depot : Depot) :
    dials id task depot ≤ depot.dialing id := by
  unfold dials
  cases dialing : (depot.phase? task).any (Phase.isDialing id) with
  | false => exact Nat.zero_le _
  | true =>
      obtain ⟨phase, there, counted⟩ := (Option.any_eq_true _ _).mp dialing
      exact census_pos there counted

structure Trace (id : PoolId) (task : TaskId) (turn : Turn) : Prop where
  created : (turn.after.pool id).created = (turn.before.pool id).created
  active : (turn.after.pool id).active + (turn.before.pool id).idleList.length +
      dials id task turn.before =
    (turn.before.pool id).active + (turn.after.pool id).idleList.length + dials id task turn.after
  destroyed : (turn.after.pool id).destroyed + (turn.after.pool id).idleList.length =
    (turn.before.pool id).destroyed + (turn.before.pool id).idleList.length
  removes : RemovesDead turn.before (turn.before.pool id) (turn.after.pool id)
  closed : (turn.after.pool id).closed = (turn.before.pool id).closed
  others : ∀ other, other ≠ id → turn.after.pool other = turn.before.pool other
  slots : (turn.after.pool id).closed = false →
    (turn.after.pool id).slotCount + owns id task turn.after =
      (turn.before.pool id).slotCount + owns id task turn.before
  waits : ((turn.after.pool id).waitCount = (turn.before.pool id).waitCount ∧
      (turn.after.pool id).waitTime = (turn.before.pool id).waitTime) ∨
    (∃ context since, turn.before.phase? task = some (.queued id context since)) ∧
      (turn.after.phase? task).any (Phase.isInside id) = true

theorem ownsSlot_of_apart (apart : phase.stake? ≠ some id) : phase.ownsSlot id = false := by
  rw [Phase.ownsSlot, slot?_of_apart apart]
  rfl

theorem ownsSlot_scanning : (Phase.scanning id false).ownsSlot id = false := by
  rw [Phase.ownsSlot, slot?_scanning]
  rfl

theorem trace_missing {turn : Turn} (mine : CheckoutTurn id context task turn phase phase' pool)
    (outside : turn.before.pools.length ≤ id) (before : Custody id turn.before)
    (after : Custody id turn.after) : Trace id task turn := by
  have outside' : turn.after.pools.length ≤ id := by
    rw [mine.pools, List.length_set]
    exact outside
  have same : turn.after.pool id = turn.before.pool id := by
    rw [turn.after.pool_of_length_le outside', turn.before.pool_of_length_le outside]
  have dialed : dials id task turn.after = dials id task turn.before := by
    rw [dials, dials, any_missing before outside (fun _ => isDialing_of_apart) rfl,
      any_missing after outside' (fun _ => isDialing_of_apart) rfl]
  have owned : owns id task turn.after = owns id task turn.before := by
    rw [owns, owns, any_missing before outside (fun _ => ownsSlot_of_apart) ownsSlot_scanning,
      any_missing after outside' (fun _ => ownsSlot_of_apart) ownsSlot_scanning]
  exact {
    created := by rw [same]
    active := by rw [same, dialed]
    destroyed := by rw [same]
    removes := by
      rw [same]
      exact removesDead_of_same rfl
    closed := by rw [same]
    others := fun other apart => pool_set_other mine.pools apart.symm
    slots := fun _ => by rw [same, owned]
    waits := Or.inl (by rw [same]; exact ⟨rfl, rfl⟩) }

theorem ownsSlot_of_flag {flag : Bool}
    (flags : ∀ slot, phase.slot? id = some slot → slot = flag) :
    phase.ownsSlot id = (flag && phase.isInside id) := by
  unfold Phase.ownsSlot Phase.isInside
  cases found : phase.slot? id with
  | none => cases flag <;> rfl
  | some slot =>
      rw [flags slot found]
      cases flag <;> rfl

theorem slots_of_turn {turn : Turn} (mine : CheckoutTurn id context task turn phase phase' pool)
    (inside : id < turn.before.pools.length) (admission : Admission id turn.before)
    (admission' : Admission id turn.after) (fruitless : phase'.checkedOut? id = none)
    (isOpen : (turn.before.pool id).closed = false) :
    (turn.after.pool id).slotCount + owns id task turn.after =
      (turn.before.pool id).slotCount + owns id task turn.before := by
  have now := pool_set_same mine.pools inside
  obtain ⟨-, -, there⟩ := fixed_of_effect mine.effect
  have flags (slot : Bool) (found : phase.slot? id = some slot) :
      slot = (turn.before.pool id).gate.isSome := by
    rcases phase?_before mine.becomes with ⟨asked, -⟩ | ⟨-, here⟩
    · rw [asked] at found
      cases found
    · exact admission.flags task phase slot here found
  have flags' (slot : Bool) (found : phase'.slot? id = some slot) :
      slot = (turn.before.pool id).gate.isSome := by
    rw [← there, ← now]
    exact admission'.flags task phase' slot
      (phase?_of_getElem? (phase_of_becomes mine.becomes)) found
  rw [owns, owns, any_before mine.becomes rfl, any_after mine.becomes, ownsSlot_of_flag flags,
    ownsSlot_of_flag flags', now]
  cases gated : (turn.before.pool id).gate with
  | none =>
      rw [gated] at there
      have ungated : pool.gate = none := by simpa using there
      rw [Pool.slotCount, Pool.slotCount, gated, ungated]
      rfl
  | some gate =>
      have slots := admission.slots gate gated
      rw [gated] at flags
      obtain ⟨gate', gated', -, passage⟩ :=
        passage_of_effect mine.effect gated slots.orderly slots.alike flags
      -- A slot that leaves the gate goes to the task, and one that comes there was the task's.
      have moved := passage.slots.1 (slots.alike.trans isOpen)
      rw [fruitless, bringsBack_of_checkout rfl] at moved
      rw [Pool.slotCount, Pool.slotCount, gated, gated']
      exact moved

theorem trace_of_turn {turn : Turn} (mine : CheckoutTurn id context task turn phase phase' pool)
    (admitting : Admitting id turn.before) (admitting' : Admitting id turn.after)
    (balanced : Balanced id turn.before) (fruitless : phase'.checkedOut? id = none) :
    Trace id task turn := by
  by_cases inside : id < turn.before.pools.length
  · have now := pool_set_same mine.pools inside
    have conserved := conserved_of_balanced admitting.custody balanced
    have dialed : dials id task turn.before = (phase.isDialing id).toNat := by
      rw [dials, any_before mine.becomes rfl]
    have dialed' : dials id task turn.after = (phase'.isDialing id).toNat := by
      rw [dials, any_after mine.becomes]
    have entry := entry_of_effect mine.effect
    rw [fruitless, bringsBack_of_checkout rfl, ← dialed, ← dialed'] at entry
    have fits : (turn.before.pool id).idleList.length + dials id task turn.before ≤
        (turn.before.pool id).active := by
      have fewer := dials_le id task turn.before
      rw [conserved, Pool.size_idle]
      omega
    obtain ⟨created, active, destroyed⟩ := entry.fruitless fits
    have closed : pool.closed = (turn.before.pool id).closed := by
      rcases closed_of_effect mine.effect with same | ⟨⟨pools, shuts⟩, -⟩
      · exact same
      · rcases mine.uses with asked | shows
        · rw [shuts] at asked
          cases asked
        · rw [shuts] at shows
          cases shows
    rw [← now] at created active destroyed closed
    exact {
      created := created
      active := active
      destroyed := destroyed
      removes := by
        rw [now]
        exact removesDead_of_effect mine.effect mine.uses fruitless
      closed := closed
      others := fun other apart => pool_set_other mine.pools apart.symm
      slots := fun isOpen => slots_of_turn mine inside admitting.admission admitting'.admission
        fruitless (closed.symm.trans isOpen)
      waits := by
        rw [now]
        rcases waits_of_effect mine.effect with same | ⟨⟨context, since, rfl⟩, inside'⟩
        · exact Or.inl same
        · have here := (phase?_before mine.becomes).resolve_left (by simp)
          right
          refine ⟨⟨context, since, here.2⟩, ?_⟩
          rw [any_after mine.becomes, inside'] }
  · exact trace_missing mine (Nat.le_of_not_lt inside) admitting.custody admitting'.custody

end Depot

end HandlePool
