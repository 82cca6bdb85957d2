import HandlePool.Proofs.Scan

namespace HandlePool

def Request.putInto? (id : PoolId) : Request → Option HandleId
  | .giveBack pool handle => if pool = id then some handle else none
  | _ => none

def Request.draws (id : PoolId) : Request → Bool
  | .checkout pool _ | .discard pool _ => pool == id
  | _ => false

namespace Turn

def request? (turn : Turn) : Option Request :=
  turn.actor.bind fun task => turn.after.tasks[task]?.map (·.request)

def draws (id : PoolId) (turn : Turn) : Bool := turn.request?.any (·.draws id)

def puts? (id : PoolId) (turn : Turn) : Option HandleId :=
  if turn.actor.all (turn.before.stage · = .asked) then
    turn.request?.bind (·.putInto? id)
  else none

def evicts? (id : PoolId) (turn : Turn) : Option HandleId :=
  (turn.puts? id).bind fun _ => turn.actor.bind fun task => (turn.after.stage task).closing?

end Turn

namespace Pool

theorem shelve_of_slim {pool : Pool} (isOpen : pool.closed = false)
    (slim : pool.idleList.length ≤ pool.limits.maxIdle.toNat) (handle : HandleId) :
    (pool.shelve handle).1.idleList =
        (handle :: pool.idleList).take pool.limits.maxIdle.toNat ∧
      (pool.evicted handle).toList =
        (handle :: pool.idleList).drop pool.limits.maxIdle.toNat := by
  rcases pool.shelve_of_open handle isOpen with ⟨many, idle, same, kept⟩ | ⟨few, idle, same, kept⟩
  · have full : pool.limits.maxIdle.toNat = (handle :: pool.idleList).length - 1 := by
      rw [List.length_cons]
      omega
    have last := List.drop_length_sub_one (List.cons_ne_nil handle pool.idleList)
    rw [full, evicted, same, last, List.getLast?_eq_getLast_of_ne_nil (List.cons_ne_nil _ _),
      ← List.dropLast_eq_take]
    exact ⟨kept, rfl⟩
  · have all : (handle :: pool.idleList).length ≤ pool.limits.maxIdle.toNat := few
    rw [evicted, same, List.take_of_length_le all, List.drop_of_length_le all]
    exact ⟨kept, rfl⟩

end Pool

namespace Depot

def Slim (id : PoolId) (depot : Depot) : Prop :=
  (depot.pool id).idleList.length ≤ (depot.pool id).limits.maxIdle.toNat

variable {id view site : PoolId} {depot next last : Depot} {task : TaskId} {request : Request}
  {phase phase' : Phase} {pool : Pool} {handle : HandleId} {actor : Option TaskId}

theorem idle_of_effect (effect : Effect depot task request id phase phase' pool) :
    pool.idleList.Sublist (depot.pool id).idleList ∨
      ∃ handle, request = .giveBack id handle ∧
        pool = ((depot.pool id).shelve handle).1.releaseSlot := by
  cases effect with
  | giveBack asks => exact Or.inr ⟨_, asks, rfl⟩
  | pass grant => exact Or.inl (sublist_grant grant)
  | reuse taken =>
      rw [(Pool.takeNewest_eq_some taken).1]
      exact Or.inl (List.sublist_cons_self _ _)
  | reject taken =>
      rw [(Pool.takeNewest_eq_some taken).1]
      exact Or.inl (List.sublist_cons_self _ _)
  | discard =>
      rw [Pool.releaseSlot_eq]
      exact Or.inl (List.Sublist.refl _)
  | shut =>
      rw [Pool.idleList, Pool.idle_shut]
      exact Or.inl (List.nil_sublist _)
  | deny | unconfigured | refuse | panic | letGo | abandon =>
      rw [Pool.idleList_handBack]
      exact Or.inl (List.Sublist.refl _)
  | aside | turnedAway | queue | bounce | quit | leave | dial | connect | rescan =>
      exact Or.inl (List.Sublist.refl _)

theorem idleList_releaseSlot (pool : Pool) : pool.releaseSlot.idleList = pool.idleList := by
  rw [Pool.releaseSlot_eq]
  rfl

theorem slim_of_effect (effect : Effect depot task request id phase phase' pool)
    (slim : Slim id depot) : pool.idleList.length ≤ pool.limits.maxIdle.toNat := by
  rw [(fixed_of_effect effect).limits]
  rcases idle_of_effect effect with fewer | ⟨handle, -, rfl⟩
  · exact Nat.le_trans fewer.length_le slim
  · rw [idleList_releaseSlot]
    cases closed : (depot.pool id).closed with
    | true =>
        rw [Pool.shelve_of_closed _ _ closed]
        exact slim
    | false =>
        rw [(Pool.shelve_of_slim closed slim handle).1]
        exact List.length_take_le _ _

theorem Slim.keeps (move : Move view depot actor next) (slim : Slim id depot) : Slim id next := by
  unfold Slim at *
  cases (touch_of_move move : Touch id depot actor next) with
  | missing outside outside' =>
      rw [next.pool_of_length_le outside']
      exact Nat.zero_le _
  | fresh outside fresh =>
      obtain ⟨name, dialer, parameter, limits, gate, made⟩ := fresh.made
      rw [made]
      exact Nat.zero_le _
  | still same =>
      rw [same]
      exact slim
  | other who same =>
      rw [same]
      exact slim
  | own who inside becomes effect => exact slim_of_effect effect slim

theorem slim_empty (id : PoolId) : Slim id {} := Nat.zero_le _

theorem request?_of_becomes
    (becomes : Becomes depot.tasks request task phase phase' next.tasks) :
    Turn.request? ⟨some task, depot, next⟩ = some request := by
  simp [Turn.request?, phase_of_becomes becomes]

theorem puts?_of_becomes (id : PoolId)
    (becomes : Becomes depot.tasks request task phase phase' next.tasks) :
    Turn.puts? id ⟨some task, depot, next⟩ =
      if phase = .asked then request.putInto? id else none := by
  simp [Turn.puts?, stage_before becomes, request?_of_becomes becomes]

theorem evicts?_of_becomes (id : PoolId)
    (becomes : Becomes depot.tasks request task phase phase' next.tasks) :
    Turn.evicts? id ⟨some task, depot, next⟩ =
      (Turn.puts? id ⟨some task, depot, next⟩).bind fun _ => phase'.closing? := by
  simp [Turn.evicts?, stage_after becomes]

inductive Restocks (id : PoolId) (turn : Turn) : Prop where
  | still (nothing : turn.puts? id = none) (same : turn.after.pool id = turn.before.pool id)
  | puts {handle : HandleId} (back : turn.puts? id = some handle)
      (shelves : turn.after.pool id = ((turn.before.pool id).shelve handle).1.releaseSlot)
      (evicts : turn.evicts? id = (turn.before.pool id).evicted handle)
      (begins : turn.after.begun =
        turn.before.begun ++ ((turn.before.pool id).evicted handle).toList)

theorem putInto?_of_returnedTo? (nothing : request.returnedTo? id = none) :
    request.putInto? id = none := by
  cases request with
  | giveBack site handle =>
      simpa [Request.putInto?, Request.returnedTo?, Request.returned?] using nothing
  | _ => rfl

theorem calm_of_beginning (effect : Effect depot task request id .asked phase' pool)
    (becomes : Becomes depot.tasks request task .asked phase' next.tasks)
    (admitting : Admitting id depot) (custody' : Custody id next) (message : String) :
    phase' ≠ .finished (.panicked message) := by
  intro panics
  obtain ⟨call, from_ | ⟨slot, from_⟩, -⟩ :=
    calm_of_effect effect becomes admitting.custody custody' admitting.admission panics
  · cases from_
  · cases from_

theorem unstaked_of_undrawn (suited : Suited depot)
    (becomes : Becomes depot.tasks request task phase phase' next.tasks)
    (undrawn : request.draws id = false) : phase.stake? ≠ some id := by
  intro shows
  rcases before_of_becomes becomes with ⟨rfl, -⟩ | ⟨-, here⟩
  · cases shows
  · obtain ⟨context, rfl⟩ := (suited task _ here).uses id shows
    rw [Request.draws, beq_self_eq_true] at undrawn
    cases undrawn

theorem restocks_of_effect
    (quiet : Turn.draws id ⟨some task, depot, next⟩ = false)
    (becomes : Becomes depot.tasks request task phase phase' next.tasks)
    (effect : Effect depot task request id phase phase' pool) (now : next.pool id = pool)
    (begun : next.begun = depot.begun ++ phase'.closing?.toList) (isOpen : pool.closed = false)
    (admitting : Admitting id depot) (custody' : Custody id next) :
    Restocks id ⟨some task, depot, next⟩ := by
  have undrawn : request.draws id = false := by
    rw [Turn.draws, request?_of_becomes becomes] at quiet
    exact quiet
  have unasked {context : Context} (asks : request = .checkout id context) : False := by
    rw [asks, Request.draws, beq_self_eq_true] at undrawn
    cases undrawn
  have unstaked := unstaked_of_undrawn admitting.suited becomes undrawn
  have calm (asked : phase = .asked) : phase' ≠ .finished (.panicked Gate.overflowText) := by
    subst asked
    exact calm_of_beginning effect becomes admitting custody' _
  have puts := puts?_of_becomes id becomes
  have evicts := evicts?_of_becomes id becomes
  cases effect with
  | aside apart apart' begun' plain =>
      refine .still ?_ now
      rw [puts]
      split
      · rename_i asked
        cases request with
        | giveBack => cases plain asked
        | _ => rfl
      · rfl
  | giveBack asks goes =>
      rename_i handle
      cases asks
      have back : Turn.puts? id ⟨some task, depot, next⟩ = some handle := by
        rw [puts, if_pos rfl, Request.putInto?, if_pos rfl]
      rw [back, Option.bind_some] at evicts
      have evicted : phase'.closing? = (depot.pool id).evicted handle := by
        rcases goes with ⟨overflow, rfl⟩ | ⟨kept, rfl⟩ | ⟨oldest, due, given, rfl⟩
        · exact absurd rfl (calm rfl)
        · exact kept.symm
        · exact given.symm
      exact .puts back now (evicts.trans evicted) (by rw [← evicted]; exact begun)
  | discard asks =>
      rw [asks, Request.draws, beq_self_eq_true] at undrawn
      cases undrawn
  | shut => cases isOpen
  | turnedAway asks | queue asks | bounce asks => exact (unasked asks).elim
  | pass grant =>
      cases grant with
      | free asks | taken asks => exact (unasked asks).elim
      | collected => exact (unstaked rfl).elim
  | abandon held => rcases held with rfl | ⟨handle, due, rfl⟩ <;> exact (unstaked rfl).elim
  | _ => exact (unstaked rfl).elim

theorem restocks_of_move {turn : Turn} (move : Move id turn.before turn.actor turn.after)
    (there : id < turn.before.pools.length) (quiet : turn.draws id = false)
    (isOpen : (turn.after.pool id).closed = false) (admitting : Admitting id turn.before) :
    Restocks id turn := by
  obtain ⟨actor, depot, next⟩ := turn
  dsimp only at move there isOpen admitting
  cases actor with
  | none =>
      cases (touch_of_move move : Touch id depot none next) with
      | missing outside => exact absurd outside (Nat.not_le_of_lt there)
      | fresh outside => exact absurd outside (Nat.not_le_of_lt there)
      | still same => exact .still rfl same
      | other who => cases who
      | own who => cases who
  | some task =>
      obtain ⟨request, phase, phase', site, pool, held, effect, pools, becomes, -⟩ :=
        shift_of_move move
      by_cases here : site = id
      · subst here
        have now := pool_set_same pools there
        rw [now] at isOpen
        exact restocks_of_effect quiet becomes effect now
          (begun_of_deed (deed_of_move move becomes)) isOpen admitting
          (admitting_of_move move admitting).custody
      · refine .still ?_ (pool_set_other pools here)
        rw [puts?_of_becomes id becomes]
        split
        · rename_i asked
          exact putInto?_of_returnedTo? ((stakes_of_effect effect here).2.2 asked)
        · rfl

def putBack (id : PoolId) (turns : List Turn) : List HandleId := turns.filterMap (Turn.puts? id)

def evictions (id : PoolId) (turns : List Turn) : List HandleId :=
  turns.filterMap (Turn.evicts? id)

/-- What has become of a pool into which handles were put back and from which none was taken. -/
structure Restocked (id : PoolId) (start : Depot) (during : List Turn) (after : Depot) : Prop where
  idle : (after.pool id).idle.toList =
    ((putBack id during).reverse ++ (start.pool id).idle.toList).take
      (start.pool id).limits.maxIdle.toNat
  evicted : evictions id during =
    (((putBack id during).reverse ++ (start.pool id).idle.toList).drop
      (start.pool id).limits.maxIdle.toNat).reverse
  active : (after.pool id).active + (evictions id during).length = (start.pool id).active
  destroyed : (after.pool id).destroyed =
    (start.pool id).destroyed + (evictions id during).length
  gate : (after.pool id).gate = (start.pool id).gate.map Gate.release^[(putBack id during).length]
  begun : ∃ begun, after.begun = start.begun ++ begun ∧ (evictions id during).Sublist begun
  once : after.begun.Nodup
  limits : (after.pool id).limits = (start.pool id).limits

theorem take_append_take {Item : Type} (front back : List Item) (count : Nat) :
    (front ++ back.take count).take count = (front ++ back).take count := by
  rw [List.take_append, List.take_append, List.take_take, Nat.min_eq_left (Nat.sub_le _ _)]

theorem drop_append_take {Item : Type} (front back : List Item) (count : Nat) :
    (front ++ back).drop count = (front ++ back.take count).drop count ++ back.drop count := by
  have whole := List.take_append_drop count back
  by_cases few : back.length ≤ count
  · rw [List.drop_of_length_le few, List.take_of_length_le few, List.append_nil]
  · conv => lhs; rw [← whole, ← List.append_assoc]
    apply List.drop_append_of_le_length
    rw [List.length_append, List.length_take]
    omega

theorem Restocked.append {start : Depot} {first later : List Turn}
    (one : Restocked id start first depot) (two : Restocked id depot later next) :
    Restocked id start (first ++ later) next := by
  have evictions_eq : evictions id (first ++ later) = evictions id first ++ evictions id later :=
    List.filterMap_append
  have putBack_eq : putBack id (first ++ later) = putBack id first ++ putBack id later :=
    List.filterMap_append
  have active := one.active
  have active' := two.active
  have destroyed := one.destroyed
  have destroyed' := two.destroyed
  constructor
  · rw [two.idle, one.limits, one.idle, take_append_take, putBack_eq, List.reverse_append,
      List.append_assoc]
  · rw [evictions_eq, two.evicted, one.limits, one.evicted, one.idle, ← List.reverse_append,
      ← drop_append_take, putBack_eq, List.reverse_append, List.append_assoc]
  · rw [evictions_eq, List.length_append]
    omega
  · rw [evictions_eq, List.length_append]
    omega
  · rw [two.gate, one.gate, Option.map_map, ← Function.iterate_add, putBack_eq,
      List.length_append, Nat.add_comm]
  · obtain ⟨begun, same, holds⟩ := one.begun
    obtain ⟨begun', same', holds'⟩ := two.begun
    refine ⟨begun ++ begun', ?_, ?_⟩
    · rw [same', same, List.append_assoc]
    · rw [evictions_eq]
      exact holds.append holds'
  · exact two.once
  · exact two.limits.trans one.limits

theorem restocked_still {turns : List Turn} (slim : Slim id depot) (owned : Owned next)
    (puts : putBack id turns = []) (evicts : evictions id turns = [])
    (same : next.pool id = depot.pool id) (begins : depot.begun <+: next.begun) :
    Restocked id depot turns next := by
  obtain ⟨begun, begins⟩ := begins
  constructor
  · rw [puts, same]
    exact (List.take_of_length_le slim).symm
  · rw [puts, evicts, List.reverse_nil, List.nil_append]
    exact (congrArg List.reverse (List.drop_of_length_le slim)).symm
  · rw [evicts, same]
    rfl
  · rw [evicts, same]
    rfl
  · rw [puts, same]
    exact (congrFun Option.map_id _).symm
  · rw [evicts]
    exact ⟨begun, begins.symm, List.nil_sublist _⟩
  · exact (exclusive_of_owned owned).closesOnce
  · rw [same]

structure Bookable (id : PoolId) (depot : Depot) : Prop where
  there : id < depot.pools.length
  slim : Slim id depot
  admitting : Admitting id depot
  balanced : Balanced id depot
  owned : Owned depot

theorem Bookable.keeps (move : Move id depot actor next) (bookable : Bookable id depot) :
    Bookable id next where
  there := Nat.lt_of_lt_of_le bookable.there (pools_grow move)
  slim := bookable.slim.keeps move
  admitting := admitting_of_move move bookable.admitting
  balanced := (balanced_of_move move bookable.admitting.custody bookable.balanced).1
  owned := bookable.owned.keeps move

theorem restocked_of_put {turn : Turn} (slim : Slim id turn.before) (owned' : Owned turn.after)
    (isOpen : (turn.before.pool id).closed = false)
    (enough : (turn.after.pool id).destroyed - (turn.before.pool id).destroyed ≤
      (turn.before.pool id).active)
    (back : turn.puts? id = some handle)
    (shelves : turn.after.pool id = ((turn.before.pool id).shelve handle).1.releaseSlot)
    (evicts : turn.evicts? id = (turn.before.pool id).evicted handle)
    (begins : turn.after.begun =
      turn.before.begun ++ ((turn.before.pool id).evicted handle).toList) :
    Restocked id turn.before [turn] turn.after := by
  have puts_eq : putBack id [turn] = [handle] := by
    rw [putBack, List.filterMap_cons_some back, List.filterMap_nil]
  have evictions_eq : evictions id [turn] = ((turn.before.pool id).evicted handle).toList := by
    rw [evictions, ← evicts]
    cases found : turn.evicts? id with
    | none => rw [List.filterMap_cons_none found]; rfl
    | some oldest => rw [List.filterMap_cons_some found]; rfl
  obtain ⟨idle, evicted⟩ := Pool.shelve_of_slim isOpen slim handle
  have books := ((turn.before.pool id).shelve_books handle).2
  have stays : ((turn.before.pool id).shelve handle).1.closed = false := by
    rw [books]
    exact isOpen
  have now : turn.after.pool id =
      ((turn.before.pool id).shelve handle).1.changeGate Gate.release := by
    rw [shelves, Pool.releaseSlot_eq, stays]
    rfl
  rw [now] at enough
  constructor
  · rw [now, puts_eq]
    exact idle
  · rw [evictions_eq, puts_eq]
    cases found : (turn.before.pool id).evicted handle with
    | none => exact congrArg List.reverse (found ▸ evicted)
    | some oldest => exact congrArg List.reverse (found ▸ evicted)
  · rw [evictions_eq, now, books]
    apply Nat.sub_add_cancel
    rw [books] at enough
    exact Nat.le_trans (Nat.le_of_eq (Nat.add_sub_cancel_left _ _).symm) enough
  · rw [evictions_eq, now, books]
    rfl
  · rw [now, books, puts_eq]
    rfl
  · rw [evictions_eq]
    exact ⟨_, begins, List.Sublist.refl _⟩
  · exact (exclusive_of_owned owned').closesOnce
  · rw [now, books]
    rfl

theorem restocked_of_move (turn : Turn) (move : Move id turn.before turn.actor turn.after)
    (bookable : Bookable id turn.before) (quiet : turn.draws id = false)
    (isOpen : (turn.after.pool id).closed = false) :
    Restocked id turn.before [turn] turn.after := by
  have before : (turn.before.pool id).closed = false := by
    cases closed : (turn.before.pool id).closed with
    | false => rfl
    | true =>
        rw [closed_lasts move closed] at isOpen
        cases isOpen
  have owned' : Owned turn.after := bookable.owned.keeps move
  cases restocks_of_move move bookable.there quiet isOpen bookable.admitting with
  | still nothing same =>
      refine restocked_still bookable.slim owned' ?_ ?_ same (flow_of_move move 0).begins
      · rw [putBack, List.filterMap_cons_none nothing, List.filterMap_nil]
      · rw [evictions, List.filterMap_cons_none (by rw [Turn.evicts?, nothing]; rfl),
          List.filterMap_nil]
  | puts back shelves evicts begins =>
      have enough := (balanced_of_move move bookable.admitting.custody bookable.balanced).2.2
      exact restocked_of_put bookable.slim owned' before enough back shelves evicts begins

theorem Chain.open_before {turns : List Turn} (chain : Chain view depot turns last)
    (isOpen : (last.pool id).closed = false) : (depot.pool id).closed = false := by
  cases closed : (depot.pool id).closed with
  | false => rfl
  | true =>
      rw [(chain.keeps closed_lasts closed).1] at isOpen
      cases isOpen

theorem restocked_along {turns : List Turn} (chain : Chain id depot turns last)
    (bookable : Bookable id depot) (quiet : ∀ turn ∈ turns, turn.draws id = false)
    (isOpen : (last.pool id).closed = false) : Restocked id depot turns last := by
  induction chain with
  | nil depot =>
      exact restocked_still bookable.slim bookable.owned rfl rfl rfl (List.prefix_refl _)
  | cons move rest ih =>
      have first := restocked_of_move ⟨_, _, _⟩ move bookable
        (quiet _ List.mem_cons_self) (rest.open_before isOpen)
      exact first.append (ih (bookable.keeps move)
        (fun turn member => quiet turn (List.mem_cons_of_mem _ member)) isOpen)

def GoesWell (phase : Phase) : Prop :=
  (∃ pool oldest due, phase = .closing pool oldest due .conclude) ∨
    phase = .finished .completed ∨ phase = .dropped

def GoWell (id : PoolId) (depot : Depot) : Prop :=
  ∀ (task : TaskId) handle phase, depot.tasks[task]? = some ⟨.giveBack id handle, phase⟩ →
    GoesWell phase

theorem goesWell_of_effect
    (effect : Effect depot task (.giveBack id handle) id .asked phase' pool)
    (calm : phase' ≠ .finished (.panicked Gate.overflowText)) : GoesWell phase' := by
  cases effect with
  | aside apart apart' begun plain => cases plain rfl
  | giveBack asks goes =>
      rcases goes with ⟨-, panics⟩ | ⟨-, rfl⟩ | ⟨oldest, due, -, rfl⟩
      · exact absurd panics calm
      · exact Or.inr (Or.inl rfl)
      · exact Or.inl ⟨id, oldest, due, rfl⟩
  | pass grant => cases grant with
    | free asks | taken asks => cases asks
  | abandon held => rcases held with held | ⟨other, due, held⟩ <;> cases held
  | turnedAway asks | queue asks | bounce asks | discard asks => cases asks

theorem goesWell_of_step (move : Move view depot (some task) next) {due : Option Nat}
    (closes : depot.stage task = .closing site handle due .conclude) :
    GoesWell (next.stage task) := by
  have begun : depot.stage task ≠ .asked := by rw [closes]; simp
  by_cases kept : next.stage task = .dropped
  · exact Or.inr (Or.inr kept)
  · have step := step_of_move move begun kept
    obtain ⟨request, goes⟩ := step?_of_stage closes (by simp)
    rw [goes, stepFrom] at step
    split at step
    · cases step
      refine Or.inr (Or.inl (stage_modify begun ?_))
      rw [resume, tasks_finish, (booked_endPoolClose depot site handle site).tasks]
    · cases step

theorem GoWell.keeps (move : Move id depot actor next)
    (kept : Admitting id depot ∧ GoWell id depot) : Admitting id next ∧ GoWell id next := by
  obtain ⟨admitting, well⟩ := kept
  refine ⟨admitting_of_move move admitting, ?_⟩
  intro task handle phase there
  by_cases mine : actor = some task
  · subst mine
    obtain ⟨request, before, after, site, pool, held, effect, pools, becomes, -⟩ :=
      shift_of_move move
    rw [phase_of_becomes becomes, Option.some.injEq, Task.mk.injEq] at there
    obtain ⟨rfl, rfl⟩ := there
    rcases before_of_becomes becomes with ⟨rfl, -⟩ | ⟨begun, here⟩
    · have site_eq : site = id := site_of_effect effect (Or.inl ⟨rfl, rfl⟩)
      subst site_eq
      exact goesWell_of_effect effect
        (calm_of_beginning effect becomes admitting (admitting_of_move move admitting).custody _)
    · rw [← stage_after becomes]
      rcases well task handle before here with ⟨site, oldest, due, closes⟩ | ended | ended
      · exact goesWell_of_step move ((stage_before becomes).trans closes)
      · have unfinished := unfinished_of_becomes becomes
        rw [ended] at unfinished
        cases unfinished
      · have unfinished := unfinished_of_becomes becomes
        rw [ended] at unfinished
        cases unfinished
  · rw [tasks_of_others move mine] at there
    exact well task handle phase there

theorem goWell_empty (id : PoolId) : GoWell id {} := by
  intro task handle phase there
  cases there

end Depot

end HandlePool
