import HandlePool.Proofs.Choice
import HandlePool.Proofs.Restock

namespace HandlePool

def Phase.reused? (id : PoolId) : Phase → Phase → Option HandleId
  | .scanning _ _, phase' => phase'.checkedOut? id
  | _, _ => none

def Turn.reuses? (id : PoolId) (turn : Turn) : Option HandleId :=
  turn.actor.bind fun task => (turn.before.stage task).reused? id (turn.after.stage task)

namespace Depot

variable {id view : PoolId} {depot next last : Depot} {task : TaskId} {request : Request}
  {phase phase' : Phase} {pool : Pool} {handle : HandleId} {actor : Option TaskId}
  {context : Context} {slot : Bool}

def AllUsable (id : PoolId) (depot : Depot) : Prop :=
  ∀ handle ∈ (depot.pool id).idle.toList, (depot.handle handle).usable = true

theorem nothing_pruned (usable : AllUsable id depot) :
    (depot.pool id).idleList.rdropWhile depot.isClosed = (depot.pool id).idleList := by
  rw [List.rdropWhile_eq_self_iff]
  intro there closed
  have last := usable _ (List.getLast_mem there)
  rw [unusable_of_closed closed] at last
  cases last

theorem reuses?_of_becomes (id : PoolId)
    (becomes : Becomes depot.tasks request task phase phase' next.tasks) :
    Turn.reuses? id ⟨some task, depot, next⟩ = phase.reused? id phase' := by
  simp [Turn.reuses?, stage_before becomes, stage_after becomes]

theorem lends_of_effect (becomes : Becomes depot.tasks request task phase phase' next.tasks)
    (effect : Effect depot task request id phase phase' pool) (isOpen : pool.closed = false)
    (nothing : Turn.puts? id ⟨some task, depot, next⟩ = none) (usable : AllUsable id depot) :
    (depot.pool id).idleList =
      (Turn.reuses? id ⟨some task, depot, next⟩).toList ++ pool.idleList := by
  rw [reuses?_of_becomes id becomes]
  cases effect with
  | aside apart apart' =>
      cases phase with
      | scanning => cases apart
      | _ => rfl
  | pass grant =>
      rw [idle_of_grant grant, nothing_pruned usable]
      cases grant <;> rfl
  | reuse taken =>
      rw [(Pool.takeNewest_eq_some taken).1]
      rw [Phase.reused?, checkedOut?_own]
      rfl
  | reject taken unusable =>
      have found := usable _ (by
        rw [← Pool.idleList, (Pool.takeNewest_eq_some taken).1]
        exact List.mem_cons_self)
      rw [unusable] at found
      cases found
  | giveBack asks =>
      rw [puts?_of_becomes id becomes, if_pos rfl, asks, Request.putInto?, if_pos rfl] at nothing
      cases nothing
  | discard =>
      rw [idleList_releaseSlot]
      rfl
  | shut => cases isOpen
  | deny | unconfigured =>
      rw [Phase.reused?, checkedOut?_refused _ _ rfl, Pool.idleList_handBack]
      rfl
  | refuse | panic | letGo =>
      rw [Pool.idleList_handBack]
      rfl
  | abandon held =>
      rw [Pool.idleList_handBack]
      rcases held with rfl | ⟨handle, due, rfl⟩ <;> rfl
  | turnedAway | queue | bounce | quit | leave | dial | connect | rescan => rfl

theorem lends_of_move (turn : Turn) (move : Move view turn.before turn.actor turn.after)
    (there : id < turn.before.pools.length) (isOpen : (turn.after.pool id).closed = false)
    (nothing : turn.puts? id = none) (usable : AllUsable id turn.before) :
    (turn.before.pool id).idleList = (turn.reuses? id).toList ++ (turn.after.pool id).idleList := by
  obtain ⟨actor, depot, next⟩ := turn
  dsimp only at move there isOpen usable ⊢
  cases (touch_of_move move : Touch id depot actor next) with
  | missing outside => exact absurd outside (Nat.not_le_of_lt there)
  | fresh outside => exact absurd outside (Nat.not_le_of_lt there)
  | still same tasks =>
      have stays (task : TaskId) : next.stage task = depot.stage task := by
        rw [stage, phase?, tasks]
        rfl
      cases actor with
      | none => rw [same]; rfl
      | some task =>
          rw [same, Turn.reuses?, Option.bind_some, stays]
          cases depot.stage task <;> rfl
  | other who same becomes apart apart' plain =>
      rename_i task request phase phase'
      subst who
      have nothing : phase.reused? id phase' = none := by
        cases phase with
        | scanning => exact checkedOut?_eq_none apart'
        | _ => rfl
      rw [same, reuses?_of_becomes id becomes, nothing]
      rfl
  | own who inside becomes effect =>
      subst who
      exact lends_of_effect becomes effect isOpen nothing usable

def TakesNewest (id : PoolId) (turn : Turn) : Prop :=
  ∀ task slot newest older, turn.actor = some task →
    turn.before.stage task = .scanning id slot → turn.after.stage task ≠ .dropped →
    (turn.before.pool id).idle.toList = newest :: older →
      turn.after.stage task = .finished (.checkedOut id newest)

theorem takesNewest_of_move {turn : Turn} (move : Move view turn.before turn.actor turn.after)
    (there : id < turn.before.pools.length) (usable : AllUsable id turn.before) :
    TakesNewest id turn := by
  intro task slot newest older mine scanning kept entries
  rw [mine] at move
  have found := usable newest (by rw [entries]; exact List.mem_cons_self)
  have step := step_of_move move (begun_of_scans (Or.inl scanning)) kept
  rw [step?_scanning scanning, Option.some.injEq] at step
  rw [← step]
  exact (takes_of_usable there entries found scanning).out

structure HandsOut (id : PoolId) (start : Depot) (during : List Turn) (after : Depot) : Prop where
  idle : (start.pool id).idle.toList =
    during.filterMap (Turn.reuses? id) ++ (after.pool id).idle.toList
  takes : ∀ turn ∈ during, TakesNewest id turn

theorem handsOut_along {turns : List Turn} (chain : Chain view depot turns last)
    (there : id < depot.pools.length) (isOpen : (last.pool id).closed = false)
    (nothing : ∀ turn ∈ turns, turn.puts? id = none)
    (usable : ∀ turn ∈ turns, AllUsable id turn.before) : HandsOut id depot turns last := by
  induction chain with
  | nil depot => exact ⟨rfl, by simp⟩
  | cons move rest ih =>
      rename_i depot actor next turns last
      have usable' := usable _ List.mem_cons_self
      have first := lends_of_move ⟨actor, depot, next⟩ move there
        (rest.open_before isOpen) (nothing _ List.mem_cons_self) usable'
      obtain ⟨idle, takes⟩ := ih (Nat.lt_of_lt_of_le there (pools_grow move)) isOpen
        (fun turn member => nothing turn (List.mem_cons_of_mem _ member))
        fun turn member => usable turn (List.mem_cons_of_mem _ member)
      constructor
      · refine first.trans ((congrArg _ idle).trans ?_)
        cases found : Turn.reuses? id ⟨actor, depot, next⟩ with
        | none => rw [List.filterMap_cons_none found]; rfl
        | some handle => rw [List.filterMap_cons_some found]; rfl
      · intro turn member
        rcases List.mem_cons.mp member with rfl | later
        · exact takesNewest_of_move move there usable'
        · exact takes turn later

theorem advance_of_stuck (turns : Nat) (stuck : depot.step? task = none) :
    advance turns depot task = depot := by
  cases turns with
  | zero => rfl
  | succ turns => rw [advance, stuck]

theorem advance_unique {first second : Nat}
    (one : (advance first depot task).step? task = none)
    (two : (advance second depot task).step? task = none) :
    advance first depot task = advance second depot task := by
  induction first generalizing depot second with
  | zero => exact (advance_of_stuck second one).symm
  | succ first ih =>
      cases stepped : depot.step? task with
      | none => rw [advance_of_stuck _ stepped, advance_of_stuck _ stepped]
      | some next =>
          cases second with
          | zero =>
              rw [advance, stepped] at two
              cases two
          | succ second =>
              rw [advance, stepped] at one two ⊢
              rw [advance, stepped]
              exact ih one two

theorem poll_eq_advance (depot : Depot) (task : TaskId) :
    ∃ turns, depot.poll task = advance turns depot task := by
  unfold poll
  cases depot.tasks[task]? with
  | none => exact ⟨0, rfl⟩
  | some found => exact ⟨_, rfl⟩

theorem poll_step (stepped : depot.step? task = some next) : depot.poll task = next.poll task := by
  obtain ⟨first, polled⟩ := poll_eq_advance depot task
  obtain ⟨second, polled'⟩ := poll_eq_advance next task
  have stuck := step?_poll depot task
  have stuck' := step?_poll next task
  rw [polled] at stuck ⊢
  rw [polled'] at stuck' ⊢
  cases first with
  | zero =>
      rw [advance, stepped] at stuck
      cases stuck
  | succ first =>
      rw [advance, stepped] at stuck ⊢
      exact advance_unique stuck stuck'

theorem start_eq (depot : Depot) (request : Request) :
    depot.start request =
      ((depot.enroll depot.held request).answer depot.tasks.length request).poll
        depot.tasks.length := by
  have stepped : (depot.enroll depot.held request).step? depot.tasks.length =
      some ((depot.enroll depot.held request).answer depot.tasks.length request) := by
    rw [step?, tasks_enroll]
    rfl
  exact poll_step stepped

theorem stage_enrolled (tasks : next.tasks =
      (depot.tasks ++ [(⟨request, .asked⟩ : Task)]).modify depot.tasks.length
        ({ · with phase })) :
    next.stage depot.tasks.length = phase := by
  have entered := modify_enroll depot [] request phase
  rw [enroll] at entered
  rw [stage, phase?, tasks, entered, List.getElem?_concat_length]
  rfl

inductive Admits (id : PoolId) (context : Context) (depot : Depot) : Prop where
  | free (ungated : (depot.pool id).gate = none)
  | slot {gate} (gated : (depot.pool id).gate = some gate) (isOpen : gate.closed = false)
      (left : gate.free ≠ 0) (quiet : context.check depot.signals depot.now = none)

theorem interrupt_of_check {signals : Signals} {now : Nat}
    (quiet : context.check signals now = none) : context.interrupt signals now = none := by
  cases fired : context.interrupt signals now with
  | none => rfl
  | some abort =>
      rw [Context.check_of_interrupt fired] at quiet
      cases quiet

theorem stage_admitted {waited : Option Nat}
    (tasks : depot.tasks = next.tasks ++ [⟨request, .asked⟩]) :
    (depot.admitted next.tasks.length id slot waited).stage next.tasks.length =
      .scanning id slot := by
  apply stage_enrolled
  rw [← tasks]
  unfold admitted
  dsimp only
  split
  · rfl
  · rfl

theorem stage_checkout (admits : Admits id context depot) :
    ∃ slot, ((depot.enroll depot.held (.checkout id context)).checkout depot.tasks.length id
      context).stage depot.tasks.length = .scanning id slot := by
  unfold checkout
  cases admits with
  | free ungated =>
      have ungated : ((depot.enroll depot.held (.checkout id context)).pool id).gate = none :=
        ungated
      rw [ungated]
      exact ⟨false, stage_admitted rfl⟩
  | slot gated isOpen left quiet =>
      rename_i gate
      have gated : ((depot.enroll depot.held (.checkout id context)).pool id).gate = some gate :=
        gated
      have still : context.interrupt (depot.enroll depot.held (.checkout id context)).signals
          (depot.enroll depot.held (.checkout id context)).now = none := interrupt_of_check quiet
      rw [gated]
      dsimp only
      rw [still]
      dsimp only
      rw [isOpen, if_neg Bool.false_ne_true, if_neg left, passGate]
      split
      · exact ⟨true, stage_admitted rfl⟩
      · rename_i abort fired
        cases quiet.symm.trans fired

theorem move_of_start (view : PoolId) (depot : Depot) (id : PoolId) (context : Context) :
    Move view depot (some depot.tasks.length)
      ((depot.enroll depot.held (.checkout id context)).checkout depot.tasks.length id context) :=
  .begins (.plain rfl rfl) (moves_answer _ depot.tasks.length (.checkout id context)) rfl

theorem step?_of_over (isOver : (depot.stage task).isOver = true) : depot.step? task = none := by
  cases here : depot.stage task with
  | finished outcome =>
      obtain ⟨request, step⟩ := step?_of_stage here (by simp)
      exact step
  | dropped =>
      obtain ⟨request, step⟩ := step?_of_stage here (by simp)
      exact step
  | _ =>
      rw [here] at isOver
      cases isOver

theorem start_takes (there : id < depot.pools.length) (admits : Admits id context depot)
    {newest : HandleId} {older : List HandleId}
    (entries : (depot.pool id).idle.toList = newest :: older)
    (usable : (depot.handle newest).usable = true) :
    (depot.start (.checkout id context)).stage depot.tasks.length =
      .finished (.checkedOut id newest) := by
  obtain ⟨slot, scanning⟩ := stage_checkout admits
  have outside : (depot.stage depot.tasks.length).isInside id = false := by
    rw [stage_length]
    rfl
  obtain ⟨request, pool, waited, grant, pools, untouched⟩ :=
    pruned_of_move (move_of_start id depot id context) outside scanning
  have idle := idle_of_grant grant
  have entries' : (depot.pool id).idleList = [] ++ newest :: older := entries
  rw [← pool_set_same pools there, entries',
    rdropWhile_append_cons (not_closed_of_usable usable)] at idle
  have there' : id < _ := Nat.lt_of_lt_of_le there (pools_grow (move_of_start id depot id context))
  have same : ((depot.enroll depot.held (.checkout id context)).checkout depot.tasks.length id
      context).handle newest = depot.handle newest := by
    rw [Depot.handle, untouched.handles]
    rfl
  have takes := takes_of_usable there' idle (by rw [same]; exact usable) scanning
  rw [start_eq, answer, poll_step (step?_scanning scanning),
    poll_of_stuck (step?_of_over (by rw [takes.out]; rfl))]
  exact takes.out

theorem bookable_of_chain {turns : List Turn} (chain : Chain id {} turns depot)
    (there : id < depot.pools.length) : Bookable id depot :=
  ⟨there, (chain.keeps Slim.keeps (slim_empty id)).1,
    (chain.keeps admitting_of_move (admitting_empty id)).1,
    (chain.keeps books_keep ⟨custody_empty id, balanced_empty id⟩).1.2,
    (chain.keeps Owned.keeps owned_empty).1⟩

section

variable {actions : List Action} {earlier during later : List Turn}

theorem restocked_of_split (own : ({} : Depot).returnsOwn id actions = true)
    (split : ({} : Depot).turns actions = earlier ++ during ++ later)
    (there : id < (({} : Depot).reached earlier).pools.length)
    (isOpen : ((({} : Depot).reached (earlier ++ during)).pool id).closed = false)
    (quiet : ∀ turn ∈ during, turn.draws id = false) :
    Restocked id (({} : Depot).reached earlier) during
        (({} : Depot).reached (earlier ++ during)) ∧
      ∀ handle ∈ evictions id during, (({} : Depot).run actions).begun.count handle = 1 := by
  have chain := chain_turns id actions own resting_empty
  rw [split] at chain
  have restocked := restocked_along chain.front.back (bookable_of_chain chain.front.front there)
    quiet isOpen
  refine ⟨restocked, fun handle member => ?_⟩
  obtain ⟨begun, begins, evicted⟩ := restocked.begun
  have here : handle ∈ (({} : Depot).reached (earlier ++ during)).begun := by
    rw [begins]
    exact List.mem_append_right _ (evicted.subset member)
  have stays {depot next : Depot} {actor : Option TaskId} (move : Move id depot actor next)
      (here : handle ∈ depot.begun) : handle ∈ next.begun :=
    (flow_of_move move 0).begins.subset here
  have lasts := (chain.back.keeps stays here).1
  have owned := (chain.keeps Owned.keeps owned_empty).1
  exact List.count_eq_one_of_mem (exclusive_of_owned owned).closesOnce lasts

/-- No run ever leaves more idle handles in a pool than it may keep. Where what goes back to a pool
was checked out of it, and nobody takes from it meanwhile, the pool keeps the newest of what comes
back and was there, evicts the rest, oldest first, and no return fails. And as long as they stay
usable and nothing comes back, checkouts get the kept handles, newest first. -/
theorem newest_are_kept (id : PoolId) (actions : List Action) :
    (Slim id (({} : Depot).run actions) ∧
      ∀ turn ∈ ({} : Depot).turns actions, Slim id turn.before ∧ Slim id turn.after) ∧
    (({} : Depot).returnsOwn id actions = true →
      (GoWell id (({} : Depot).run actions) ∧
        ∀ turn ∈ ({} : Depot).turns actions, GoWell id turn.after) ∧
      ∀ earlier during later, ({} : Depot).turns actions = earlier ++ during ++ later →
        id < (({} : Depot).reached earlier).pools.length →
        ((({} : Depot).reached (earlier ++ during)).pool id).closed = false →
        (∀ turn ∈ during, turn.draws id = false) →
          Restocked id (({} : Depot).reached earlier) during
              (({} : Depot).reached (earlier ++ during)) ∧
            ∀ handle ∈ evictions id during,
              (({} : Depot).run actions).begun.count handle = 1) ∧
    (∀ earlier during later, ({} : Depot).turns actions = earlier ++ during ++ later →
      id < (({} : Depot).reached earlier).pools.length →
      ((({} : Depot).reached (earlier ++ during)).pool id).closed = false →
      (∀ turn ∈ during, turn.puts? id = none) →
      (∀ turn ∈ during, AllUsable id turn.before) →
        HandsOut id (({} : Depot).reached earlier) during
          (({} : Depot).reached (earlier ++ during))) ∧
    ∀ context newest older, id < (({} : Depot).run actions).pools.length →
      Admits id context (({} : Depot).run actions) →
      ((({} : Depot).run actions).pool id).idle.toList = newest :: older →
      ((({} : Depot).run actions).handle newest).usable = true →
        ((({} : Depot).run actions).start (.checkout id context)).stage
            (({} : Depot).run actions).tasks.length =
          .finished (.checkedOut id newest) := by
  obtain ⟨view, chain⟩ := exists_chain actions
  refine ⟨chain.keeps Slim.keeps (slim_empty id), fun own => ⟨?_, ?_⟩, ?_, ?_⟩
  · obtain ⟨last, turns⟩ := (chain_turns id actions own resting_empty).keeps GoWell.keeps
      ⟨admitting_empty id, goWell_empty id⟩
    exact ⟨last.2, fun turn member => (turns turn member).2.2⟩
  · intro earlier during later split there isOpen quiet
    exact restocked_of_split own split there isOpen quiet
  · intro earlier during later split there isOpen nothing usable
    rw [split] at chain
    exact handsOut_along chain.front.back there isOpen nothing usable
  · intro context newest older there admits entries usable
    exact start_takes there admits entries usable

end

def restocked : List Action :=
  [.makeDialer "dialer" (.counted {}), .makePool "pool" (some 0) "" { maxIdle := 1 },
   .checkout 0 {}, .checkout 0 {}, .checkout 0 {}, .giveBack 0 1, .giveBack 0 0, .checkout 0 {}]

theorem newest_are_kept_restocked :
    ∃ earlier during later, ({} : Depot).turns restocked = earlier ++ during ++ later ∧
      Restocked 0 (({} : Depot).reached earlier) during
        (({} : Depot).reached (earlier ++ during)) ∧
      putBack 0 during = [1, 0] ∧ evictions 0 during = [1] ∧
      ((({} : Depot).reached (earlier ++ during)).pool 0).idle.toList = [0] ∧
      (({} : Depot).run restocked).stage 5 = .finished (.checkedOut 0 0) := by
  have split : ({} : Depot).turns restocked =
      (({} : Depot).turns restocked).take 11 ++
        ((({} : Depot).turns restocked).drop 11).take 3 ++
        (({} : Depot).turns restocked).drop 14 := by
    rw [← List.take_add, List.take_append_drop]
  refine ⟨_, _, _, split, ((newest_are_kept 0 restocked).2.1 (by decide)).2 _ _ _ split
    (by decide) (by decide) (by decide) |>.1, by decide, by decide, by decide, by decide⟩

end Depot

end HandlePool
