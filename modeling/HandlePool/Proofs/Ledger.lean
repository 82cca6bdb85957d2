import HandlePool.Proofs.Supply

namespace HandlePool

/-- It refers only to dialers that are there, and a dialer that it makes has made nothing as yet. -/
def Action.isGrounded (depot : Depot) : Action → Bool
  | .makeDialer _ conduct => conduct.produced == 0
  | .makePool _ dialer _ _ | .register _ _ dialer _ _ => dialer.all (· < depot.dialers.length)
  | .dial dialer _ => dialer < depot.dialers.length
  | _ => true

namespace Turn

def dialsFor (id : PoolId) (turn : Turn) : Bool :=
  turn.actor.any fun task => (turn.before.stage task).isDialing id &&
    decide (turn.before.handles.length < turn.after.handles.length)

def isVain (turn : Turn) : Bool :=
  turn.actor.any fun task => (turn.before.stage task).call?.isSome &&
    (turn.after.stage task).got?.isNone

end Turn

namespace Depot

def grounded : Depot → List Action → Bool
  | _, [] => true
  | depot, action :: rest => action.isGrounded depot && grounded (depot.act action) rest

structure Grounded (turn : Turn) : Prop where
  makes : ∀ dialer ∈ turn.after.dialers.drop turn.before.dialers.length, dialer.produced = 0
  pools : ∀ pool ∈ turn.after.pools.drop turn.before.pools.length, ∀ dialer,
    pool.dialer = some dialer → dialer < turn.before.dialers.length
  calls : ∀ task ∈ turn.after.tasks.drop turn.before.tasks.length, ∀ dialer,
    task.request.dialer? = some dialer → dialer < turn.before.dialers.length

structure Named (depot : Depot) : Prop where
  pools : ∀ pool ∈ depot.pools, ∀ dialer, pool.dialer = some dialer →
    dialer < depot.dialers.length
  calls : ∀ task ∈ depot.tasks, ∀ dialer, task.request.dialer? = some dialer →
    dialer < depot.dialers.length

structure Reaches (actions : List Action) (first : List Turn) (depot : Depot) : Prop where
  begins : first <+: ({} : Depot).turns actions
  here : ({} : Depot).reached first = depot

/-- What a dial that ends without a handle leaves alone. -/
structure Uncounted (turn : Turn) : Prop where
  handles : turn.after.handles.length = turn.before.handles.length
  created : ∀ id, (turn.after.pool id).created = (turn.before.pool id).created
  destroyed : ∀ id, (turn.after.pool id).destroyed = (turn.before.pool id).destroyed
  idle : ∀ id, (turn.after.pool id).idle.toList = (turn.before.pool id).idle.toList
  away : ∀ id, (turn.after.away id).Perm (turn.before.away id)
  produced : ∀ dialer < turn.before.dialers.length,
    (turn.after.dialer dialer).produced = (turn.before.dialer dialer).produced
  dialed : ∀ dialer, turn.after.dialedWith dialer = turn.before.dialedWith dialer

variable {id site view : PoolId} {dialer : DialerId} {depot next last : Depot} {task : TaskId}
  {actor : Option TaskId} {request : Request} {phase phase' : Phase} {pool : Pool} {call : Call}

section Grounding

theorem grounded_of_same (tasks : next.tasks.length = depot.tasks.length)
    (pools : next.pools.length = depot.pools.length)
    (dialers : next.dialers.length = depot.dialers.length) : Grounded ⟨actor, depot, next⟩ := by
  constructor
  · simp [← dialers]
  · simp [← pools]
  · simp [← tasks]

theorem grounded_of_moves (moves : depot.Moves task request phase next)
    (acts : depot.Acts task request phase next) : Grounded ⟨actor, depot, next⟩ := by
  obtain ⟨phase', id, pool, tasks, held, pools, effect⟩ := moves
  obtain ⟨later, -, deed⟩ := acts
  apply grounded_of_same
  · rw [tasks, List.length_modify]
  · rw [pools, List.length_set]
  · exact dialers_of_deed deed

theorem grounded_stepTurns (turns : Nat) (depot : Depot) (task : TaskId) :
    ∀ turn ∈ stepTurns turns depot task, Grounded turn := by
  induction turns generalizing depot with
  | zero => simp [stepTurns]
  | succ turns ih =>
      unfold stepTurns
      split
      · simp
      · rename_i next stepped
        intro turn member
        rcases List.mem_cons.mp member with rfl | later
        · obtain ⟨found, -, step⟩ := Option.bind_eq_some_iff.mp stepped
          exact grounded_of_moves (moves_stepFrom step) (acts_stepFrom step)
        · exact ih next turn later

theorem grounded_pollTurns (depot : Depot) (task : TaskId) :
    ∀ turn ∈ depot.pollTurns task, Grounded turn := by
  unfold pollTurns
  split
  · simp
  · exact grounded_stepTurns _ depot task

theorem grounded_startTurns {held : List Holding}
    (known : ∀ dialer, request.dialer? = some dialer → dialer < depot.dialers.length) :
    ∀ turn ∈ depot.startTurns held request, Grounded turn := by
  have moves := moves_answer (depot.enroll held request) depot.tasks.length request
  obtain ⟨later, -, deed⟩ := acts_answer (depot.enroll held request) depot.tasks.length request
  obtain ⟨turns, next, answers, first, -⟩ := depot.startTurns_eq held request
  rw [← answers] at moves deed
  rw [first]
  intro turn member
  rcases List.mem_cons.mp member with rfl | later
  · obtain ⟨phase, -, tasks⟩ := tasks_of_answer moves
    obtain ⟨phase', id, pool, -, -, pools, -⟩ := moves
    have dialers : next.dialers.length = depot.dialers.length := (dialers_of_deed deed).trans rfl
    have length : next.pools.length = depot.pools.length := by
      rw [pools, List.length_set]
      rfl
    constructor
    · simp [← dialers]
    · simp [← length]
    · simpa [tasks] using known
  · exact grounded_stepTurns turns next depot.tasks.length turn later

theorem grounded_surrenderTurns {place : Nat} {called : HandleId → Request}
    (plain : ∀ handle, (called handle).dialer? = none) :
    ∀ turn ∈ depot.surrenderTurns place called, Grounded turn := by
  unfold surrenderTurns
  split
  · simp
  · apply grounded_startTurns
    intro dialer asks
    rw [plain] at asks
    cases asks

theorem grounded_dropTurns (resting : depot.Resting) :
    ∀ turn ∈ depot.dropTurns task, Grounded turn := by
  unfold dropTurns
  split
  · simp
  · rename_i phase here
    obtain ⟨found, there, rfl⟩ := Option.map_eq_some_iff.mp here
    split
    · simp
    · rename_i unfinished
      have unfinished : found.phase.isOver = false := by simpa using unfinished
      intro turn member
      obtain rfl := List.mem_singleton.mp member
      have dropped : depot.drop task = (depot.undo task found.phase).enter task .dropped := by
        simp [drop, here, unfinished]
      rw [dropped]
      exact grounded_of_moves
        (moves_drop depot task found.request (begun_of_resting resting there) unfinished)
        (acts_drop depot task found.request found.phase)

theorem grounded_addPool? {added : Depot} {name parameter : String} {dialer : Option DialerId}
    {limits : Limits} (known : dialer.all (· < depot.dialers.length) = true)
    (made : depot.addPool? name dialer parameter limits = some added) :
    Grounded ⟨actor, depot, added⟩ := by
  obtain ⟨pool, opened, rfl⟩ := Option.map_eq_some_iff.mp made
  have same : pool.dialer = dialer := by
    unfold Pool.open? at opened
    split at opened
    · obtain ⟨gate, -, rfl⟩ := Option.map_eq_some_iff.mp opened
      rfl
    · cases opened
      rfl
  constructor
  · simp
  · simp only [List.drop_left, List.mem_singleton, forall_eq]
    intro given asks
    rw [same] at asks
    simpa [asks] using known
  · simp

theorem grounded_register {directory : DirectoryId} {key parameter : String}
    {dialer : Option DialerId} {limits : Limits}
    (known : dialer.all (· < depot.dialers.length) = true) :
    Grounded ⟨actor, depot, (depot.register directory key dialer parameter limits).2⟩ := by
  have registers := depot.registering directory key dialer parameter limits
  generalize depot.register directory key dialer parameter limits = answered at registers ⊢
  cases registers with
  | found | failed => exact grounded_of_same rfl rfl rfl
  | made absent opens =>
      have made : (depot.note (.registered key)).addPool? key dialer parameter limits = some _ :=
        congrArg (Option.map _) opens
      have noted : Grounded ⟨actor, depot.note (.registered key), _⟩ :=
        grounded_addPool? known made
      exact ⟨noted.makes, noted.pools, noted.calls⟩

theorem grounded_turnsOf {action : Action} (grounded : action.isGrounded depot = true)
    (resting : depot.Resting) : ∀ turn ∈ depot.turnsOf action, Grounded turn := by
  have one {next : Depot} (alone : Grounded ⟨none, depot, next⟩) :
      ∀ turn ∈ [(⟨none, depot, next⟩ : Turn)], Grounded turn := by
    intro turn member
    obtain rfl := List.mem_singleton.mp member
    exact alone
  cases action with
  | checkout pool context => exact grounded_startTurns (by simp [Request.dialer?])
  | shut pool => exact grounded_startTurns (by simp [Request.dialer?])
  | shutAll directory order => exact grounded_startTurns (by simp [Request.dialer?])
  | dial dialer parameter =>
      apply grounded_startTurns
      rintro called ⟨⟩
      exact of_decide_eq_true grounded
  | giveBack pool place => exact grounded_surrenderTurns fun _ => rfl
  | discard pool place => exact grounded_surrenderTurns fun _ => rfl
  | closeHeld place => exact grounded_surrenderTurns fun _ => rfl
  | poll task => exact grounded_pollTurns depot task
  | drop task => exact grounded_dropTurns resting
  | makeDialer name conduct =>
      refine one ⟨?_, by simp [act], by simp [act]⟩
      simpa [act, Action.isGrounded, Dialer.produced] using grounded
  | makePool name dialer parameter limits =>
      apply one
      simp only [act]
      cases made : depot.addPool? name dialer parameter limits with
      | none => exact grounded_of_same rfl rfl rfl
      | some added => exact grounded_addPool? grounded made
  | register directory key dialer parameter limits => exact one (grounded_register grounded)
  | changeScript | failNext | setDelay => exact one (grounded_of_same rfl rfl List.length_set)
  | runMonitors =>
      obtain ⟨tasks, -, pools, dialers⟩ := depot.runMonitors_same
      exact one (grounded_of_same (by rw [act, tasks]) (by rw [act, pools]) (by rw [act, dialers]))
  | _ => exact one (grounded_of_same rfl rfl rfl)

theorem grounded_turns {actions : List Action} (own : depot.returnsOwn view actions = true)
    (grounded : depot.grounded actions = true) (resting : depot.Resting) :
    ∀ turn ∈ depot.turns actions, Grounded turn := by
  induction actions generalizing depot with
  | nil => simp [turns]
  | cons action rest ih =>
      simp only [returnsOwn, Depot.grounded, Bool.and_eq_true] at own grounded
      obtain ⟨rests, -⟩ := chain_turnsOf action own.1 resting
      intro turn member
      rcases List.mem_append.mp member with first | later
      · exact grounded_turnsOf grounded.1 resting turn first
      · exact ih own.2 grounded.2 rests turn later

end Grounding

theorem mem_of_becomes {tasks tasks' : List Task} {entry : Task}
    (becomes : Becomes tasks request task phase phase' tasks') (member : entry ∈ tasks') :
    entry ∈ tasks'.drop tasks.length ∨ ∃ old ∈ tasks, old.request = entry.request := by
  cases becomes with
  | new =>
      rcases List.mem_append.mp member with old | added
      · exact Or.inr ⟨entry, old, rfl⟩
      · left
        rwa [List.drop_left]
  | old here begun unfinished =>
      right
      rcases List.mem_or_eq_of_mem_set member with old | rfl
      · exact ⟨entry, old, rfl⟩
      · exact ⟨_, List.mem_of_getElem? here, rfl⟩

theorem named_of_task (move : Move view depot (some task) next)
    (grounded : Grounded ⟨some task, depot, next⟩) (named : Named depot) : Named next := by
  obtain ⟨request, phase, phase', site, pool, held, effect, pools, tasks, -⟩ := shift_of_move move
  have length := dialers_of_deed (deed_of_move move tasks)
  constructor
  · intro changed member dialer uses
    rw [length]
    by_cases inside : site < depot.pools.length
    · rw [pools] at member
      rcases List.mem_or_eq_of_mem_set member with old | rfl
      · exact named.pools changed old dialer uses
      · rw [(fixed_of_effect effect).dialer] at uses
        apply named.pools (depot.pool site) _ dialer uses
        simp [Depot.pool, List.getD_eq_getElem?_getD, inside]
    · rw [pools, List.set_eq_of_length_le (Nat.le_of_not_lt inside)] at member
      exact named.pools changed member dialer uses
  · intro entry member dialer asks
    rw [length]
    rcases mem_of_becomes tasks member with added | ⟨old, there, same⟩
    · exact grounded.calls entry added dialer asks
    · exact named.calls old there dialer (same ▸ asks)

theorem dialers_outside {action : Action} (isOutside : action.isOutside = true) :
    depot.dialers.length ≤ (depot.act action).dialers.length ∧
      ∀ dialer < depot.dialers.length,
        ((depot.act action).dialer dialer).produced = (depot.dialer dialer).produced := by
  have same (dialers : (depot.act action).dialers = depot.dialers) :
      depot.dialers.length ≤ (depot.act action).dialers.length ∧
        ∀ dialer < depot.dialers.length,
          ((depot.act action).dialer dialer).produced = (depot.dialer dialer).produced := by
    refine ⟨Nat.le_of_eq (by rw [dialers]), fun dialer _ => ?_⟩
    rw [Depot.dialer, dialers]
    rfl
  have changed (id : DialerId) {change : Dialer → Dialer}
      (keeps : ∀ dialer : Dialer, (change dialer).produced = dialer.produced) :
      depot.dialers.length ≤ (depot.changeDialer id change).dialers.length ∧
        ∀ dialer < depot.dialers.length,
          ((depot.changeDialer id change).dialer dialer).produced =
            (depot.dialer dialer).produced :=
    ⟨Nat.le_of_eq List.length_set.symm, fun dialer _ =>
      produced_changeDialer depot id dialer keeps⟩
  cases action with
  | makeDialer name conduct =>
      refine ⟨by simp [act], fun dialer inside => ?_⟩
      simp [act, Depot.dialer, List.getD_eq_getElem?_getD, List.getElem?_append_left inside]
  | changeScript id plans =>
      exact changed id fun dialer => dialer.produced_changeScript fun _ => rfl
  | failNext id count => exact changed id fun dialer => dialer.produced_changeCounter fun _ => rfl
  | setDelay id delay => exact changed id fun dialer => dialer.produced_changeCounter fun _ => rfl
  | makePool id dialer parameter limits =>
      exact same (depot.untouched_addPool? id dialer parameter limits).dialers
  | register directory key dialer parameter limits =>
      exact same (depot.untouched_register directory key dialer parameter limits).dialers
  | runMonitors => exact same depot.runMonitors_same.2.2.2
  | checkout | giveBack | discard | closeHeld | dial | shut | shutAll | poll | drop =>
      cases isOutside
  | _ => exact same rfl

structure Supplied (depot : Depot) : Prop where
  calling : Calling depot
  named : Named depot
  agree : ∀ dialer < depot.dialers.length,
    (depot.dialer dialer).produced = depot.createdWith dialer + depot.dialedWith dialer

theorem createdWith_missing (named : Named depot) (outside : depot.dialers.length ≤ dialer) :
    depot.createdWith dialer = 0 := by
  apply List.sum_eq_zero_iff_forall_eq_nat.mpr
  intro share member
  obtain ⟨pool, there, rfl⟩ := List.mem_map.mp member
  exact if_neg fun uses => Nat.not_lt_of_le outside (named.pools pool there dialer uses)

theorem dialedWith_missing (named : Named depot) (outside : depot.dialers.length ≤ dialer) :
    depot.dialedWith dialer = 0 := by
  apply List.countP_eq_zero.mpr
  intro entry there dialed
  apply Nat.not_lt_of_le outside
  apply named.calls entry there dialer
  unfold Task.dialed at dialed
  split at dialed
  · exact congrArg some (beq_iff_eq.mp dialed)
  · cases dialed

theorem agree_of_task (move : Move view depot (some task) next) (supplied : Supplied depot)
    (inside : dialer < next.dialers.length) :
    (next.dialer dialer).produced = next.createdWith dialer + next.dialedWith dialer := by
  obtain ⟨request, phase, phase', site, pool, held, effect, pools, tasks, -⟩ := shift_of_move move
  have deed := deed_of_move move tasks
  rw [dialers_of_deed deed] at inside
  rw [produced_of_deed deed inside, supplied.agree dialer inside,
    createdWith_of_effect supplied.calling tasks effect pools dialer,
    dialedWith_of_effect supplied.calling tasks effect dialer]
  cases phase.isDialing site <;> simp <;> omega

theorem named_outside (move : Move view depot none next)
    (grounded : Grounded ⟨none, depot, next⟩) (named : Named depot) : Named next := by
  cases move with
  | outside resting tasks held pools acts =>
      obtain ⟨action, isOutside, rfl⟩ := acts
      have grown : depot.dialers.length ≤ (depot.act action).dialers.length :=
        (dialers_outside isOutside).1
      constructor
      · intro pool member dialer uses
        apply Nat.lt_of_lt_of_le _ grown
        rcases pools with same | ⟨added, fresh, same⟩
        · rw [same] at member
          exact named.pools pool member dialer uses
        · rw [same, List.mem_append] at member
          rcases member with old | new
          · exact named.pools pool old dialer uses
          · apply grounded.pools pool _ dialer uses
            rwa [same, List.drop_left]
      · intro entry member dialer asks
        rw [tasks] at member
        exact Nat.lt_of_lt_of_le (named.calls entry member dialer asks) grown

theorem agree_outside (move : Move view depot none next)
    (grounded : Grounded ⟨none, depot, next⟩) (supplied : Supplied depot)
    (inside : dialer < next.dialers.length) :
    (next.dialer dialer).produced = next.createdWith dialer + next.dialedWith dialer := by
  cases move with
  | outside resting tasks held pools acts =>
      obtain ⟨action, isOutside, rfl⟩ := acts
      have created : (depot.act action).createdWith dialer = depot.createdWith dialer := by
        rcases pools with same | ⟨pool, fresh, same⟩
        · rw [createdWith, same, createdWith]
        · obtain ⟨name, given, parameter, limits, gate, rfl⟩ := fresh.made
          rw [createdWith, same, createdWith]
          simp [Pool.share]
      have dialed : (depot.act action).dialedWith dialer = depot.dialedWith dialer := by
        rw [dialedWith, tasks, dialedWith]
      rw [created, dialed]
      by_cases older : dialer < depot.dialers.length
      · rw [(dialers_outside isOutside).2 dialer older]
        exact supplied.agree dialer older
      -- No pool and no caller could refer to a dialer that is made just now.
      · have new := Nat.le_of_not_lt older
        rw [createdWith_missing supplied.named new, dialedWith_missing supplied.named new]
        apply grounded.makes
        have here : ((depot.act action).dialers.drop depot.dialers.length)[
            dialer - depot.dialers.length]? = some ((depot.act action).dialer dialer) := by
          rw [List.getElem?_drop, Nat.add_sub_cancel' new]
          simp [Depot.dialer, List.getD_eq_getElem?_getD, inside]
        exact List.mem_of_getElem? here

theorem Supplied.keeps (move : Move view depot actor next)
    (grounded : Grounded ⟨actor, depot, next⟩) (supplied : Supplied depot) : Supplied next := by
  have calling := supplied.calling.keeps move
  cases actor with
  | some task =>
      exact ⟨calling, named_of_task move grounded supplied.named, fun dialer =>
        agree_of_task move supplied⟩
  | none =>
      exact ⟨calling, named_outside move grounded supplied.named, fun dialer =>
        agree_outside move grounded supplied⟩

theorem supplied_empty : Supplied {} := by
  refine ⟨calling_empty, ⟨?_, ?_⟩, ?_⟩
  · intro pool member
    cases member
  · intro entry member
    cases member
  · intro dialer inside
    cases inside

theorem created_of_becomes (calling : Calling depot)
    (becomes : Becomes depot.tasks request task phase phase' next.tasks)
    (effect : Effect depot task request site phase phase' pool)
    (pools : next.pools = depot.pools.set site pool) :
    (next.pool id).created =
      (depot.pool id).created + (phase.isDialing id && phase'.got?.isSome).toNat := by
  by_cases here : site = id
  · subst here
    by_cases inside : site < depot.pools.length
    · rw [pool_set_same pools inside]
      exact created_of_effect effect
    · have outside := Nat.le_of_not_lt inside
      have quiet : phase.isDialing site = false :=
        Bool.eq_false_iff.mpr fun dials => inside (inside_of_becomes calling becomes dials)
      rw [quiet, depot.pool_of_length_le outside,
        next.pool_of_length_le (by rw [pools, List.length_set]; exact outside)]
      rfl
  · rw [pool_set_other pools here, isDialing_of_apart (stakes_of_effect effect here).1]
    rfl

theorem grows_of_deed (deed : Deed depot request next phase phase')
    (calls : phase.call?.isSome = true) :
    decide (depot.handles.length < next.handles.length) = phase'.got?.isSome := by
  rcases fresh_of_deed deed with ⟨nothing, same⟩ | ⟨one, grown⟩
  · rw [Phase.fresh, if_pos calls, Option.toList_eq_nil_iff] at nothing
    rw [same, nothing]
    simp
  · rw [Phase.fresh, if_pos calls, Option.toList_eq_singleton_iff] at one
    rw [grown, one]
    simp

theorem created_of_move (calling : Calling depot) (move : Move view depot actor next) :
    (next.pool id).created =
      (depot.pool id).created + (Turn.dialsFor id ⟨actor, depot, next⟩).toNat := by
  cases actor with
  | none =>
      cases (touch_of_move move : Touch id depot none next) with
      | missing outside outside' =>
          rw [depot.pool_of_length_le outside, next.pool_of_length_le outside']
          rfl
      | fresh outside fresh =>
          rw [depot.pool_of_length_le outside]
          exact congrArg Figures.created (figures_fresh fresh)
      | still same =>
          rw [same]
          rfl
      | other who => cases who
      | own who => cases who
  | some task =>
      obtain ⟨request, phase, phase', site, pool, held, effect, pools, tasks, -⟩ :=
        shift_of_move move
      rw [created_of_becomes calling tasks effect pools, Turn.dialsFor, Option.any_some,
        stage_before tasks]
      cases dials : phase.isDialing id with
      | false => rfl
      | true =>
          obtain ⟨slot, call, rfl⟩ := isDialing_eq_true dials
          rw [grows_of_deed (deed_of_move move tasks) rfl]

theorem Chain.created_eq {turns : List Turn} (chain : Chain view depot turns last)
    (calling : Calling depot) :
    (last.pool id).created = (depot.pool id).created + turns.countP (Turn.dialsFor id) := by
  induction chain with
  | nil => rfl
  | cons move rest ih =>
      rename_i depot actor next turns last
      rw [ih (calling.keeps move), created_of_move calling move, List.countP_cons]
      cases Turn.dialsFor id ⟨actor, depot, next⟩ with
      | false => rfl
      | true =>
          simp only [Bool.toNat_true, if_true]
          omega

structure Kept (before after : Pool) : Prop where
  created : after.created = before.created
  destroyed : after.destroyed = before.destroyed
  idle : after.idleList = before.idleList

theorem kept_of_effect (effect : Effect depot task request site phase phase' pool)
    (calls : phase.call? = some call) (nothing : phase'.got? = none) :
    Kept (depot.pool site) pool := by
  cases effect with
  | aside => exact ⟨rfl, rfl, rfl⟩
  | refuse | panic | letGo => exact ⟨by simp, by simp, by simp⟩
  | connect => cases nothing
  | pass grant =>
      cases grant with
      | free => cases calls
      | taken => cases calls
      | collected => cases calls
  | abandon held => rcases held with rfl | ⟨handle, due, rfl⟩ <;> cases calls
  | _ => cases calls

theorem away_of_becomes (becomes : Becomes depot.tasks request task phase phase' next.tasks)
    (begun : phase ≠ .asked) (nothing : phase'.checkedOut? id = none) :
    (next.away id).Perm (depot.away id) := by
  have out := checkedOut_of_becomes id becomes
  have back := cameBack_of_becomes id becomes
  rw [nothing] at out
  rw [if_neg begun, List.append_nil] at back
  simp only [away, cameBack, back]
  exact out.diff_right _

theorem uncounted_of_move {turn : Turn} (move : Move view turn.before turn.actor turn.after)
    (calling : Calling turn.before) (vain : turn.isVain = true) : Uncounted turn := by
  obtain ⟨actor, depot, next⟩ := turn
  obtain ⟨task, rfl, ended⟩ := (Option.any_eq_true _ _).mp vain
  obtain ⟨request, phase, phase', site, pool, held, effect, pools, tasks, -⟩ := shift_of_move move
  have deed := deed_of_move move tasks
  rw [stage_before tasks, stage_after tasks, Bool.and_eq_true, Option.isNone_iff_eq_none] at ended
  obtain ⟨calls, nothing⟩ := ended
  obtain ⟨call, called⟩ := Option.isSome_iff_exists.mp calls
  have books (id : PoolId) : Kept (depot.pool id) (next.pool id) := by
    by_cases here : site = id
    · subst here
      rcases pool_of_set pools with now | now
      · rw [now]
        exact kept_of_effect effect called nothing
      · rw [now]
        exact ⟨rfl, rfl, rfl⟩
    · rw [pool_set_other pools here]
      exact ⟨rfl, rfl, rfl⟩
  have sourceless : phase.source? phase' = none := source?_of_none (Or.inr nothing)
  have freshless : phase.fresh phase' = [] := by simp [Phase.fresh, nothing]
  constructor
  · rcases fresh_of_deed deed with ⟨-, same⟩ | ⟨one, -⟩
    · exact same
    · rw [freshless] at one
      cases one
  · exact fun id => (books id).created
  · exact fun id => (books id).destroyed
  · exact fun id => (books id).idle
  · intro id
    exact away_of_becomes tasks (by rintro rfl; cases called) (checkedOut?_of_got? nothing)
  · intro dialer inside
    rw [produced_of_deed deed inside, sourceless]
    rfl
  · intro dialer
    rw [dialedWith_of_effect calling tasks effect dialer, sourceless]
    simp

theorem reaches_run (actions : List Action) :
    Reaches actions (({} : Depot).turns actions) (({} : Depot).run actions) := by
  obtain ⟨view, chain⟩ := exists_chain actions
  exact ⟨List.prefix_refl _, chain.reached_eq⟩

theorem Reaches.chain {actions : List Action} {first : List Turn}
    (reaches : Reaches actions first depot) (own : ({} : Depot).returnsOwn id actions = true) :
    Chain id {} first depot := by
  obtain ⟨⟨later, whole⟩, rfl⟩ := reaches
  have chain := chain_turns id actions own resting_empty
  rw [← whole] at chain
  exact chain.front

theorem Reaches.exists_chain {actions : List Action} {first : List Turn}
    (reaches : Reaches actions first depot) : ∃ view, Chain view {} first depot := by
  obtain ⟨view, large⟩ := returnsOwn_of_large actions
  exact ⟨view, reaches.chain (large view (Nat.le_refl _) {})⟩

theorem created_of_balanced (custody : Custody id depot) (balanced : Balanced id depot) :
    (depot.pool id).created = (depot.pool id).destroyed + (depot.pool id).idle.size +
      (depot.away id).length := by
  have handles := balanced.handles
  have away := length_away custody
  rw [Pool.size_idle]
  omega

/-- All along every run the two ledgers agree. A pool created as many handles as dials of it ended
with one, and those it did not destroy are idle or away if what goes back to it was checked out of
it. What a dialer made the pools and the callers that use it got, if the run refers to no dialer
before it is made. A dial that ends without a handle counts for nothing. -/
theorem dial_ledger {actions : List Action} {first : List Turn}
    (reaches : Reaches actions first depot) :
    (∀ id, (depot.pool id).created = first.countP (Turn.dialsFor id)) ∧
      (∀ id, ({} : Depot).returnsOwn id actions = true →
        (depot.pool id).created = (depot.pool id).destroyed + (depot.pool id).idle.size +
          (depot.away id).length) ∧
      (({} : Depot).grounded actions = true → ∀ dialer < depot.dialers.length,
        (depot.dialer dialer).produced =
          depot.createdWith dialer + depot.dialedWith dialer) ∧
      ∀ turn ∈ first, turn.isVain = true → Uncounted turn := by
  obtain ⟨view, large⟩ := returnsOwn_of_large actions
  have own := large view (Nat.le_refl _) {}
  have chain := reaches.chain own
  refine ⟨?_, ?_, ?_, ?_⟩
  · intro id
    rw [chain.created_eq calling_empty]
    exact Nat.zero_add _
  · intro id own
    obtain ⟨⟨custody, balanced⟩, -⟩ := (reaches.chain own).keeps books_keep
      ⟨custody_empty id, balanced_empty id⟩
    exact created_of_balanced custody balanced
  · intro grounded
    have all := grounded_turns own grounded resting_empty
    exact (chain.keeps_while Grounded (fun turn member => all turn (reaches.begins.subset member))
      Supplied.keeps supplied_empty).1.agree
  · intro turn member vain
    have calling := ((chain.keeps Calling.keeps calling_empty).2 turn member).1
    exact uncounted_of_move (chain.move_of_mem member) calling vain

def shared : List Action :=
  [.makeDialer "dialer" (.counted {}), .makePool "one" (some 0) "" { maxActive := 2 },
   .makePool "other" (some 0) "" { maxActive := 2 }, .checkout 0 {}, .checkout 1 {}, .dial 0 "",
   .failNext 0 1, .checkout 0 {}, .setDelay 0 1000, .checkout 1 {}, .drop 4, .giveBack 0 0,
   .discard 1 0]

theorem dial_ledger_shared :
    (({} : Depot).turns shared).countP Turn.isVain = 2 ∧
      ((({} : Depot).run shared).dialer 0).produced =
        (({} : Depot).run shared).createdWith 0 + (({} : Depot).run shared).dialedWith 0 ∧
      ((({} : Depot).run shared).dialer 0).produced = 3 ∧
      ((({} : Depot).run shared).pool 1).created =
        ((({} : Depot).run shared).pool 1).destroyed +
          ((({} : Depot).run shared).pool 1).idle.size +
          ((({} : Depot).run shared).away 1).length := by
  obtain ⟨-, handles, agree, -⟩ := dial_ledger (reaches_run shared)
  exact ⟨by decide, agree (by decide) 0 (by decide), by decide, handles 1 (by decide)⟩

end Depot

end HandlePool
