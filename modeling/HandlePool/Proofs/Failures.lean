import HandlePool.Proofs.Lockstep

namespace HandlePool

def Errand.next (pool : PoolId) : Errand → Phase
  | .rescan slot => .scanning pool slot
  | .conclude => .finished .completed
  | .drain rest later => .draining pool rest later

def Errand.events (task : TaskId) : Errand → List Event
  | .conclude => [.done task .completed]
  | _ => []

/-- If the turn ends a close by a pool, the task goes on with its errand, whether the close fails or
not. One that fails is noted once. -/
def Turn.GoesOn (turn : Turn) : Prop :=
  ∀ task pool handle due errand, turn.actor = some task →
    turn.before.phase? task = some (.closing pool handle due errand) →
    turn.after.phase? task = some .dropped ∧ turn.after.trace = turn.before.trace ∨
      turn.after.phase? task = some (errand.next pool) ∧
        turn.after.trace = turn.before.trace ++
          (Beat.poolClose pool handle).events turn.before.failure ++ errand.events task

/-- What the turn has to warn of: the close by a pool that ended in it, if that failed. -/
def Turn.failedCloses (turn : Turn) : List Note :=
  match turn.actor with
  | none => []
  | some task =>
      if turn.after.phase? task = some .dropped then []
      else turn.before.failedClose (turn.before.stage task)

structure Turn.Alike (one two : Turn) : Prop where
  actor : one.actor = two.actor
  before : Depot.Alike one.before two.before
  after : Depot.Alike one.after two.after

namespace Depot

variable {one two : Depot} {task : TaskId}

section Looking

variable {view : PoolId} {depot next : Depot} {request : Request} {phase phase' : Phase}
  {handle : HandleId}

theorem closeCalls_endDial (depot : Depot) (call : Call) (handle : HandleId) :
    ((depot.endDial call).2.handle handle).closeCalls = (depot.handle handle).closeCalls := by
  unfold endDial
  split
  rename_i ending dialer _
  cases ending with
  | connect fitting =>
      simp only [Depot.handle, addHandle, setDialer, List.getD_eq_getElem?_getD]
      rcases Nat.lt_trichotomy handle depot.handles.length with older | rfl | absent
      · rw [List.getElem?_append_left older]
      · rw [List.getElem?_concat_length, List.getElem?_eq_none (Nat.le_refl _)]
        rfl
      · rw [List.getElem?_eq_none (by simp; omega), List.getElem?_eq_none (by omega)]
  | refuse reason => rfl
  | panic message => rfl

theorem closeCalls_of_deed (deed : Deed depot request next phase phase') :
    (next.handle handle).closeCalls = (depot.handle handle).closeCalls ∨
      phase.closing? = some handle := by
  have same {mid : Depot} (rest : Untouched mid next) : next.handle handle = mid.handle handle := by
    rw [Depot.handle, rest.handles, Depot.handle]
  cases deed with
  | plain idle silent nothing rest => exact Or.inl (by rw [same rest])
  | beginsClose closes rest =>
      rw [same rest]
      exact Or.inl rfl
  | endsClose closed idle silent rest =>
      rename_i ended
      by_cases mine : ended = handle
      · exact Or.inr (mine ▸ closed)
      · left
        rw [same rest]
        simp only [endClose, changeHandle, setHandle, record, Depot.handle,
          List.getD_eq_getElem?_getD, List.getElem?_set_ne mine]
  | beginsDial calls who rest =>
      rw [same rest]
      exact Or.inl rfl
  | endsDial called isOver yields rest =>
      rw [same rest]
      exact Or.inl (closeCalls_endDial depot _ handle)

theorem closeCalls_outside {action : Action} (isOutside : action.isOutside = true) :
    ((depot.act action).handle handle).closeCalls = (depot.handle handle).closeCalls :=
  view_of_views Handle.closeCalls (views_outside _ isOutside (fun _ _ => rfl) fun handle => by
    rw [Handle.monitored_eq]) handle

theorem mem_closing {found : Task} (here : depot.tasks[task]? = some found)
    (closes : found.phase.closing? = some handle) : handle ∈ depot.closing :=
  List.mem_flatMap.mpr ⟨found, List.mem_of_getElem? here, by simp [closes]⟩

structure Tracked (depot : Depot) : Prop where
  owned : Owned depot
  ended : ∀ handle, (depot.handle handle).closeCalls ≠ 0 → handle ∈ depot.begun

theorem tracked_empty : Tracked {} := ⟨owned_empty, fun _ ended => absurd rfl ended⟩

theorem Tracked.keeps {actor : Option TaskId} (move : Move view depot actor next)
    (tracked : Tracked depot) : Tracked next := by
  refine ⟨tracked.owned.keeps move, fun handle ended => ?_⟩
  have lasts := (flow_of_move move handle).begins.subset
  have started (same : (next.handle handle).closeCalls = (depot.handle handle).closeCalls) :
      handle ∈ next.begun :=
    lasts (tracked.ended handle (same ▸ ended))
  cases actor with
  | none =>
      cases move with
      | outside resting tasks held pools acts =>
          obtain ⟨action, isOutside, rfl⟩ := acts
          exact started (closeCalls_outside isOutside)
  | some task =>
      obtain ⟨request, phase, phase', site, pool, held, effect, pools, tasks, -⟩ :=
        shift_of_move move
      rcases closeCalls_of_deed (deed_of_move move tasks) with same | closes
      · exact started same
      · rcases before_of_becomes tasks with ⟨rfl, -⟩ | ⟨-, here⟩
        · cases closes
        · exact lasts ((exclusive_of_owned tracked.owned).closing handle (mem_closing here closes))

variable (tracked : Tracked one) (alike : Alike one two)

include tracked

theorem Tracked.inside {found : Task} (here : one.tasks[task]? = some found)
    (closes : found.phase.closing? = some handle) : handle < one.handles.length := by
  have exclusive := exclusive_of_owned tracked.owned
  exact (exclusive.closed handle (exclusive.closing handle (mem_closing here closes))).dialed

include alike

theorem Tracked.agree (placed : ¬ one.Gone handle) : one.isClosed handle = two.isClosed handle := by
  -- A handle that has a place was never closed by anyone, so its flag is still the same.
  apply (alike.handle handle).closed
  left
  by_contra ended
  exact placed ((exclusive_of_owned tracked.owned).closed handle (tracked.ended handle ended))

theorem Tracked.agree_idle (id : PoolId) : Agree one two id := by
  intro handle member
  refine tracked.agree alike fun gone => gone.idle ?_
  by_cases inside : id < one.pools.length
  · refine List.mem_flatMap.mpr ⟨one.pool id, ?_, member⟩
    simp [Depot.pool, List.getD_eq_getElem?_getD, inside]
  · rw [one.pool_of_length_le (Nat.le_of_not_lt inside)] at member
    cases member

theorem Tracked.agree_held (member : handle ∈ one.heldHandles) :
    one.isClosed handle = two.isClosed handle :=
  tracked.agree alike fun gone => gone.held member

end Looking

theorem alike_step? (alike : Alike one two) (tracked : Tracked one)
    (begun : ∀ found, one.tasks[task]? = some found → found.phase ≠ .asked) :
    Option.Rel Alike (one.step? task) (two.step? task) := by
  have found := rel_getElem? alike.tasks task
  unfold step?
  generalize here : one.tasks[task]? = first at found ⊢
  generalize two.tasks[task]? = second at found ⊢
  cases found with
  | none => exact .none
  | some related =>
      rename_i first second
      simp only [Option.bind_some, ← related.request]
      exact alike_stepFrom alike related.phase (begun first here)
        (by rw [request?, here, Option.map_some]) (tracked.agree_idle alike)
        fun handle closes => tracked.inside here closes

theorem alike_stepTurns (turns : Nat) (alike : Alike one two) (tracked : Tracked one)
    (begun : ∀ found, one.tasks[task]? = some found → found.phase ≠ .asked) :
    List.Forall₂ Turn.Alike (stepTurns turns one task) (stepTurns turns two task) ∧
      Alike (advance turns one task) (advance turns two task) := by
  -- Only the first of the two has to be tracked; the second does as the first.
  induction turns generalizing one two with
  | zero => exact ⟨.nil, alike⟩
  | succ turns ih =>
      have steps := alike_step? alike tracked begun
      unfold stepTurns advance
      generalize stepped : one.step? task = first at steps ⊢
      generalize two.step? task = second at steps ⊢
      cases steps with
      | none => exact ⟨.nil, alike⟩
      | some goes =>
          obtain ⟨move, going⟩ := move_of_step? 0 stepped begun
          obtain ⟨later, last⟩ := ih goes (tracked.keeps move) going
          exact ⟨.cons ⟨rfl, alike, goes⟩ later, last⟩

theorem alike_poll (alike : Alike one two) (tracked : Tracked one) (resting : one.Resting) :
    List.Forall₂ Turn.Alike (one.pollTurns task) (two.pollTurns task) ∧
      Alike (one.poll task) (two.poll task) := by
  have found := rel_getElem? alike.tasks task
  unfold pollTurns poll
  generalize one.tasks[task]? = first at found ⊢
  generalize two.tasks[task]? = second at found ⊢
  cases found with
  | none => exact ⟨.nil, alike⟩
  | some related =>
      simp only [← related.request, ← alike_load alike related.phase]
      exact alike_stepTurns _ alike tracked fun found => begun_of_resting resting

theorem alike_start {view : PoolId} {held : List Holding} {request : Request}
    (alike : Alike one two) (tracked : Tracked one) (called : one.Called view request held) :
    List.Forall₂ Turn.Alike (one.startTurns held request) (two.startTurns held request) ∧
      Alike ((one.enroll held request).poll one.tasks.length)
        ((two.enroll held request).poll two.tasks.length) := by
  have enrolled := alike_enroll alike held request
  have length := alike.tasks.length_eq
  obtain ⟨turns, load⟩ := Nat.exists_eq_succ_of_ne_zero
    (Nat.ne_of_gt ((one.enroll held request).load_asked_pos request))
  have load' := (alike_load enrolled (.same (by simp))).symm.trans load
  have asked : (one.enroll held request).request? one.tasks.length = some request := by
    rw [request?, tasks_enroll, Option.map_some]
  have brought (handle : HandleId) (brings : request.handle? = some handle) :
      one.isClosed handle = two.isClosed handle := by
    cases called with
    | plain keeps bare =>
        rw [bare] at brings
        cases brings
    | surrendered there own holds =>
        rw [holds] at brings
        cases brings
        exact tracked.agree_held alike
          (List.mem_map.mpr ⟨_, List.mem_of_getElem? there, rfl⟩)
  have idle := tracked.agree_idle alike
  have answered := alike_answer enrolled asked idle brought
  have moves := moves_answer (one.enroll held request) one.tasks.length request
  obtain ⟨first, polled⟩ := startTurns_of_load load rfl
  obtain ⟨first', polled'⟩ := startTurns_of_load load' rfl
  obtain ⟨later, last⟩ := alike_stepTurns turns answered
    (tracked.keeps (.begins called moves rfl)) fun found => begun_of_answer moves
  rw [first, first', polled, polled', ← length]
  exact ⟨.cons ⟨rfl, alike, answered⟩ later, last⟩

theorem alike_surrender {view : PoolId} {place : Nat} {request : HandleId → Request}
    (alike : Alike one two) (tracked : Tracked one)
    (own : ∀ holding, one.held[place]? = some holding →
      one.Called view (request holding.handle) (one.held.eraseIdx place)) :
    List.Forall₂ Turn.Alike (one.surrenderTurns place request)
        (two.surrenderTurns place request) ∧
      Alike (one.surrender place request) (two.surrender place request) := by
  unfold surrenderTurns surrender
  rw [← alike.held]
  cases there : one.held[place]? with
  | none => exact ⟨.nil, alike⟩
  | some holding => exact alike_start alike tracked (own holding there)

theorem isOver_alike {handles handles' : List Handle} {request : Request} {first second : Phase}
    (phases : Phase.Alike handles handles' request first second) :
    first.isOver = second.isOver := by
  cases phases <;> rfl

theorem alike_drop (alike : Alike one two) : Alike (one.drop task) (two.drop task) := by
  have found := rel_getElem? alike.tasks task
  unfold drop phase?
  generalize one.tasks[task]? = first at found ⊢
  generalize two.tasks[task]? = second at found ⊢
  cases found with
  | none => exact alike
  | some related =>
      simp only [Option.map_some, isOver_alike related.phase]
      split
      · exact alike
      · exact alike_enter (alike_undo alike related.phase) task fun _ _ => .same (by simp)

theorem alike_dropTurns (alike : Alike one two) :
    List.Forall₂ Turn.Alike (one.dropTurns task) (two.dropTurns task) := by
  have found := rel_getElem? alike.tasks task
  unfold dropTurns phase?
  generalize one.tasks[task]? = first at found ⊢
  generalize two.tasks[task]? = second at found ⊢
  cases found with
  | none => exact .nil
  | some related =>
      simp only [Option.map_some, isOver_alike related.phase]
      split
      · exact .nil
      · exact .cons ⟨rfl, alike, alike_drop alike⟩ .nil

theorem alike_addPool? (alike : Alike one two) (name : String) (dialer : Option DialerId)
    (parameter : String) (limits : Limits) :
    Option.Rel Alike (one.addPool? name dialer parameter limits)
      (two.addPool? name dialer parameter limits) := by
  unfold addPool?
  cases Pool.open? name dialer parameter limits with
  | none => exact .none
  | some pool => exact .some { alike with pools := congrArg (· ++ [pool]) alike.pools }

theorem alike_register (alike : Alike one two) (directory : DirectoryId) (key : String)
    (dialer : Option DialerId) (parameter : String) (limits : Limits) :
    Alike (one.register directory key dialer parameter limits).2
      (two.register directory key dialer parameter limits).2 := by
  have noted : Alike (one.note (.registered key)) (two.note (.registered key)) :=
    alike_note alike rfl
  have added := alike_addPool? noted key dialer parameter limits
  unfold register registered?
  rw [alike.directory]
  split
  · exact alike
  · dsimp only
    rw [noted.directory, noted.pools]
    generalize (one.note _).addPool? key dialer parameter limits = first at added ⊢
    generalize (two.note _).addPool? key dialer parameter limits = second at added ⊢
    cases added with
    | none => exact noted
    | some added => exact alike_setDirectory added directory _

theorem alike_outside {action action' : Action} (actions : Action.Alike action action')
    (isOutside : action.isOutside = true) (alike : Alike one two) :
    Alike (one.act action) (two.act action') := by
  cases actions with
  | same =>
      cases action with
      | makeSignal parent =>
          exact { alike with signals := congrArg (·.make parent) alike.signals }
      | fire signal => exact { alike with signals := congrArg (·.fire signal) alike.signals }
      | makeDialer name conduct =>
          exact { alike with dialers := List.rel_append alike.dialers (.cons rfl .nil) }
      | changeScript dialer plans =>
          exact alike_changeDialer alike dialer fun a b same => by
            rw [Dialer.unfailing_extend, same, Dialer.unfailing_extend]
      | failNext dialer count =>
          exact alike_changeDialer alike dialer fun a b same => by
            rw [Dialer.failNext, Dialer.unfailing_changeCounter, same,
              Dialer.unfailing_changeCounter]
      | setDelay dialer delay =>
          exact alike_changeDialer alike dialer fun a b same => by
            rw [Dialer.setDelay, Dialer.unfailing_changeCounter, same,
              Dialer.unfailing_changeCounter]
      | mark handle mark =>
          exact alike_changeHandle alike handle (fun _ _ related => related.marked mark)
            fun _ => rfl
      | makePool name dialer parameter limits =>
          have added := alike_addPool? alike name dialer parameter limits
          simp only [act]
          generalize one.addPool? name dialer parameter limits = first at added ⊢
          generalize two.addPool? name dialer parameter limits = second at added ⊢
          cases added with
          | none => exact alike
          | some added => exact added
      | makeDirectory =>
          exact { alike with
            directories := congrArg (· ++ [(⟨[]⟩ : Directory)]) alike.directories }
      | register directory key dialer parameter limits =>
          exact alike_register alike directory key dialer parameter limits
      | unregister directory key =>
          simp only [act, unregister, alike.directory]
          exact alike_setDirectory alike directory _
      | lose place => exact { alike with held := congrArg (·.eraseIdx place) alike.held }
      | elapse time => exact { alike with now := congrArg (· + time) alike.now }
      | runMonitors => exact alike_runMonitors alike
      | checkout | giveBack | discard | closeHeld | dial | shut | shutAll | poll | drop =>
          cases isOutside
  | makeDialer name same =>
      have made : Dialer.unfailing ⟨name, _⟩ = Dialer.unfailing ⟨name, _⟩ :=
        congrArg (Dialer.mk name) same
      exact { alike with dialers := List.rel_append alike.dialers (.cons made .nil) }
  | changeScript dialer plans =>
      exact alike_changeDialer alike dialer fun a b same => by
        rw [Dialer.unfailing_extend, same, plans, Dialer.unfailing_extend]

theorem alike_turnsOf {view : PoolId} {action action' : Action}
    (actions : Action.Alike action action') (own : action.returnsOwn view one = true)
    (resting : one.Resting) (tracked : Tracked one) (alike : Alike one two) :
    List.Forall₂ Turn.Alike (one.turnsOf action) (two.turnsOf action') ∧
      Alike (one.act action) (two.act action') := by
  have outside (isOutside : action.isOutside = true) (isOutside' : action'.isOutside = true) :
      List.Forall₂ Turn.Alike (one.turnsOf action) (two.turnsOf action') ∧
        Alike (one.act action) (two.act action') := by
    have next := alike_outside actions isOutside alike
    rw [turnsOf_of_outside one isOutside, turnsOf_of_outside two isOutside']
    exact ⟨.cons ⟨rfl, alike, next⟩ .nil, next⟩
  have started (request : Request) (plain : request.returned? = none)
      (bare : request.handle? = none) :
      List.Forall₂ Turn.Alike (one.startTurns one.held request) (two.startTurns two.held request) ∧
        Alike (one.start request) (two.start request) := by
    have called : one.Called view request one.held := .plain plain bare
    have same : two.start request = (two.enroll one.held request).poll two.tasks.length := by
      rw [alike.held]
      rfl
    rw [same, ← alike.held]
    exact alike_start alike tracked called
  cases actions with
  | makeDialer | changeScript => exact outside rfl rfl
  | same =>
      cases action with
      | checkout pool context => exact started _ rfl rfl
      | dial dialer parameter => exact started _ rfl rfl
      | shut pool => exact started _ rfl rfl
      | shutAll directory order => exact started _ rfl rfl
      | giveBack pool place =>
          exact alike_surrender alike tracked fun holding there =>
            called_of_returnsOwn (.giveBack pool) (fun _ => rfl) (fun _ => rfl) own there
      | discard pool place =>
          exact alike_surrender alike tracked fun holding there =>
            called_of_returnsOwn (.discard pool) (fun _ => rfl) (fun _ => rfl) own there
      | closeHeld place =>
          have own (holding : Holding) (there : one.held[place]? = some holding) :
              one.Called view (.closeHandle holding.handle) (one.held.eraseIdx place) :=
            .surrendered there (by simp [Request.returned?]) rfl
          exact alike_surrender alike tracked own
      | poll task => exact alike_poll alike tracked resting
      | drop task => exact ⟨alike_dropTurns alike, alike_drop alike⟩
      | _ => exact outside rfl rfl

theorem alike_turns {view : PoolId} {actions actions' : List Action}
    (same : List.Forall₂ Action.Alike actions actions')
    (own : one.returnsOwn view actions = true) (resting : one.Resting) (tracked : Tracked one)
    (alike : Alike one two) :
    List.Forall₂ Turn.Alike (one.turns actions) (two.turns actions') ∧
      Alike (one.run actions) (two.run actions') := by
  induction same generalizing one two with
  | nil => exact ⟨.nil, alike⟩
  | cons first rest ih =>
      simp only [returnsOwn, Bool.and_eq_true] at own
      obtain ⟨turns, next⟩ := alike_turnsOf first own.1 resting tracked alike
      obtain ⟨rests, chain⟩ := chain_turnsOf _ own.1 resting
      obtain ⟨later, last⟩ := ih own.2 rests (chain.keeps Tracked.keeps tracked).1 next
      exact ⟨List.rel_append turns later, last⟩

theorem alike_empty : Alike {} {} where
  now := rfl
  signals := rfl
  pools := rfl
  directories := rfl
  held := rfl
  monitors := rfl
  dialers := .nil
  handles := .nil
  tasks := .nil
  trace := ⟨[], by simp, rfl, rfl⟩

theorem trace_endPoolClose (depot : Depot) (pool : PoolId) (handle : HandleId) :
    (depot.endPoolClose pool handle).trace =
      depot.trace ++ (Beat.poolClose pool handle).events depot.failure := by
  rw [endPoolClose_eq, tell, failure_closeOnce]
  rfl

theorem trace_resume (depot : Depot) (task : TaskId) (pool : PoolId) (errand : Errand) :
    (depot.resume task pool errand).trace = depot.trace ++ errand.events task := by
  cases errand with
  | conclude => rfl
  | _ => exact (List.append_nil _).symm

theorem tasks_resume (depot : Depot) (task : TaskId) (pool : PoolId) (errand : Errand) :
    (depot.resume task pool errand).tasks =
      depot.tasks.modify task ({ · with phase := errand.next pool }) := by
  cases errand <;> rfl

theorem entered_of_tasks {depot next : Depot} {task : TaskId} {found : Task} {phase : Phase}
    (here : depot.tasks[task]? = some found)
    (tasks : next.tasks = depot.tasks.modify task ({ · with phase })) :
    next.phase? task = some phase := by
  rw [phase?, tasks, List.getElem?_modify, here]
  simp

theorem phase?_resume {depot : Depot} {task : TaskId} {found : Task} {pool : PoolId}
    {handle : HandleId} {errand : Errand} (here : depot.tasks[task]? = some found) :
    ((depot.endPoolClose pool handle).resume task pool errand).phase? task =
      some (errand.next pool) := by
  apply entered_of_tasks here
  rw [tasks_resume, (booked_endPoolClose depot pool handle 0).tasks]

theorem goesOn_of_move {view : PoolId} {depot next : Depot} {actor : Option TaskId}
    (move : Move view depot actor next) : Turn.GoesOn ⟨actor, depot, next⟩ := by
  intro task pool handle due errand mine closing
  cases move with
  | begins called moves answers =>
      cases mine
      simp [phase?] at closing
  | outside => cases mine
  | steps here begun unfinished moves goes =>
      cases mine
      rename_i found
      have phase : found.phase = .closing pool handle due errand := by
        rw [phase?_of_getElem? here] at closing
        exact Option.some.inj closing
      rw [phase] at goes
      rcases goes with step | rfl
      · right
        simp only [stepFrom] at step
        split at step <;> cases step
        exact ⟨phase?_resume here, by rw [trace_resume, trace_endPoolClose]⟩
      · left
        cases errand with
        | rescan slot => cases slot <;> exact ⟨entered_of_tasks here rfl, rfl⟩
        | _ => exact ⟨entered_of_tasks here rfl, rfl⟩

theorem failedCloses_eq (task : TaskId) (depot next : Depot) :
    Turn.failedCloses ⟨some task, depot, next⟩ =
      if next.phase? task = some .dropped then []
      else depot.failedClose (depot.stage task) := rfl

theorem warnings_of_move {view : PoolId} {depot next : Depot} {actor : Option TaskId}
    (move : Move view depot actor next) :
    next.warnings = depot.warnings ++ Turn.failedCloses ⟨actor, depot, next⟩ := by
  cases move with
  | begins called moves answers =>
      have silent : depot.failedClose (depot.stage depot.tasks.length) = [] := by
        rw [depot.stage_length]
        rfl
      rw [failedCloses_eq, silent, ite_self, List.append_nil, answers]
      exact congrArg Backdrop.warnings (backdrop_answer _ _ _)
  | outside resting tasks held pools acts =>
      obtain ⟨action, isOutside, rfl⟩ := acts
      rw [Turn.failedCloses, List.append_nil]
      exact warnings_outside isOutside
  | steps here begun unfinished moves goes =>
      rename_i task found
      have stage : depot.stage task = found.phase := by
        rw [Depot.stage, phase?_of_getElem? here, Option.getD_some]
      rcases goes with step | rfl
      · have warned : next.warnings = depot.warnings ++ depot.failedClose found.phase :=
          congrArg Backdrop.warnings (backdrop_stepFrom step begun)
        rw [failedCloses_eq, stage, warned]
        congr 1
        split
        · -- Only a close that ends is warned of, and then the task goes on.
          rename_i dropped
          cases closes : found.phase with
          | closing pool handle due errand =>
              rw [closes] at step
              simp only [stepFrom] at step
              split at step <;> cases step
              rw [phase?_resume here] at dropped
              cases errand <;> cases dropped
          | _ => rfl
        · rfl
      · rw [failedCloses_eq, if_pos ?_, List.append_nil]
        · exact congrArg Backdrop.warnings (depot.backdrop_undo task found.phase)
        · refine entered_of_tasks here ?_
          rw [tasks_enter, tasks_undo]

theorem warnings_of_chain {view : PoolId} {depot last : Depot} {turns : List Turn}
    (chain : Chain view depot turns last) :
    last.warnings = depot.warnings ++ turns.flatMap Turn.failedCloses := by
  induction chain with
  | nil depot => exact (List.append_nil _).symm
  | cons move rest ih =>
      rw [ih, warnings_of_move move, List.append_assoc, List.flatMap_cons]

theorem warnings_run (actions : List Action) :
    (({} : Depot).run actions).warnings =
      (({} : Depot).turns actions).flatMap Turn.failedCloses := by
  obtain ⟨bound, large⟩ := returnsOwn_of_large actions
  exact warnings_of_chain
    (chain_turns bound actions (large bound (Nat.le_refl _) {}) resting_empty)

/-- Runs that differ only in which closes fail go on turn by turn as one another. The books, what
callers hold and how their tasks stand are the same all along; a close by a pool that fails shows in
the end of that close, in one warning, and in whether that handle is closed. -/
theorem failures_invisible {one two : List Action} (same : List.Forall₂ Action.Alike one two) :
    Alike (({} : Depot).run one) (({} : Depot).run two) ∧
      List.Forall₂ Turn.Alike (({} : Depot).turns one) (({} : Depot).turns two) ∧
      (∀ turn ∈ ({} : Depot).turns one, turn.GoesOn) ∧
      (({} : Depot).run one).warnings = (({} : Depot).turns one).flatMap Turn.failedCloses ∧
      (({} : Depot).run two).warnings = (({} : Depot).turns two).flatMap Turn.failedCloses := by
  obtain ⟨bound, large⟩ := returnsOwn_of_large one
  have own := large bound (Nat.le_refl _) {}
  obtain ⟨turns, last⟩ := alike_turns same own resting_empty tracked_empty alike_empty
  have chain := chain_turns bound one own resting_empty
  exact ⟨last, turns, fun turn member => goesOn_of_move (chain.move_of_mem member),
    warnings_run one, warnings_run two⟩

def bothClosed (evicted drained : Option String) : List Action :=
  [.makeDialer "dialer" (.scripted {
     plans := [{ ending := .connect { closeFailure := evicted } },
       { ending := .connect { closeFailure := drained } }] }),
   .makePool "pool" (some 0) "" { maxIdle := 1 },
   .checkout 0 {}, .checkout 0 {}, .giveBack 0 0, .giveBack 0 0, .shut 0]

theorem failures_invisible_bothClosed :
    (({} : Depot).run (bothClosed (some "stuck") none)).trace.drop 7 =
        [.noted (.evicting 0), .close 0, .closed 0 (some "stuck"),
          .noted (.closeFailed 0 "stuck"), .done 3 .completed, .noted (.closing 0 1),
          .close 1, .closed 1 none, .done 4 .completed] ∧
      (({} : Depot).run (bothClosed none (some "busy"))).trace.drop 7 =
        [.noted (.evicting 0), .close 0, .closed 0 none, .done 3 .completed,
          .noted (.closing 0 1), .close 1, .closed 1 (some "busy"),
          .noted (.closeFailed 0 "busy"), .done 4 .completed] ∧
      (({} : Depot).run (bothClosed (some "stuck") none)).warnings = [.closeFailed 0 "stuck"] ∧
      (({} : Depot).run (bothClosed none (some "busy"))).warnings = [.closeFailed 0 "busy"] ∧
      Alike (({} : Depot).run (bothClosed (some "stuck") none))
        (({} : Depot).run (bothClosed none (some "busy"))) ∧
      List.Forall₂ Turn.Alike (({} : Depot).turns (bothClosed (some "stuck") none))
        (({} : Depot).turns (bothClosed none (some "busy"))) ∧
      (∀ turn ∈ ({} : Depot).turns (bothClosed (some "stuck") none), turn.GoesOn) ∧
      (({} : Depot).run (bothClosed (some "stuck") none)).warnings =
        (({} : Depot).turns (bothClosed (some "stuck") none)).flatMap Turn.failedCloses ∧
      (({} : Depot).run (bothClosed none (some "busy"))).warnings =
        (({} : Depot).turns (bothClosed none (some "busy"))).flatMap Turn.failedCloses :=
  ⟨by decide, by decide, by decide, by decide, failures_invisible
    (.cons (.makeDialer "dialer" rfl) (List.forall₂_same.mpr fun _ _ => .same _))⟩

end Depot

end HandlePool
