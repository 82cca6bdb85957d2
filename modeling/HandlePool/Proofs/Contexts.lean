import HandlePool.Proofs.Abort
import HandlePool.Proofs.Backdrop
import HandlePool.Proofs.Plain

namespace HandlePool

inductive Action.Akin : Action → Action → Prop where
  | same (action : Action) : Akin action action
  | checkout (pool : PoolId) (context context' : Context) :
      Akin (.checkout pool context) (.checkout pool context')

namespace Depot

variable {one two depot next : Depot} {task : TaskId} {id : PoolId} {request request' : Request}
  {context : Context} {said : Option Abort × Option Abort} {action action' : Action}

theorem hearing_of_step (stepped : depot.step? task = some next)
    (hears : next.hearing? task = some said) : depot.hearing? task = some said := by
  obtain ⟨⟨request, phase⟩, here, step⟩ := Option.bind_eq_some_iff.mp stepped
  obtain ⟨phase', site, pool, tasks, -, -, effect⟩ := moves_stepFrom step
  have there : next.tasks[task]? = some ⟨request, phase'⟩ := by
    rw [tasks, List.getElem?_modify, here]
    simp
  rw [hearing?, there] at hears
  cases hearing_of_hears? hears with
  | called => exact absurd rfl effect.begun
  | queued tells =>
      -- It queued in this very step, so it was called with that context, and no time has passed.
      obtain ⟨rfl, rfl, gated⟩ := queues_of_effect effect rfl
      cases step
      rename_i id context since
      have behind : (depot.checkout task id context).backdrop = depot.backdrop :=
        depot.backdrop_checkout
      have signals := congrArg Backdrop.signals behind
      have now := congrArg Backdrop.now behind
      have heard : depot.hears? ⟨.checkout id context, .asked⟩ = some (depot.verdict context) :=
        if_pos gated
      rw [hearing?, here, Option.bind_some, heard, ← tells]
      exact congrArg some (congrArg₂ (fun signals now =>
        (context.interrupt signals now, context.check signals now)) signals.symm now.symm)

theorem hearing_after {one' two' : Depot} (hears : one.hearing? task = two.hearing? task)
    (step : one.step? task = some one') (step' : two.step? task = some two')
    (same : one'.plain = two'.plain) : one'.hearing? task = two'.hearing? task := by
  have alike : (one'.hearing? task).isSome = (two'.hearing? task).isSome :=
    view_of_plain (fun depot => (depot.hearing? task).isSome) (isSome_hearing?_plain · task) same
  cases heard : one'.hearing? task with
  | none =>
      rw [heard] at alike
      exact (Option.not_isSome_iff_eq_none.mp (by rw [← alike]; simp)).symm
  | some said =>
      rw [heard] at alike
      obtain ⟨said', heard'⟩ := Option.isSome_iff_exists.mp alike.symm
      rw [heard', ← hearing_of_step step heard, ← hearing_of_step step' heard', hears]

theorem plain_advance (turns : Nat) (same : one.plain = two.plain)
    (hears : one.hearing? task = two.hearing? task) :
    (advance turns one task).plain = (advance turns two task).plain := by
  induction turns generalizing one two with
  | zero => exact same
  | succ turns ih =>
      have steps := plain_step? same hears
      unfold advance
      cases step : one.step? task with
      | none =>
          rw [step] at steps
          rw [Option.map_eq_none_iff.mp steps.symm]
          exact same
      | some one' =>
          rw [step] at steps
          obtain ⟨two', step', same'⟩ := Option.map_eq_some_iff.mp steps.symm
          rw [step']
          exact ih same'.symm (hearing_after hears step step' same'.symm)

theorem plain_poll (same : one.plain = two.plain)
    (hears : one.hearing? task = two.hearing? task) :
    (one.poll task).plain = (two.poll task).plain := by
  have tasks := tasks_of_plain same task
  unfold poll
  cases here : one.tasks[task]? with
  | none =>
      rw [here] at tasks
      rw [Option.map_eq_none_iff.mp tasks.symm]
      exact same
  | some first =>
      rw [here] at tasks
      obtain ⟨second, there, alike⟩ := Option.map_eq_some_iff.mp tasks.symm
      obtain ⟨requests, phases⟩ := Task.mk.inj alike
      have load : one.load first.request first.phase = two.load second.request second.phase := by
        rw [← load_plain, ← load_plain two, same, requests, phases]
      rw [there]
      dsimp only
      rw [load]
      exact plain_advance _ same hears

theorem plain_start (requests : request.plain = request'.plain) (same : one.plain = two.plain)
    (hears : one.hears? ⟨request, .asked⟩ = two.hears? ⟨request', .asked⟩) :
    (one.start request).plain = (two.start request').plain := by
  have length : one.tasks.length = two.tasks.length :=
    view_of_plain (·.tasks.length) length_tasks_plain same
  have enrolled (depot : Depot) (request : Request) : (depot.enroll depot.held request).plain =
      depot.plain.enroll depot.held request.plain := by
    unfold plain enroll
    rw [List.map_append]
    rfl
  have held := held_of_plain same
  have heard (depot : Depot) (request : Request) :
      (depot.enroll depot.held request).hearing? depot.tasks.length =
        depot.hears? ⟨request, .asked⟩ := by
    rw [hearing?, tasks_enroll]
    rfl
  show ((one.enroll one.held request).poll one.tasks.length).plain =
    ((two.enroll two.held request').poll two.tasks.length).plain
  have heard' := heard two request'
  rw [← length] at heard' ⊢
  refine plain_poll ?_ ?_
  · rw [enrolled, enrolled, same, requests, held]
  · rw [heard, heard', hears]

theorem plain_surrender (place : Nat) {called : HandleId → Request} (same : one.plain = two.plain)
    (silent : ∀ (depot : Depot) handle, depot.hears? ⟨called handle, .asked⟩ = none) :
    (one.surrender place called).plain = (two.surrender place called).plain := by
  have held := held_of_plain same
  unfold surrender
  rw [held]
  split
  · exact same
  · refine plain_start rfl ?_ ((silent _ _).trans (silent _ _).symm)
    exact congrArg (fun depot : Depot => { depot with held := two.held.eraseIdx place }) same

theorem plain_addPool? (name : String) (dialer : Option DialerId) (parameter : String)
    (limits : Limits) (same : one.plain = two.plain) :
    (one.addPool? name dialer parameter limits).map plain =
      (two.addPool? name dialer parameter limits).map plain := by
  unfold addPool?
  cases Pool.open? name dialer parameter limits with
  | none => rfl
  | some pool =>
      exact congrArg (fun depot : Depot => some { depot with pools := depot.pools ++ [pool] }) same

theorem plain_register (directory : DirectoryId) (key : String) (dialer : Option DialerId)
    (parameter : String) (limits : Limits) (same : one.plain = two.plain) :
    (one.register directory key dialer parameter limits).2.plain =
      (two.register directory key dialer parameter limits).2.plain := by
  have directories : one.directory directory = two.directory directory :=
    congrArg (·.directory directory) same
  have pools : one.pools = two.pools := view_of_plain Depot.pools pools_plain same
  have noted : (one.note (.registered key)).plain = (two.note (.registered key)).plain :=
    congrArg (·.note (.registered key)) same
  have added := plain_addPool? key dialer parameter limits noted
  unfold register registered?
  rw [directories]
  split
  · exact same
  · dsimp only
    cases made : (one.note (.registered key)).addPool? key dialer parameter limits with
    | none =>
        rw [made] at added
        rw [Option.map_eq_none_iff.mp added.symm]
        exact noted
    | some first =>
        rw [made] at added
        obtain ⟨second, made', alike⟩ := Option.map_eq_some_iff.mp added.symm
        have length : (one.note (.registered key)).pools.length =
            (two.note (.registered key)).pools.length := congrArg List.length pools
        have directories' : (one.note (.registered key)).directory directory =
            (two.note (.registered key)).directory directory := directories
        rw [made']
        dsimp only
        rw [plain_setDirectory, plain_setDirectory, alike, length, directories']

def heard? (depot : Depot) : Action → Option (Option Abort × Option Abort)
  | .checkout pool context => depot.hears? ⟨.checkout pool context, .asked⟩
  | .poll task => depot.hearing? task
  | _ => none

theorem plain_act (akin : action.Akin action') (same : one.plain = two.plain)
    (heard : one.heard? action = two.heard? action') :
    (one.act action).plain = (two.act action').plain := by
  cases akin with
  | checkout pool context context' => exact plain_start rfl same heard
  | same =>
      cases action with
      | makeSignal | fire => exact same
      | makeDialer name conduct =>
          exact congrArg (fun depot : Depot =>
            { depot with dialers := depot.dialers ++ [(⟨name, conduct⟩ : Dialer)] }) same
      | changeScript dialer plans =>
          exact congrArg (·.changeDialer dialer (Dialer.extend plans)) same
      | failNext dialer count =>
          exact congrArg (·.changeDialer dialer (Dialer.failNext count)) same
      | setDelay dialer delay =>
          exact congrArg (·.changeDialer dialer (Dialer.setDelay delay)) same
      | mark handle mark => exact congrArg (·.changeHandle handle (Handle.marked · mark)) same
      | makePool name dialer parameter limits =>
          have made (added : Option Depot) (depot : Depot) :
              (added.getD depot).plain = (added.map plain).getD depot.plain := by
            cases added <;> rfl
          simp only [act]
          rw [made, made, plain_addPool? name dialer parameter limits same, same]
      | makeDirectory =>
          exact congrArg (fun depot : Depot =>
            { depot with directories := depot.directories ++ [(⟨[]⟩ : Directory)] }) same
      | register directory key dialer parameter limits =>
          exact plain_register directory key dialer parameter limits same
      | unregister directory key =>
          exact congrArg (fun depot : Depot =>
            depot.setDirectory directory ((depot.directory directory).erase key)) same
      | checkout pool context => exact plain_start rfl same heard
      | giveBack pool place => exact plain_surrender place same fun _ _ => rfl
      | discard pool place => exact plain_surrender place same fun _ _ => rfl
      | closeHeld place => exact plain_surrender place same fun _ _ => rfl
      | lose place =>
          exact congrArg (fun depot : Depot => { depot with held := depot.held.eraseIdx place })
            same
      | dial | shut | shutAll => exact plain_start rfl same rfl
      | poll task => exact plain_poll same heard
      | drop task =>
          show (one.drop task).plain = (two.drop task).plain
          rw [plain_drop, plain_drop, same]
      | elapse time =>
          exact congrArg (fun depot : Depot => { depot with now := depot.now + time }) same
      | runMonitors =>
          show one.runMonitors.plain = two.runMonitors.plain
          rw [plain_runMonitors, plain_runMonitors, same]

/-- Two courses of events, each from a depot of its own. They differ in the contexts of checkouts
and in the signals that fire, but a checkout that is looked at before a gate hears the same in
both. -/
inductive Unheeded : Depot → Depot → List Action → List Action → Prop where
  | nil (first second : Depot) : Unheeded first second [] []
  | both {first second : Depot} {event event' : Action} {rest rest' : List Action}
      (akin : event.Akin event') (heard : first.heard? event = second.heard? event')
      (later : Unheeded (first.act event) (second.act event') rest rest') :
      Unheeded first second (event :: rest) (event' :: rest')
  | firesHere {first second : Depot} {signal : SignalId} {rest rest' : List Action}
      (later : Unheeded (first.act (.fire signal)) second rest rest') :
      Unheeded first second (.fire signal :: rest) rest'
  | firesThere {first second : Depot} {signal : SignalId} {rest rest' : List Action}
      (later : Unheeded first (second.act (.fire signal)) rest rest') :
      Unheeded first second rest (.fire signal :: rest')

theorem plain_run {actions others : List Action} (unheeded : Unheeded one two actions others)
    (same : one.plain = two.plain) : (one.run actions).plain = (two.run others).plain := by
  induction unheeded with
  | nil => exact same
  | both akin heard later ih => exact ih (plain_act akin same heard)
  | firesHere later ih => exact ih same
  | firesThere later ih => exact ih same

structure Concurs (one two : Depot) : Prop where
  plain : one.plain = two.plain
  pools : one.pools = two.pools
  handles : one.handles = two.handles
  held : one.held = two.held
  trace : one.trace = two.trace
  ends : ∀ task outcome,
    one.stage task = .finished outcome ↔ two.stage task = .finished outcome

theorem stage_plain (depot : Depot) (task : TaskId) :
    depot.plain.stage task = (depot.stage task).plain := by
  rw [stage, stage, phase?_plain]
  cases depot.phase? task <;> rfl

theorem finished_plain_iff {phase : Phase} {outcome : Outcome} :
    phase.plain = .finished outcome ↔ phase = .finished outcome := by
  cases phase <;> simp [Phase.plain]

theorem concurs_of_plain (same : one.plain = two.plain) : Concurs one two := by
  refine ⟨same, view_of_plain Depot.pools pools_plain same,
    view_of_plain Depot.handles handles_plain same, held_of_plain same,
    view_of_plain Depot.trace trace_plain same, fun task outcome => ?_⟩
  rw [← finished_plain_iff, ← stage_plain, same, stage_plain, finished_plain_iff]

structure CallsOff (id : PoolId) (context : Context) (depot : Depot) : Prop where
  started : (depot.pool id).limits.boundedWait = true →
    (depot.start (.checkout id context)).stage depot.tasks.length =
        .finished (.refused (.cancelled (depot.pool id).id)) ∧
      (depot.start (.checkout id context)).pools = depot.pools
  polled : ∀ task since, depot.stage task = .queued id context since →
    ∃ gate, (depot.pool id).gate = some gate ∧ Bows id task gate depot (depot.poll task)

theorem callsOff_of_fired (gated : Gated id depot) (queues : Queues id depot)
    (fired : context.signal.any depot.signals.fired = true) : CallsOff id context depot where
  started waits := start_fired (gated.trans waits) fired
  polled task since waits := by
    obtain ⟨found, here, same⟩ := exists_of_stage (by rw [waits]; simp)
    have queued := (phase?_of_getElem? here).trans (congrArg some (same.trans waits))
    obtain ⟨gate, there⟩ := Option.isSome_iff_exists.mp (queues task context since queued).2
    exact ⟨gate, there, bows_of_poll waits there fired⟩

/-- In every run the context of a checkout decides whether it is admitted, and nothing else. A
checkout gets past a gate only when its context is quiet, and one that is called off is called off
for just the reason that its context gives. One whose signal has fired when it is looked at before a
gate is cancelled, and a slot that it was handed goes to the next in the queue or is free again; the
gate cannot overflow with it if what goes back to the pool was checked out of it, or if the run is
not so long that it could. What contexts say to checkouts that are past the gate, or that meet none,
makes no difference to anything. -/
theorem context_decides_admission (id : PoolId) (actions : List Action) :
    (∀ turn ∈ ({} : Depot).turns actions, ∀ task context, turn.actor = some task →
      CalledFor (.checkout id context) task turn.after → Heeds id task context turn) ∧
    (∀ context, context.signal.any (({} : Depot).run actions).signals.fired = true →
      CallsOff id context (({} : Depot).run actions) ∧
      (({} : Depot).returnsOwn id actions = true ∨
          (({} : Depot).turns actions).length < Gate.capacity →
        ∀ task since, (({} : Depot).run actions).stage task = .queued id context since →
          ((({} : Depot).run actions).poll task).stage task =
            .finished (.refused (.cancelled ((({} : Depot).run actions).pool id).id)))) ∧
    ∀ others, Unheeded {} {} actions others →
      Concurs (({} : Depot).run actions) (({} : Depot).run others) := by
  obtain ⟨view, chain⟩ := exists_chain actions
  obtain ⟨queues, asked⟩ := chain.keeps Queues.keeps (watched_empty id).queues
  obtain ⟨gated, gates⟩ := chain.keeps Gated.keeps (gated_empty id)
  refine ⟨fun turn member task context mine called => ?_, fun context fired => ?_,
    fun others unheeded => concurs_of_plain (plain_run unheeded rfl)⟩
  · have move := chain.move_of_mem member
    rw [mine] at move
    exact heeds_of_move move ((chain.keeps suited_of_move suited_empty).2 turn member).1
      (asked turn member).1 (gates turn member).1 called
  · have callsOff := callsOff_of_fired gated queues fired
    refine ⟨callsOff, fun modest task since waits => ?_⟩
    obtain ⟨gate, there, bows⟩ := callsOff.polled task since waits
    refine bows.ends.resolve_right fun ⟨_, handed, nobody, full⟩ => ?_
    rcases modest with own | short
    · have admitting := (admitting_turns own).1
      have fits := leaveOverflows_eq_false admitting.admission admitting.custody task
      rw [there] at fits
      simp [Gate.leaveOverflows, Gate.overflows, handed, nobody, full] at fits
    · exact not_overflows_of_slack (chain.slack (slack_empty id)).1 (by omega) there handed full

/-- The first checkout has the only slot; its signal fires and its deadline passes while it dials.
The second meets no gate. The third was handed the slot when its signal fires, after its
deadline. -/
def calledOff : List Action :=
  [.makeSignal none, .makeSignal none, .makeDialer "dialer" (.counted { delay := some 1000 }),
   .makePool "pool" (some 0) "" { maxActive := 1, wait := true }, .makePool "open" (some 0) "" {},
   .checkout 0 { signal := some 0, deadline := some 500 }, .fire 0, .elapse 2000, .poll 0,
   .checkout 1 { signal := some 0 }, .checkout 0 { signal := some 1, deadline := some 2500 },
   .checkout 0 {}, .giveBack 0 0, .elapse 1000, .fire 1]

def unconcerned : List Action :=
  [.makeSignal none, .makeSignal none, .makeDialer "dialer" (.counted { delay := some 1000 }),
   .makePool "pool" (some 0) "" { maxActive := 1, wait := true }, .makePool "open" (some 0) "" {},
   .checkout 0 {}, .elapse 2000, .poll 0,
   .checkout 1 {}, .checkout 0 { signal := some 1, deadline := some 2500 },
   .checkout 0 {}, .giveBack 0 0, .elapse 1000, .fire 1]

theorem unheeded_unconcerned : Unheeded {} {} calledOff unconcerned := by
  unfold calledOff unconcerned
  iterate 5 refine .both (.same _) (by decide) ?_
  refine .both (.checkout 0 _ _) (by decide) (.firesHere ?_)
  iterate 2 refine .both (.same _) (by decide) ?_
  refine .both (.checkout 1 _ _) (by decide) ?_
  iterate 5 refine .both (.same _) (by decide) ?_
  exact .nil _ _

theorem length_calledOff : 5 < (({} : Depot).turns calledOff).length := by decide

theorem context_decides_admission_calledOff :
    (∃ turn ∈ ({} : Depot).turns calledOff,
      Heeds 0 0 { signal := some 0, deadline := some 500 } turn ∧
        (turn.before.stage 0).isInside 0 = false ∧ (turn.after.stage 0).isInside 0 = true) ∧
    (∃ gate, ((({} : Depot).run calledOff).pool 0).gate = some gate ∧
      Bows 0 2 gate (({} : Depot).run calledOff) ((({} : Depot).run calledOff).poll 2)) ∧
    ((({} : Depot).run calledOff).poll 2).stage 2 = .finished (.refused (.cancelled "pool")) ∧
    ((({} : Depot).run calledOff).pool 0).gate =
      some { free := 0, waiting := [3], granted := [2] } ∧
    (((({} : Depot).run calledOff).poll 2).pool 0).gate = some { free := 0, granted := [3] } ∧
    Concurs (({} : Depot).run calledOff) (({} : Depot).run unconcerned) := by
  obtain ⟨heeds, callsOff, concurs⟩ := context_decides_admission 0 calledOff
  obtain ⟨called, cancelled⟩ :=
    callsOff { signal := some 1, deadline := some 2500 } (by decide)
  have waits : (({} : Depot).run calledOff).stage 2 =
      .queued 0 { signal := some 1, deadline := some 2500 } (some 2000) := by decide
  refine ⟨⟨_, List.getElem_mem length_calledOff, ?_, by decide, by decide⟩, called.polled 2 _ waits,
    cancelled (Or.inl (by decide)) 2 _ waits, by decide, by decide, concurs _ unheeded_unconcerned⟩
  exact heeds _ (List.getElem_mem length_calledOff) 0 _ (by decide) ⟨_, rfl⟩

end Depot

end HandlePool
