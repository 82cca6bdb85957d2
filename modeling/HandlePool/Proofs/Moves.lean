import HandlePool.Proofs.Effect

namespace HandlePool.Depot

variable {depot mid : Depot} {task : TaskId} {request : Request} {phase : Phase} {id : PoolId}
  {pool : Pool}

theorem slotOverflows_of_booked (booked : Booked depot mid id pool)
    (same : pool.slotOverflows = (depot.pool id).slotOverflows) :
    (mid.pool id).slotOverflows = (depot.pool id).slotOverflows := by
  rcases pool_of_booked booked with found | ⟨found, -⟩
  · rw [found, same]
  · rw [found]

theorem moves_fail {slot reserved : Bool} {outcome : Outcome} (booked : Booked depot mid id pool)
    (same : pool.slotOverflows = (depot.pool id).slotOverflows)
    (effect : Effect depot task request id phase
      (.finished (overflowOr (slot && (depot.pool id).slotOverflows) outcome))
      (pool.handBack slot reserved)) :
    Moves depot task request phase (mid.fail task id slot reserved outcome) := by
  have overflow := slotOverflows_of_booked booked same
  unfold fail
  rw [overflow]
  exact moves_finish (booked_handBack booked slot reserved) effect

theorem moves_beginClose {handle : HandleId} {errand : Errand} (booked : Booked depot mid id pool)
    (effect : ∀ due, Effect depot task request id phase (.closing id handle due errand) pool) :
    Moves depot task request phase (mid.beginClose task id handle errand) :=
  moves_enter (booked_record booked (.close handle)) (effect _) rfl

theorem moves_note {next : Depot} (moves : Moves depot task request phase next) (note : Note) :
    Moves depot task request phase (next.note note) := by
  obtain ⟨phase', id, pool, tasks, held, pools, effect⟩ := moves
  exact .intro phase' id pool tasks held pools effect

theorem moves_admitted {passed : Pool} {slot : Bool} {waited : Option Nat}
    (found : mid.pool id = passed) (booked : Booked depot mid id passed)
    (alike : mid.isClosed = depot.isClosed)
    (grant : depot.Grant task request id phase passed slot waited) :
    Moves depot task request phase (mid.admitted task id slot waited) := by
  have effect := Effect.pass grant
  rw [← alike, ← found] at effect
  have entered := moves_enter (booked_setPool booked _) effect rfl
  unfold admitted
  dsimp only
  split
  · exact entered
  · exact moves_note entered _

theorem moves_passGate (passed : Pool) {context : Context} {waited : Option Nat}
    (found : mid.pool id = passed) (booked : Booked depot mid id passed)
    (alike : mid.isClosed = depot.isClosed) (signals : mid.signals = depot.signals)
    (now : mid.now = depot.now)
    (kept : context.check depot.signals depot.now = none →
      depot.Grant task request id phase passed true waited)
    (lost : ∀ abort, context.check depot.signals depot.now = some abort →
      Effect depot task request id phase
        (.finished (overflowOr (passed.gate.any Gate.overflows)
          (.refused (refusalOf passed abort))))
        (passed.changeGate Gate.release)) :
    Moves depot task request phase (mid.passGate task id context waited) := by
  unfold passGate
  rw [signals, now]
  cases fired : context.check depot.signals depot.now with
  | none => exact moves_admitted found booked alike (kept fired)
  | some abort =>
      dsimp only
      rw [found]
      exact moves_finish (booked_changePool booked _) (lost abort fired)

theorem moves_checkout (depot : Depot) (task : TaskId) (id : PoolId) (context : Context) :
    Moves depot task (.checkout id context) .asked (depot.checkout task id context) := by
  have booked := booked_refl depot id
  unfold checkout
  cases gated : (depot.pool id).gate with
  | none => exact moves_admitted rfl booked rfl (.free rfl gated)
  | some gate =>
      dsimp only
      cases fired : context.interrupt depot.signals depot.now with
      | some abort =>
          have why : depot.TurnsAway id context (refusalOf (depot.pool id) abort) :=
            Or.inl ⟨abort, Context.check_of_interrupt fired, rfl⟩
          exact moves_finish booked (.turnedAway rfl gated why)
      | none =>
          dsimp only
          split
          · rename_i shut
            exact moves_finish booked (.turnedAway rfl gated (Or.inr ⟨⟨gate, gated, shut⟩, rfl⟩))
          · rename_i isOpen
            have isOpen : gate.closed = false := by simpa using isOpen
            split
            · rename_i full
              exact moves_enter (booked_changePool booked _)
                (.queue rfl gated isOpen full fired) rfl
            · rename_i left
              have inside := inside_of_gated gated
              -- A context that fired while the slot was taken has it put back at once.
              refine moves_passGate ((depot.pool id).changeGate Gate.take) ?_
                (booked_changePool booked _) rfl rfl rfl
                (fun quiet => .taken rfl gated isOpen left quiet) fun abort fired => ?_
              · rw [changePool, pool_setPool, if_pos ⟨rfl, inside⟩]
              · have effect : Effect depot task (.checkout id context) id .asked _ _ :=
                  .bounce rfl gated isOpen left fired
                simpa [Pool.changeGate, gated, refusalOf] using effect

theorem moves_quit {context : Context} {since : Option Nat} {refusal : Refusal}
    (why : depot.TurnsAway id context refusal) :
    Moves depot task request (.queued id context since) (depot.quit task id refusal) :=
  moves_finish (booked_changePool (booked_refl depot id) _) (.quit why)

theorem moves_look {next : Depot} {context : Context} {since : Option Nat}
    (looked : depot.look task id context since = some next) :
    Moves depot task request (.queued id context since) next := by
  unfold look at looked
  split at looked
  · rename_i abort fired
    cases looked
    exact moves_quit (Or.inl ⟨abort, Context.check_of_interrupt fired, rfl⟩)
  · cases looked
  · rename_i gate quiet gated
    split at looked
    · rename_i shut
      cases looked
      exact moves_quit (Or.inr ⟨⟨gate, gated, shut⟩, rfl⟩)
    · rename_i isOpen
      have isOpen : gate.closed = false := by simpa using isOpen
      split at looked
      · rename_i handed
        cases looked
        refine moves_passGate ((depot.pool id).changeGate (·.collect task)) ?_
          (booked_changePool (booked_refl depot id) _) rfl rfl rfl
          (fun quiet => .collected gated isOpen handed quiet) fun abort fired => ?_
        · rw [changePool, pool_setPool, if_pos ⟨rfl, inside_of_gated gated⟩]
        · have effect : Effect depot task request id (.queued id context since) _ _ :=
            .quit (Or.inl ⟨abort, fired, rfl⟩)
          have same : (gate.collect task).overflows = gate.overflows := rfl
          simpa [Pool.changeGate, gated, refusalOf, Gate.leave, Gate.leaveOverflows, handed, same]
            using effect
      · cases looked

theorem moves_reserve {slot : Bool} (empty : (depot.pool id).takeNewest = none) :
    Moves depot task request (.scanning id slot) (depot.reserve task id slot) := by
  have booked := booked_refl depot id
  unfold reserve
  dsimp only
  split
  · rename_i refusal refused
    have effect : Effect depot task request id (.scanning id slot) _ _ := .deny empty refused
    split
    · exact moves_fail (booked_note booked _) rfl effect
    · exact moves_fail booked rfl effect
  · rename_i allowed
    have reserved := booked_setPool booked (depot.pool id).reserve
    split
    · rename_i missing
      exact moves_fail (booked_note reserved _) rfl (.unconfigured empty allowed missing)
    · rename_i dialer there
      exact moves_enter ⟨reserved.tasks, reserved.held, reserved.pools⟩
        (.dial empty allowed there) rfl

theorem moves_scan {slot : Bool} :
    Moves depot task request (.scanning id slot) (depot.scan task id slot) := by
  have booked := booked_refl depot id
  unfold scan
  cases taken : (depot.pool id).takeNewest with
  | none => exact moves_reserve taken
  | some entry =>
      obtain ⟨handle, rest⟩ := entry
      dsimp only
      split
      · rename_i usable
        have picked := booked_setPool booked rest
        exact moves_finish (booked_note picked _) (.reuse taken usable)
      · rename_i unusable
        have unusable : (depot.handle handle).usable = false := by simpa using unusable
        have given := booked_setPool booked (rest.forget 1)
        split
        · rename_i dead
          exact moves_enter given (.reject taken unusable (Or.inl rfl) fun _ => dead) rfl
        · exact moves_beginClose given fun due =>
            .reject taken unusable (Or.inr ⟨due, rfl⟩) (by simp)

theorem booked_endDial (depot : Depot) (call : Call) (id : PoolId) :
    Booked depot (depot.endDial call).2 id (depot.pool id) := by
  unfold endDial
  split
  rename_i ending dialer _
  have pools := (set_pool depot id).symm
  cases ending with
  | connect fitting => exact ⟨rfl, rfl, pools⟩
  | refuse reason => exact ⟨rfl, rfl, pools⟩
  | panic message => exact ⟨rfl, rfl, pools⟩

theorem booked_startMonitor (booked : Booked depot mid id pool) (handle : HandleId) :
    Booked depot (mid.startMonitor handle) id pool := by
  unfold startMonitor
  split
  · exact booked
  · exact ⟨booked.tasks, booked.held, booked.pools⟩

theorem moves_endCheckoutDial {slot : Bool} {call : Call} :
    Moves depot task request (.dialing id slot call)
      (depot.endCheckoutDial task id slot call) := by
  have booked := booked_endDial depot call id
  unfold endCheckoutDial
  split
  · rename_i handle ended answer
    rw [answer] at booked
    have connected := booked_startMonitor (booked_changePool booked Pool.recordDial) handle
    exact moves_finish ⟨connected.tasks, connected.held, connected.pools⟩
      (.connect (by rw [answer]))
  · rename_i reason ended answer
    rw [answer] at booked
    have found : ended.pool id = depot.pool id := by
      rcases pool_of_booked booked with found | ⟨found, -⟩ <;> exact found
    rw [found]
    exact moves_fail ⟨booked.tasks, booked.held, booked.pools⟩ rfl (.refuse (by rw [answer]))
  · rename_i message ended answer
    rw [answer] at booked
    exact moves_fail booked rfl (.panic (by rw [answer]))

theorem moves_giveBack (depot : Depot) (task : TaskId) (id : PoolId) (handle : HandleId) :
    Moves depot task (.giveBack id handle) .asked (depot.giveBack task id handle) := by
  have booked := booked_setPool (booked_refl depot id)
    ((depot.pool id).shelve handle).1.releaseSlot
  unfold giveBack
  dsimp only
  split
  · rename_i overflow
    exact moves_finish booked (.giveBack rfl (Or.inl ⟨overflow, rfl⟩))
  · split
    · rename_i kept
      exact moves_finish booked (.giveBack rfl (Or.inr (Or.inl ⟨kept, rfl⟩)))
    · rename_i oldest given
      exact moves_beginClose ⟨booked.tasks, booked.held, booked.pools⟩ fun due =>
        .giveBack rfl (Or.inr (Or.inr ⟨oldest, due, given, rfl⟩))

theorem moves_discard (depot : Depot) (task : TaskId) (id : PoolId) (handle : HandleId) :
    Moves depot task (.discard id handle) .asked (depot.discard task id handle) := by
  have booked := booked_setPool (booked_refl depot id) ((depot.pool id).forget 1).releaseSlot
  unfold discard
  dsimp only
  split
  · rename_i overflow
    exact moves_finish booked (.discard rfl (Or.inl ⟨overflow, rfl⟩) (by simp))
  · split
    · rename_i dead
      exact moves_finish booked (.discard rfl (Or.inr (Or.inl rfl)) fun _ => dead)
    · exact moves_beginClose booked fun due =>
        .discard rfl (Or.inr (Or.inr ⟨due, rfl⟩)) (by simp)

theorem moves_aside (mid : Depot) {phase' : Phase} (apart : phase.stake? = none)
    (apart' : phase'.stake? = none) (begun : phase' ≠ .asked)
    (plain : phase = .asked → request.pool? = none)
    (unfinished : ∀ outcome, phase' ≠ .finished outcome)
    (carries : (phase'.closing?.toList ++ phase'.hands).Sublist
      (phase.hands ++ request.brings phase))
    (tasks : mid.tasks = depot.tasks) (held : mid.held = depot.held)
    (pools : mid.pools = depot.pools) :
    Moves depot task request phase (mid.enter task phase') := by
  have booked : Booked depot mid 0 (depot.pool 0) :=
    ⟨tasks, held, pools.trans (set_pool depot 0).symm⟩
  refine moves_enter booked (.aside apart apart' begun plain (fun _ => unfinished _)
    (fun _ isOver => ?_) carries fun _ isOver => ?_) ?_
  · exact absurd isOver (unfinished _)
  · exact absurd isOver (unfinished _)
  · cases phase' with
    | finished outcome => exact absurd rfl (unfinished outcome)
    | _ => rfl

theorem moves_end (mid : Depot) {outcome : Outcome} (apart : phase.stake? = none)
    (begun : phase ≠ .asked) (apart' : (Phase.finished outcome).stake? = none)
    (served : ∀ refusal, outcome ≠ .refused refusal)
    (calm : ∀ message, outcome = .panicked message →
      ∃ call, phase = .calling call ∧ (depot.endDial call).1 = .panicked message)
    (dials : ∀ handle, outcome = .dialed handle →
      ∃ call, phase = .calling call ∧ (depot.endDial call).1 = .connected handle)
    (tasks : mid.tasks = depot.tasks) (held : mid.held = depot.held)
    (pools : mid.pools = depot.pools) :
    Moves depot task request phase (mid.finish task outcome) := by
  have booked : Booked depot mid 0 (depot.pool 0) :=
    ⟨tasks, held, pools.trans (set_pool depot 0).symm⟩
  refine moves_finish booked (.aside apart apart' (by simp) (fun asked => absurd asked begun) ?_ ?_
    (List.nil_sublist _) ?_)
  · intro refusal same
    exact served refusal (Phase.finished.inj same)
  · intro message same
    exact calm message (Phase.finished.inj same)
  · intro handle same
    exact dials handle (Phase.finished.inj same)

theorem moves_shutNext (pools : List PoolId) :
    Moves depot task request (.shutting pools) (depot.shutNext task pools) := by
  cases pools with
  | nil => exact moves_end _ rfl (by simp) rfl (by simp) (by simp) (by simp) rfl rfl rfl
  | cons id later =>
      rw [shutNext]
      split
      · exact moves_aside _ rfl rfl (by simp) (by simp) (by simp) (List.nil_sublist _) rfl rfl rfl
      · rename_i isOpen
        have isOpen : (depot.pool id).closed = false := by simpa using isOpen
        have booked := booked_setPool (booked_refl depot id) (depot.pool id).shut.1
        exact moves_enter ⟨booked.tasks, booked.held, booked.pools⟩ (.shut isOpen) rfl

theorem moves_drainNext {later : List PoolId} (handles : List HandleId) :
    Moves depot task request (.draining id handles later)
      (depot.drainNext task id later handles) := by
  cases handles with
  | nil =>
      exact moves_aside _ rfl rfl (by simp) (by simp) (by simp) (List.nil_sublist _) rfl rfl rfl
  | cons handle rest =>
      exact moves_aside (depot.record (.close handle)) rfl rfl (by simp) (by simp)
        (by simp) (List.sublist_append_left _ _) rfl rfl rfl

theorem moves_answer (depot : Depot) (task : TaskId) (request : Request) :
    Moves depot task request .asked (depot.answer task request) := by
  cases request with
  | checkout id context => exact moves_checkout depot task id context
  | giveBack id handle => exact moves_giveBack depot task id handle
  | discard id handle => exact moves_discard depot task id handle
  | closeHandle handle =>
      exact moves_aside (depot.record (.close handle)) rfl rfl (by simp) (fun _ => rfl)
        (by simp) (List.Sublist.refl _) rfl rfl rfl
  | dial dialer parameter =>
      exact moves_aside ((depot.beginDial dialer parameter).2) rfl rfl (by simp)
        (fun _ => rfl) (by simp) (List.nil_sublist _) rfl rfl rfl
  | shut id =>
      exact moves_aside _ rfl rfl (by simp) (fun _ => rfl) (by simp) (List.nil_sublist _) rfl rfl
        rfl
  | shutAll directory order =>
      exact moves_aside (depot.setDirectory directory {}) rfl rfl (by simp) (fun _ => rfl)
        (by simp) (List.nil_sublist _) rfl rfl rfl

theorem booked_endPoolClose (depot : Depot) (pool : PoolId) (handle : HandleId) (id : PoolId) :
    Booked depot (depot.endPoolClose pool handle) id (depot.pool id) := by
  have pools := (set_pool depot id).symm
  unfold endPoolClose
  dsimp only
  split
  · exact ⟨rfl, rfl, pools⟩
  · exact ⟨rfl, rfl, pools⟩

theorem moves_resume {handle : HandleId} {due : Option Nat} {errand : Errand} :
    Moves depot task request (.closing id handle due errand)
      ((depot.endPoolClose id handle).resume task id errand) := by
  have booked := booked_endPoolClose depot id handle
  have same := (booked 0).pools.trans (set_pool depot 0)
  cases errand with
  | rescan slot => exact moves_enter (booked id) .rescan rfl
  | conclude =>
      exact moves_end _ rfl (by simp) rfl (by simp) (by simp) (by simp) (booked id).tasks
        (booked id).held same
  | drain rest later =>
      exact moves_aside _ rfl rfl (by simp) (by simp) (by simp) (List.sublist_append_left _ _)
        (booked id).tasks (booked id).held same

theorem moves_endCall {call : Call} :
    Moves depot task request (.calling call) (depot.endCall task call) := by
  have booked := booked_endDial depot call 0
  have same := booked.pools.trans (set_pool depot 0)
  unfold endCall
  split
  all_goals
    rename_i answer
    rw [answer] at booked same
  · refine moves_end _ rfl (by simp) rfl (by simp) (by simp) ?_ booked.tasks booked.held same
    rintro handle ⟨⟩
    exact ⟨call, rfl, by rw [answer]⟩
  · exact moves_end _ rfl (by simp) rfl (by simp) (by simp) (by simp) booked.tasks booked.held same
  · refine moves_end _ rfl (by simp) rfl (by simp) ?_ (by simp) booked.tasks booked.held same
    rintro message ⟨⟩
    exact ⟨call, rfl, by rw [answer]⟩

theorem moves_endCloseAlone {handle : HandleId} {due : Option Nat} :
    Moves depot task request (.closingAlone handle due) (depot.endCloseAlone task handle) := by
  unfold endCloseAlone
  split
  · exact moves_end (depot.endClose handle) rfl (by simp) rfl (by simp) (by simp) (by simp) rfl rfl
      rfl
  · exact moves_end (depot.endClose handle) rfl (by simp) rfl (by simp) (by simp) (by simp) rfl rfl
      rfl

theorem moves_stepFrom {next : Depot} (step : depot.stepFrom task request phase = some next) :
    Moves depot task request phase next := by
  unfold stepFrom at step
  split at step
  · cases step
    exact moves_answer depot task request
  · exact moves_look step
  · cases step
    exact moves_scan
  · split at step <;> cases step
    exact moves_endCheckoutDial
  · split at step <;> cases step
    exact moves_resume
  · cases step
    exact moves_drainNext _
  · cases step
    exact moves_shutNext _
  · split at step <;> cases step
    exact moves_endCall
  · split at step <;> cases step
    exact moves_endCloseAlone
  · cases step
  · cases step

theorem moves_drop (depot : Depot) (task : TaskId) (request : Request) (begun : phase ≠ .asked)
    (unfinished : phase.isOver = false) :
    Moves depot task request phase ((depot.undo task phase).enter task .dropped) := by
  have booked := booked_refl depot
  have aside (apart : phase.stake? = none) (idle : depot.undo task phase = depot) :
      Moves depot task request phase ((depot.undo task phase).enter task .dropped) := by
    rw [idle]
    exact moves_aside _ apart rfl (by simp) (fun asked => absurd asked begun) (by simp)
      (List.nil_sublist _) rfl rfl rfl
  -- Only a checkout that is under way has anything to give back to its pool.
  cases phase with
  | asked => exact absurd rfl begun
  | queued id context since => exact moves_enter (booked_changePool (booked id) _) .leave rfl
  | scanning id slot =>
      exact moves_enter (booked_handBack (booked id) slot false) (.abandon (Or.inl rfl)) rfl
  | dialing id slot call => exact moves_enter (booked_handBack (booked id) slot true) .letGo rfl
  | closing id handle due errand =>
      cases errand with
      | rescan slot =>
          exact moves_enter (booked_handBack (booked id) slot false)
            (.abandon (Or.inr ⟨handle, due, rfl⟩)) rfl
      | conclude => exact aside rfl rfl
      | drain rest later => exact aside rfl rfl
  | draining id handles later => exact aside rfl rfl
  | shutting pools => exact aside rfl rfl
  | calling call => exact aside rfl rfl
  | closingAlone handle due => exact aside rfl rfl
  | finished outcome => cases unfinished
  | dropped => cases unfinished

end HandlePool.Depot
