import HandlePool.Proofs.Ownership
import HandlePool.Proofs.OwnTurns

namespace HandlePool

def Conduct.produced : Conduct → Nat
  | .counted counter => counter.created
  | .scripted script => script.made

namespace Dialer

def produced (dialer : Dialer) : Nat := dialer.conduct.produced

variable (dialer : Dialer)

theorem produced_changeCounter {change : Counter → Counter}
    (keeps : ∀ counter, (change counter).created = counter.created) :
    (dialer.changeCounter change).produced = dialer.produced := by
  obtain ⟨name, counter | script⟩ := dialer
  · exact keeps counter
  · rfl

theorem produced_changeScript {change : Script → Script}
    (keeps : ∀ script, (change script).made = script.made) :
    (dialer.changeScript change).produced = dialer.produced := by
  obtain ⟨name, counter | script⟩ := dialer
  · rfl
  · exact keeps script

theorem produced_conclude (ending : Option DialEnd) :
    (dialer.conclude ending).2.produced = dialer.produced := by
  obtain ⟨name, counter | script⟩ := dialer
  · unfold conclude Counter.conclude
    dsimp only
    split <;> rfl
  · rfl

theorem produced_enroll (handle : HandleId) :
    (dialer.enroll handle).produced = dialer.produced + 1 := by
  obtain ⟨name, counter | script⟩ := dialer <;> rfl

end Dialer

def Request.dialer? : Request → Option DialerId
  | .dial dialer _ => some dialer
  | _ => none

def Task.dialed (dialer : DialerId) : Task → Bool
  | ⟨.dial called _, .finished (.dialed _)⟩ => called == dialer
  | _ => false

def Phase.source? (phase phase' : Phase) : Option DialerId :=
  if phase'.got?.isSome then phase.call?.map (·.dialer) else none

def Pool.share (dialer : DialerId) (pool : Pool) : Nat :=
  if pool.dialer = some dialer then pool.created else 0

namespace Depot

def createdWith (depot : Depot) (dialer : DialerId) : Nat :=
  (depot.pools.map (Pool.share dialer)).sum

def dialedWith (depot : Depot) (dialer : DialerId) : Nat :=
  depot.tasks.countP (Task.dialed dialer)

structure Calling (depot : Depot) : Prop where
  pools : ∀ task id slot call, depot.phase? task = some (.dialing id slot call) →
    (depot.pool id).dialer = some call.dialer
  callers : ∀ (task : TaskId) request call,
    depot.tasks[task]? = some (⟨request, .calling call⟩ : Task) →
    request.dialer? = some call.dialer

variable {id site view : PoolId} {dialer : DialerId} {depot next : Depot} {task : TaskId}
  {request : Request} {phase phase' : Phase} {pool : Pool} {call : Call} {handle : HandleId}

theorem produced_changeDialer (depot : Depot) (id other : DialerId) {change : Dialer → Dialer}
    (keeps : ∀ dialer : Dialer, (change dialer).produced = dialer.produced) :
    ((depot.changeDialer id change).dialer other).produced = (depot.dialer other).produced := by
  rw [changeDialer, dialer_setDialer]
  split
  · rename_i same
    rw [keeps, same.1]
  · rfl

theorem produced_endDial (depot : Depot) (call : Call) (inside : dialer < depot.dialers.length) :
    (∃ handle, (depot.endDial call).1 = .connected handle) ∧
      ((depot.endDial call).2.dialer dialer).produced =
        (depot.dialer dialer).produced + (some call.dialer == some dialer).toNat ∨
    (∀ handle, (depot.endDial call).1 ≠ .connected handle) ∧
      ((depot.endDial call).2.dialer dialer).produced = (depot.dialer dialer).produced := by
  have concluded := produced_changeDialer depot call.dialer dialer
    (fun dialer => dialer.produced_conclude call.ending)
  unfold endDial
  split
  rename_i ending ended same
  have changed : depot.changeDialer call.dialer (fun dialer => (dialer.conclude call.ending).2) =
      depot.setDialer call.dialer ended := by
    rw [changeDialer, same]
  rw [changed] at concluded
  cases ending with
  | connect fitting =>
      refine Or.inl ⟨⟨_, rfl⟩, ?_⟩
      rw [← concluded]
      show (((depot.setDialer call.dialer ended).setDialer call.dialer _).dialer
        dialer).produced = _
      rw [dialer_setDialer]
      by_cases mine : call.dialer = dialer
      · rw [if_pos ⟨mine, by simpa [setDialer] using inside⟩, Dialer.produced_enroll, mine,
          beq_self_eq_true]
        rfl
      · have apart : (some call.dialer == some dialer) = false := by simpa using mine
        rw [if_neg fun both => mine both.1, apart]
        rfl
  | refuse reason => exact Or.inr ⟨by simp, concluded⟩
  | panic message => exact Or.inr ⟨by simp, concluded⟩

theorem dialers_endDial (depot : Depot) (call : Call) :
    (depot.endDial call).2.dialers.length = depot.dialers.length := by
  unfold endDial
  split
  rename_i ending ended _
  cases ending <;> simp [addHandle, setDialer]

theorem source?_of_none (nothing : phase.call? = none ∨ phase'.got? = none) :
    phase.source? phase' = none := by
  rcases nothing with quiet | nothing
  · simp [Phase.source?, quiet]
  · simp [Phase.source?, nothing]

theorem dialers_of_deed (deed : Deed depot request next phase phase') :
    next.dialers.length = depot.dialers.length := by
  cases deed with
  | plain idle silent nothing rest => rw [rest.dialers]
  | beginsClose closes rest =>
      rw [rest.dialers]
      rfl
  | endsClose closed idle silent rest =>
      rw [rest.dialers]
      rfl
  | beginsDial calls who rest =>
      rw [rest.dialers]
      exact List.length_set
  | endsDial called isOver yields rest =>
      rw [rest.dialers]
      exact dialers_endDial depot _

theorem produced_of_deed (deed : Deed depot request next phase phase')
    (inside : dialer < depot.dialers.length) :
    (next.dialer dialer).produced =
      (depot.dialer dialer).produced + (phase.source? phase' == some dialer).toNat := by
  have still (nothing : phase.call? = none ∨ phase'.got? = none)
      (same : (next.dialer dialer).produced = (depot.dialer dialer).produced) :
      (next.dialer dialer).produced =
        (depot.dialer dialer).produced + (phase.source? phase' == some dialer).toNat := by
    rw [source?_of_none nothing]
    exact same
  have alike {worked : Depot} (same : next.dialers = worked.dialers) :
      next.dialer dialer = worked.dialer dialer := by
    rw [Depot.dialer, same]
    rfl
  cases deed with
  | plain idle silent nothing rest => exact still nothing (by rw [alike rest.dialers])
  | beginsClose closes rest =>
      refine still (Or.inr (silent_of_closing? closes).2) ?_
      rw [alike rest.dialers]
      rfl
  | endsClose closed idle silent rest =>
      refine still (Or.inl (silent_of_closing? closed).1) ?_
      rw [alike rest.dialers]
      rfl
  | beginsDial calls who rest =>
      rename_i called parameter
      refine still (Or.inr (idle_of_call? calls).2) ?_
      rw [alike rest.dialers]
      exact produced_changeDialer (depot.record _) called dialer fun dialer =>
        dialer.produced_changeScript fun _ => rfl
  | endsDial called isOver yields rest =>
      rename_i call
      rcases depot.produced_endDial call inside with ⟨⟨handle, answer⟩, more⟩ | ⟨nothing, kept⟩
      · rw [alike rest.dialers, more, Phase.source?, (yields handle).mpr answer, called]
        rfl
      · refine still (Or.inr ?_) (by rw [alike rest.dialers, kept])
        cases got : phase'.got? with
        | none => rfl
        | some handle => exact absurd ((yields handle).mp got) (nothing handle)

theorem got_of_effect (effect : Effect depot task request site phase phase' pool)
    (got : phase'.got? = some handle) :
    (∃ call, phase = .calling call) ∧ phase' = .finished (.dialed handle) ∨
      phase.stake? = some site ∧ phase' = .finished (.checkedOut site handle) := by
  have failed {overflow : Bool} {outcome : Outcome} {there : Prop}
      (nothing : (Phase.finished outcome).got? = none)
      (got : (Phase.finished (overflowOr overflow outcome)).got? = some handle) : there := by
    rw [got?_overflowOr _ nothing] at got
    cases got
  cases effect with
  | aside apart apart' begun plain served calm carries dials =>
      left
      cases phase' with
      | finished outcome =>
          cases outcome with
          | checkedOut => cases apart'
          | dialed given =>
              cases got
              obtain ⟨call, from_, -⟩ := dials handle rfl
              exact ⟨⟨call, from_⟩, rfl⟩
          | _ => cases got
      | _ => cases got
  | reuse | connect =>
      cases got
      exact Or.inr ⟨rfl, rfl⟩
  | reject taken unusable goes => rcases goes with rfl | ⟨due, rfl⟩ <;> cases got
  | giveBack asks goes => rcases goes with ⟨-, rfl⟩ | ⟨-, rfl⟩ | ⟨oldest, due, -, rfl⟩ <;> cases got
  | discard asks goes => rcases goes with ⟨-, rfl⟩ | rfl | ⟨due, rfl⟩ <;> cases got
  | bounce | quit | deny | unconfigured | refuse => exact failed rfl got
  | panic => exact failed rfl got
  | _ => cases got

theorem checkedOut?_of_dialing (effect : Effect depot task request site phase phase' pool)
    (dials : phase.isDialing site = true) : phase'.checkedOut? site = phase'.got? := by
  cases got : phase'.got? with
  | none => exact checkedOut?_of_got? got
  | some handle =>
      rcases got_of_effect effect got with ⟨⟨call, rfl⟩, -⟩ | ⟨-, rfl⟩
      · cases dials
      · exact checkedOut?_own handle

theorem created_of_effect (effect : Effect depot task request site phase phase' pool) :
    pool.created = (depot.pool site).created +
      (phase.isDialing site && phase'.got?.isSome).toNat := by
  have counted := (entry_of_effect effect).created_eq
  cases dials : phase.isDialing site with
  | false =>
      rw [dials] at counted
      simpa [figures] using counted
  | true =>
      rw [dials, checkedOut?_of_dialing effect dials] at counted
      cases got : phase'.got? <;> simpa [figures, got] using counted

theorem isDialing_eq_true (dials : phase.isDialing id = true) :
    ∃ slot call, phase = .dialing id slot call := by
  cases phase with
  | dialing pool slot call =>
      obtain rfl := beq_iff_eq.mp dials
      exact ⟨slot, call, rfl⟩
  | _ => cases dials

section Supplying

variable (calling : Calling depot)
  (becomes : Becomes depot.tasks request task phase phase' next.tasks)
  (effect : Effect depot task request site phase phase' pool)

include calling becomes

theorem dialer_of_becomes {slot : Bool} (dials : phase = .dialing id slot call) :
    (depot.pool id).dialer = some call.dialer := by
  subst dials
  have there := (before_of_becomes becomes).resolve_left (by simp)
  exact calling.pools task id slot call (phase?_of_getElem? there.2)

theorem inside_of_becomes (dials : phase.isDialing id = true) : id < depot.pools.length := by
  obtain ⟨slot, call, rfl⟩ := isDialing_eq_true dials
  have there := dialer_of_becomes calling becomes rfl
  apply Nat.lt_of_not_le
  intro outside
  rw [depot.pool_of_length_le outside] at there
  cases there

theorem request_of_becomes (calls : phase = .calling call) :
    request.dialer? = some call.dialer := by
  subst calls
  have there := (before_of_becomes becomes).resolve_left (by simp)
  exact calling.callers task request call there.2

include effect

theorem share_of_effect (dialer : DialerId) :
    pool.share dialer = (depot.pool site).share dialer +
      (phase.isDialing site && phase.source? phase' == some dialer).toNat := by
  have created := created_of_effect effect
  rw [Pool.share, Pool.share, (fixed_of_effect effect).dialer]
  cases dials : phase.isDialing site with
  | false =>
      rw [dials] at created
      simp only [Bool.false_and, Bool.toNat_false, Nat.add_zero] at created ⊢
      rw [created]
  | true =>
      rw [dials] at created
      obtain ⟨slot, call, rfl⟩ := isDialing_eq_true dials
      rw [dialer_of_becomes calling becomes rfl, created]
      cases got : phase'.got? with
      | none => simp [Phase.source?, got]
      | some handle =>
          by_cases mine : call.dialer = dialer
          · simp [Phase.source?, Phase.call?, got, mine]
          · simp [Phase.source?, Phase.call?, got, mine, beq_eq_false_iff_ne.mpr mine]

theorem createdWith_of_effect (pools : next.pools = depot.pools.set site pool) (dialer : DialerId) :
    next.createdWith dialer = depot.createdWith dialer +
      (phase.isDialing site && phase.source? phase' == some dialer).toNat := by
  have share := share_of_effect calling becomes effect dialer
  rw [createdWith, createdWith, pools]
  by_cases inside : site < depot.pools.length
  · have here : depot.pools[site]? = some (depot.pool site) := by
      simp [Depot.pool, List.getD_eq_getElem?_getD, inside]
    have summed := sum_map_set (Pool.share dialer) here pool
    omega
  · have quiet : phase.isDialing site = false :=
      Bool.eq_false_iff.mpr fun dials => inside (inside_of_becomes calling becomes dials)
    rw [List.set_eq_of_length_le (Nat.le_of_not_lt inside), quiet]
    rfl

theorem dialed_of_effect (dialer : DialerId) :
    Task.dialed dialer ⟨request, phase'⟩ =
      (!phase.isDialing site && phase.source? phase' == some dialer) := by
  cases got : phase'.got? with
  | none =>
      have unsaid : Task.dialed dialer ⟨request, phase'⟩ = false := by
        unfold Task.dialed
        split
        · rename_i same
          cases same
          cases got
        · rfl
      rw [unsaid, source?_of_none (Or.inr got)]
      simp
  | some handle =>
      rcases got_of_effect effect got with ⟨⟨call, rfl⟩, rfl⟩ | ⟨shows, rfl⟩
      · have asks := request_of_becomes calling becomes rfl
        cases request with
        | dial called parameter =>
            cases asks
            simp [Task.dialed, Phase.isDialing, Phase.source?, Phase.got?, Phase.call?]
        | _ => cases asks
      · have unsaid :
            Task.dialed dialer ⟨request, .finished (.checkedOut site handle)⟩ = false := by
          cases request <;> rfl
        rw [unsaid]
        cases phase with
        | dialing pool slot call =>
            cases shows
            rw [isDialing_own]
            rfl
        | calling call => cases shows
        | _ => rfl

theorem dialedWith_of_effect (dialer : DialerId) :
    next.dialedWith dialer = depot.dialedWith dialer +
      (!phase.isDialing site && phase.source? phase' == some dialer).toNat := by
  have counted := countP_tasks_of_becomes becomes (Task.dialed dialer)
    (by cases request <;> rfl)
  have before : Task.dialed dialer ⟨request, phase⟩ = false := by
    have unfinished := unfinished_of_becomes becomes
    unfold Task.dialed
    split
    · rename_i same
      cases same
      cases unfinished
    · rfl
  rw [before, dialed_of_effect calling becomes effect dialer] at counted
  exact counted

end Supplying

theorem dialer_lasts {actor : Option TaskId} (move : Move view depot actor next)
    (there : (depot.pool id).dialer = some dialer) : (next.pool id).dialer = some dialer := by
  have inside : ¬ depot.pools.length ≤ id := by
    intro outside
    rw [depot.pool_of_length_le outside] at there
    cases there
  cases (touch_of_move move : Touch id depot actor next) with
  | missing outside => exact absurd outside inside
  | fresh outside => exact absurd outside inside
  | still same => rw [same]; exact there
  | other who same => rw [same]; exact there
  | own who inside becomes effect => rw [(fixed_of_effect effect).dialer]; exact there

theorem goes_of_calls (calls : depot.Calls request phase dialer)
    (effect : Effect depot task request site phase phase' pool)
    (dials : phase'.call? = some call) :
    (∃ slot, phase' = .dialing site slot call ∧ (depot.pool site).dialer = some dialer) ∨
      phase' = .calling call ∧ request.dialer? = some dialer := by
  rcases calls with ⟨id, slot, rfl, there⟩ | ⟨rfl, parameter, rfl⟩
  · left
    have here := site_of_effect effect (Or.inr rfl)
    subst here
    cases effect with
    | dial =>
        cases dials
        exact ⟨_, rfl, there⟩
    | aside apart => cases apart
    | pass grant => cases grant
    | reject taken unusable goes => rcases goes with rfl | ⟨due, rfl⟩ <;> cases dials
    | abandon | reuse => cases dials
    | deny | unconfigured =>
        unfold overflowOr at dials
        split at dials <;> cases dials
  · right
    cases phase' with
    | calling =>
        cases dials
        exact ⟨rfl, rfl⟩
    | dialing pool slot =>
        rcases stake_of_effect effect rfl with shows | ⟨-, context, asks⟩
        · cases shows
        · cases asks
    | _ => cases dials

theorem begins_of_move (move : Move view depot (some task) next) :
    ∃ request phase phase', Becomes depot.tasks request task phase phase' next.tasks ∧
      ∀ call, phase'.call? = some call →
        (∃ id slot, phase' = .dialing id slot call ∧
          (depot.pool id).dialer = some call.dialer) ∨
        phase' = .calling call ∧ request.dialer? = some call.dialer := by
  obtain ⟨request, phase, phase', site, pool, held, effect, pools, tasks, -⟩ := shift_of_move move
  refine ⟨request, phase, phase', tasks, fun call dials => ?_⟩
  -- Of all deeds only the beginning of a dial leaves a task with one under way.
  cases deed_of_move move tasks with
  | plain idle silent =>
      rw [silent] at dials
      cases dials
  | beginsClose closes =>
      rw [(silent_of_closing? closes).1] at dials
      cases dials
  | endsClose closed idle silent =>
      rw [silent] at dials
      cases dials
  | beginsDial calls who =>
      have same := calls.symm.trans dials
      cases same
      rcases goes_of_calls who effect calls with ⟨slot, there, given⟩ | there
      · exact Or.inl ⟨site, slot, there, given⟩
      · exact Or.inr there
  | endsDial called isOver =>
      rw [call?_of_isOver isOver] at dials
      cases dials

theorem Calling.keeps {actor : Option TaskId} (move : Move view depot actor next)
    (calling : Calling depot) : Calling next := by
  constructor
  · intro task id slot call there
    apply dialer_lasts move
    by_cases mine : actor = some task
    · subst mine
      obtain ⟨request, phase, phase', tasks, begins⟩ := begins_of_move move
      rw [phase?_of_getElem? (phase_of_becomes tasks), Option.some.injEq] at there
      subst there
      rcases begins call rfl with ⟨id', slot', same, given⟩ | ⟨same, -⟩
      · cases same
        exact given
      · cases same
    · rw [phase?_of_others move mine] at there
      exact calling.pools task id slot call there
  · intro task request call there
    by_cases mine : actor = some task
    · subst mine
      obtain ⟨request', phase, phase', tasks, begins⟩ := begins_of_move move
      rw [phase_of_becomes tasks] at there
      cases there
      rcases begins call rfl with ⟨id', slot', same, -⟩ | ⟨-, asks⟩
      · cases same
      · exact asks
    · rw [tasks_of_others move mine] at there
      exact calling.callers task request call there

theorem calling_empty : Calling {} := by
  constructor
  · intro task id slot call there
    cases there
  · intro task request call there
    cases there

end Depot

end HandlePool
