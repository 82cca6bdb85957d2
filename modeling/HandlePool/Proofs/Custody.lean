import HandlePool.Proofs.Census

/-!
Where handles are once a checkout has returned them. What callers hold and what they brought back
are handles that were checked out, each as often at most as it was.
-/
namespace HandlePool.Depot

def heldOf (id : PoolId) (held : List Holding) : List HandleId :=
  held.filterMap fun holding => if holding.pool = some id then some holding.handle else none

def away (depot : Depot) (id : PoolId) : List HandleId :=
  (depot.checkedOut id).diff (depot.cameBack id)

/-- What a phase shows in the books of a pool, it shows in a pool that exists. A checkout that still
scans may have been called on a pool that does not. -/
structure Custody (id : PoolId) (depot : Depot) : Prop where
  sited : ∀ task phase site, depot.phase? task = some phase → phase.stake? = some site →
    site < depot.pools.length ∨ phase = .scanning site false
  accounted : ∀ handle, (heldOf id depot.held).count handle + (depot.cameBack id).count handle ≤
    (depot.checkedOut id).count handle

variable {id site : PoolId} {depot next : Depot} {task : TaskId} {request : Request}
  {phase phase' : Phase} {pool : Pool} {held : List Holding}

theorem heldOf_append (first second : List Holding) :
    heldOf id (first ++ second) = heldOf id first ++ heldOf id second := by
  simp [heldOf]

theorem heldOf_gains (task : TaskId) (phase : Phase) :
    heldOf id (gains task phase) = (phase.checkedOut? id).toList := by
  cases phase with
  | finished outcome =>
      cases outcome with
      | checkedOut pool handle =>
          by_cases same : pool = id <;>
            simp [gains, Holding.ofOutcome?, heldOf, Phase.checkedOut?, same]
      | _ => rfl
  | _ => rfl

theorem count_heldOf_sublist (id : PoolId) {fewer : List Holding} (sublist : fewer.Sublist held)
    (handle : HandleId) : (heldOf id fewer).count handle ≤ (heldOf id held).count handle :=
  (sublist.filterMap _).count_le handle

theorem count_surrendered (called : depot.Called id request held) (handle : HandleId) :
    (heldOf id held).count handle + (request.returnedTo? id).toList.count handle ≤
      (heldOf id depot.held).count handle := by
  cases called with
  | plain keeps => simp [Request.returnedTo?, keeps]
  | surrendered there own brings =>
      rename_i place holding
      obtain ⟨inside, here⟩ := List.getElem?_eq_some_iff.mp there
      cases returned : request.returnedTo? id with
      | none =>
          simpa using count_heldOf_sublist id (List.eraseIdx_sublist depot.held place) handle
      | some back =>
          have returned : request.returned? = some (id, back) := by
            obtain ⟨⟨site, given⟩, gives, found⟩ := Option.bind_eq_some_iff.mp returned
            simp only [Option.ite_none_right_eq_some, Option.some.injEq] at found
            rw [gives, found.1, found.2]
          obtain ⟨from_, same⟩ := own back returned
          have perm := (List.getElem_cons_eraseIdx_perm inside).filterMap fun holding : Holding =>
            if holding.pool = some id then some holding.handle else none
          rw [here] at perm
          have counted := perm.count_eq handle
          simp only [List.filterMap_cons, from_, if_true, same, List.count_cons] at counted
          simp only [heldOf, Option.toList_some, List.count_cons, List.count_nil]
          omega

theorem stake_of_missing (effect : Effect depot task request site phase phase' pool)
    (outside : depot.pools.length ≤ site)
    (sited : phase.stake? = some site → phase = .scanning site false) :
    phase'.stake? = some site → phase' = .scanning site false := by
  intro shows
  have missing : depot.pool site = default := depot.pool_of_length_le outside
  have ungated {gate : Gate} (gated : (depot.pool site).gate = some gate) :
      phase' = .scanning site false := by
    rw [missing] at gated
    cases gated
  have nothing {entry : HandleId × Pool} (taken : (depot.pool site).takeNewest = some entry) :
      phase' = .scanning site false := by
    rw [missing] at taken
    cases taken
  cases effect with
  | aside apart apart' => rw [apart'] at shows; cases shows
  | queue asks gated => exact ungated gated
  | bounce asks gated => exact ungated gated
  | pass grant =>
      cases grant with
      | free => rfl
      | taken asks gated => exact ungated gated
      | collected gated => exact ungated gated
  | reuse taken => exact nothing taken
  | reject taken => exact nothing taken
  | dial empty allowed there => rw [missing] at there; cases there
  | giveBack asks goes =>
      rcases goes with ⟨-, rfl⟩ | ⟨-, rfl⟩ | ⟨oldest, due, -, rfl⟩ <;> cases shows
  | discard asks goes => rcases goes with ⟨-, rfl⟩ | rfl | ⟨due, rfl⟩ <;> cases shows
  | deny | unconfigured =>
      unfold overflowOr at shows
      split at shows <;> cases shows
  | quit | leave | connect | refuse | panic | letGo | rescan => cases sited rfl
  | turnedAway | abandon | shut => cases shows

theorem phase?_of_becomes (becomes : Becomes depot.tasks request task phase phase' next.tasks)
    (other : TaskId) :
    next.phase? other = if other = task then some phase' else depot.phase? other := by
  by_cases same : other = task
  · rw [if_pos same, same, phase?_of_getElem? (phase_of_becomes becomes)]
  · rw [if_neg same, phase?, phase?, others_of_becomes becomes same]

theorem custody_of_shift (shift : Shift id depot task next) (custody : Custody id depot) :
    Custody id next := by
  obtain ⟨request, phase, phase', site, pool, held, effect, pools, tasks, called, kept, gained⟩ :=
    shift
  have length : next.pools.length = depot.pools.length := by rw [pools, List.length_set]
  have phases := phase?_of_becomes tasks
  constructor
  · intro other there at_ found shows
    rw [length]
    rw [phases] at found
    by_cases same : other = task
    · rw [if_pos same, Option.some.injEq] at found
      subst found
      by_cases here : site = at_
      · subst here
        by_cases inside : site < depot.pools.length
        · exact Or.inl inside
        · refine Or.inr (stake_of_missing effect (Nat.le_of_not_lt inside) (fun stake => ?_) shows)
          rcases before_of_becomes tasks with ⟨asked, -⟩ | ⟨-, before⟩
          · rw [asked] at stake
            cases stake
          · have there := phase?_of_getElem? before
            exact (custody.sited task phase site there stake).resolve_left inside
      · exact absurd shows (stakes_of_effect effect here).2.1
    · rw [if_neg same] at found
      exact custody.sited other there at_ found shows
  · intro handle
    have before := custody.accounted handle
    have out := (checkedOut_of_becomes id tasks).count_eq handle
    have back := congrArg (List.count handle) (cameBack_of_becomes id tasks)
    rw [List.count_append] at out back
    rw [gained, heldOf_append, heldOf_gains, List.count_append]
    simp only [checkedOut, cameBack] at before ⊢
    -- What a task brings back its caller gave up when the task began.
    by_cases asked : phase = .asked
    · subst asked
      have surrendered := count_surrendered (called rfl) handle
      simp only [if_true] at back
      omega
    · rw [if_neg asked, List.count_nil] at back
      rw [kept asked]
      omega

theorem Custody.keeps {actor : Option TaskId} (move : Move id depot actor next)
    (custody : Custody id depot) : Custody id next := by
  cases actor with
  | some task => exact custody_of_shift (shift_of_move move) custody
  | none =>
      have grown := pools_grow move
      cases move with
      | outside resting tasks held pools =>
          constructor
          · intro task phase site found shows
            rw [phase?, tasks] at found
            exact (custody.sited task phase site found shows).imp_left (Nat.lt_of_lt_of_le · grown)
          · intro handle
            have before := custody.accounted handle
            have fewer := count_heldOf_sublist id held handle
            simp only [checkedOut, cameBack, tasks] at before ⊢
            omega

theorem custody_empty (id : PoolId) : Custody id {} := by
  constructor
  · intro task phase site found
    cases found
  · intro handle
    exact Nat.le_refl _

theorem cameBack_subperm (custody : Custody id depot) :
    (depot.cameBack id).Subperm (depot.checkedOut id) := by
  rw [List.subperm_ext_iff]
  intro handle _
  have counted := custody.accounted handle
  omega

theorem length_away (custody : Custody id depot) :
    (depot.cameBack id).length + (depot.away id).length = (depot.checkedOut id).length := by
  have perm := List.subperm_append_diff_self_of_count_le
    (List.subperm_ext_iff.mp (cameBack_subperm custody))
  rw [← perm.length_eq, List.length_append]
  rfl

section Missing

variable {view : PoolId} (custody : Custody view depot) (outside : depot.pools.length ≤ id)

include custody outside

theorem phase_missing (there : depot.phase? task = some phase) (shows : phase.stake? = some id) :
    phase = .scanning id false :=
  (custody.sited task phase id there shows).resolve_left (Nat.not_lt_of_le outside)

section

variable {test : Phase → Bool} (apart : ∀ phase, phase.stake? ≠ some id → test phase = false)
  (scanning : test (.scanning id false) = false)

include apart scanning

theorem test_missing (there : depot.phase? task = some phase) : test phase = false := by
  by_cases shows : phase.stake? = some id
  · rw [phase_missing custody outside there shows]
    exact scanning
  · exact apart phase shows

theorem any_missing : (depot.phase? task).any test = false := by
  cases there : depot.phase? task with
  | none => rfl
  | some phase => exact test_missing custody outside apart scanning there

theorem census_missing : depot.census test = 0 := by
  apply List.countP_eq_zero.mpr
  intro entry member counted
  obtain ⟨task, there⟩ := exists_phase? member
  rw [test_missing custody outside apart scanning there] at counted
  cases counted

end

theorem checkedOut_missing : depot.checkedOut id = [] := by
  apply List.filterMap_eq_nil_iff.mpr
  intro entry member
  obtain ⟨task, there⟩ := exists_phase? member
  cases got : entry.phase.checkedOut? id with
  | none => rfl
  | some handle =>
      have isOver := checkedOut?_eq_some got
      have scanning := phase_missing custody outside there (by rw [isOver]; rfl)
      rw [isOver] at scanning
      cases scanning

end Missing

theorem cameBack_missing (custody : Custody id depot) (outside : depot.pools.length ≤ id) :
    depot.cameBack id = [] := by
  have subperm := cameBack_subperm custody
  rw [checkedOut_missing custody outside] at subperm
  exact List.subperm_nil.mp subperm

end HandlePool.Depot
