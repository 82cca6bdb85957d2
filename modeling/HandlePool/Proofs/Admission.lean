import HandlePool.Proofs.Passage

namespace HandlePool.Depot

variable {id view site : PoolId} {depot next : Depot} {task : TaskId} {request : Request}
  {phase phase' : Phase} {pool : Pool} {gate gate' : Gate} {back came : Nat}

/-- Where the slots of a gate are, and which tasks it knows. Every handle takes the slot along that
its checkout was admitted with, and as many as come back bring one. -/
structure Slots (id : PoolId) (back : Nat) (depot : Depot) (gate : Gate) : Prop where
  roomy : (depot.pool id).limits.maxActive.toNat ≤ Gate.capacity
  alike : gate.closed = (depot.pool id).closed
  orderly : gate.Orderly
  known : ∀ task, task ∈ gate.members → depot.isQueued id task = true
  listed : gate.closed = false → ∀ task, depot.isQueued id task = true → task ∈ gate.members
  spread : gate.closed = false → gate.slots + depot.inside id + (depot.checkedOut id).length =
    (depot.pool id).limits.maxActive.toNat + back
  within : gate.slots + depot.inside id + (depot.checkedOut id).length ≤
    (depot.pool id).limits.maxActive.toNat + back

structure Gating (id : PoolId) (back : Nat) (depot : Depot) : Prop where
  gated : (depot.pool id).gate.isSome = (depot.pool id).limits.boundedWait
  flags : ∀ task phase slot, depot.phase? task = some phase → phase.slot? id = some slot →
    slot = (depot.pool id).gate.isSome
  slots : ∀ gate, (depot.pool id).gate = some gate → Slots id back depot gate

abbrev Admission (id : PoolId) (depot : Depot) : Prop :=
  Gating id (depot.cameBack id).length depot

theorem any_before (becomes : Becomes depot.tasks request task phase phase' next.tasks)
    {test : Phase → Bool} (quiet : test .asked = false) :
    (depot.phase? task).any test = test phase := by
  rcases phase?_before becomes with ⟨asked, absent⟩ | ⟨-, there⟩
  · rw [absent, asked, quiet]
    rfl
  · rw [there]
    rfl

theorem any_after (becomes : Becomes depot.tasks request task phase phase' next.tasks)
    (test : Phase → Bool) : (next.phase? task).any test = test phase' := by
  rw [phase?_of_becomes becomes, if_pos rfl]
  rfl

theorem census_pos {test : Phase → Bool} (there : depot.phase? task = some phase)
    (counted : test phase = true) : 1 ≤ depot.census test := by
  obtain ⟨found, here, rfl⟩ := Option.map_eq_some_iff.mp there
  exact List.countP_pos_iff.mpr ⟨found, List.mem_of_getElem? here, counted⟩

theorem isQueued_others (becomes : Becomes depot.tasks request task phase phase' next.tasks)
    {other : TaskId} (apart : other ≠ task) : next.isQueued id other = depot.isQueued id other := by
  rw [isQueued, phase?_of_becomes becomes, if_neg apart]
  rfl

theorem flags_of_becomes (becomes : Becomes depot.tasks request task phase phase' next.tasks)
    {flag : Bool}
    (flags : ∀ task phase slot, depot.phase? task = some phase → phase.slot? id = some slot →
      slot = flag)
    (mine : ∀ slot, phase'.slot? id = some slot → phase.slot? id = some slot ∨ slot = flag) :
    ∀ task phase slot, next.phase? task = some phase → phase.slot? id = some slot →
      slot = flag := by
  intro other later slot there found
  rw [phase?_of_becomes becomes] at there
  split at there
  · cases there
    rcases mine slot found with before | same
    · rcases phase?_before becomes with ⟨asked, -⟩ | ⟨-, here⟩
      · rw [asked] at before
        cases before
      · exact flags task phase slot here before
    · exact same
  · exact flags other later slot there found

theorem slots_of_passage
    (becomes : Becomes depot.tasks request task phase phase' next.tasks)
    (slots : Slots id back depot gate)
    (limits : (next.pool id).limits = (depot.pool id).limits)
    (alike : gate'.closed = (next.pool id).closed)
    (passage : Passage task gate gate' (phase.isQueued id) (phase'.isQueued id)
      (phase.isInside id).toNat (phase'.isInside id).toNat (phase'.checkedOut? id).toList.length
      came) : Slots id (back + came) next gate' := by
  have before : depot.isQueued id task = phase.isQueued id := any_before becomes rfl
  have after : next.isQueued id task = phase'.isQueued id := any_after becomes _
  have known := slots.known task
  have listed := fun isOpen => slots.listed isOpen task
  rw [before] at known listed
  obtain ⟨mine, mine', fewer, rest⟩ := passage.members slots.orderly known listed
  obtain ⟨moved, stays⟩ := passage.slots
  have tally := tally_of_becomes id becomes
  have out := tally.out
  have insiders := countP_of_becomes becomes (Phase.isInside id) rfl
  -- A gate that is open now was open before: nothing opens one again.
  have reopens (isOpen : gate'.closed = false) : gate.closed = false := by
    cases closed : gate.closed with
    | false => rfl
    | true =>
        rw [(stays closed).1] at isOpen
        cases isOpen
  refine ⟨by rw [limits]; exact slots.roomy, alike, passage.orderly slots.orderly known,
    ?_, ?_, ?_, ?_⟩
  · intro other member
    by_cases same : other = task
    · rw [same] at member ⊢
      rw [after]
      exact mine member
    · rw [isQueued_others becomes same]
      exact slots.known other (fewer other same member)
  · intro isOpen other queued
    by_cases same : other = task
    · rw [same] at queued ⊢
      rw [after] at queued
      exact mine' isOpen queued
    · rw [isQueued_others becomes same] at queued
      exact rest isOpen other same (slots.listed (reopens isOpen) other queued)
  · intro isOpen
    have spread := slots.spread (reopens isOpen)
    have moved := moved (reopens isOpen)
    rw [limits, out]
    simp only [inside, census] at spread insiders ⊢
    omega
  · have within := slots.within
    have fewer := passage.within
    rw [limits, out]
    simp only [inside, census] at within insiders ⊢
    omega

theorem admission_of_same (same : next.pool id = depot.pool id)
    (queued : ∀ task, next.isQueued id task = depot.isQueued id task)
    (inside_same : next.inside id = depot.inside id)
    (out : (next.checkedOut id).length = (depot.checkedOut id).length)
    (flags : ∀ task phase slot, next.phase? task = some phase → phase.slot? id = some slot →
      slot = (depot.pool id).gate.isSome)
    (admission : Gating id back depot) : Gating id back next := by
  refine ⟨by rw [same]; exact admission.gated, by rw [same]; exact flags, fun gate gated => ?_⟩
  rw [same] at gated
  obtain ⟨roomy, alike, orderly, known, listed, spread, within⟩ := admission.slots gate gated
  refine ⟨by rw [same]; exact roomy, by rw [same]; exact alike, orderly, ?_, ?_, ?_, ?_⟩
  · intro task member
    rw [queued]
    exact known task member
  · intro isOpen task there
    rw [queued] at there
    exact listed isOpen task there
  · rw [same, inside_same, out]
    exact spread
  · rw [same, inside_same, out]
    exact within

theorem slot_missing (custody : Custody view depot) (outside : depot.pools.length ≤ id)
    (there : depot.phase? task = some phase) {slot : Bool} (found : phase.slot? id = some slot) :
    phase = .scanning id slot ∧ slot = false := by
  by_cases shows : phase.stake? = some id
  · have scanning := phase_missing custody outside there shows
    rw [scanning, slot?_scanning] at found
    cases found
    exact ⟨scanning, rfl⟩
  · rw [slot?_of_apart shows] at found
    cases found

theorem admission_missing (custody : Custody view depot) (outside : depot.pools.length ≤ id) :
    Gating id back depot := by
  have missing := depot.pool_of_length_le outside
  refine ⟨by rw [missing]; rfl, ?_, fun gate gated => ?_⟩
  · intro task phase slot there found
    rw [missing]
    exact (slot_missing custody outside there found).2
  · rw [missing] at gated
    cases gated

theorem gate_fresh (fresh : pool.IsFresh) : pool.gate.isSome = pool.limits.boundedWait ∧
    ∀ gate, pool.gate = some gate → pool.limits.maxActive.toNat ≤ Gate.capacity ∧
      pool.closed = false ∧ gate = { free := pool.limits.maxActive.toNat } := by
  obtain ⟨name, dialer, parameter, limits, opened⟩ := fresh
  unfold Pool.open? at opened
  split at opened
  · rename_i waits
    obtain ⟨gate, made, rfl⟩ := Option.map_eq_some_iff.mp opened
    refine ⟨waits.symm, fun gate' gated => ?_⟩
    cases gated
    unfold Gate.open? at made
    split at made
    · rename_i roomy
      cases made
      exact ⟨roomy, rfl, rfl⟩
    · cases made
  · rename_i unbounded
    cases opened
    exact ⟨(Bool.eq_false_iff.mpr unbounded).symm, fun gate gated => by cases gated⟩

theorem admission_fresh (custody : Custody view depot) (outside : depot.pools.length ≤ id)
    (fresh : (next.pool id).IsFresh) (resting : depot.Resting) (tasks : next.tasks = depot.tasks) :
    Gating id 0 next := by
  -- Only a checkout that scans could have been called on a pool before it was there, and none does
  -- while no task is half done.
  have nobody (task : TaskId) (phase : Phase) (slot : Bool)
      (there : next.phase? task = some phase) : phase.slot? id ≠ some slot := by
    intro found
    rw [phase?, tasks] at there
    have rests := resting task phase there
    rw [(slot_missing custody outside there found).1] at rests
    cases rests
  have unqueued (task : TaskId) : next.isQueued id task = false := by
    rw [isQueued, phase?, tasks]
    exact any_missing custody outside (fun _ => isQueued_of_apart) rfl
  have out : next.checkedOut id = [] := by
    rw [checkedOut, tasks]
    exact checkedOut_missing custody outside
  have insiders : next.inside id = 0 := by
    apply List.countP_eq_zero.mpr
    intro entry member counted
    obtain ⟨task, there⟩ := exists_phase? member
    obtain ⟨slot, found⟩ := Option.isSome_iff_exists.mp counted
    exact nobody task entry.phase slot there found
  refine ⟨(gate_fresh fresh).1, ?_, fun gate gated => ?_⟩
  · intro task phase slot there found
    exact absurd found (nobody task phase slot there)
  · obtain ⟨roomy, isOpen, same⟩ := (gate_fresh fresh).2 gate gated
    subst same
    refine ⟨roomy, isOpen.symm, Gate.orderly_new _, ?_, ?_, ?_, ?_⟩
    · intro task member
      cases member
    · intro _ task queued
      rw [unqueued] at queued
      cases queued
    · intro
      rw [out, insiders]
      rfl
    · rw [out, insiders]
      exact Nat.le_refl _

theorem cameBack_grows {actor : Option TaskId} (id : PoolId)
    (move : Move view depot actor next) :
    (depot.cameBack id).length ≤ (next.cameBack id).length := by
  cases actor with
  | some task =>
      obtain ⟨request, phase, phase', site, pool, held, effect, pools, tasks, -⟩ :=
        shift_of_move move
      rw [(tally_of_becomes id tasks).back]
      exact Nat.le_add_right _ _
  | none =>
      cases move with
      | outside resting tasks =>
          rw [cameBack, cameBack, tasks]

theorem passage_of_own (gating : Gating id back depot)
    (becomes : Becomes depot.tasks request task phase phase' next.tasks)
    (effect : Effect depot task request id phase phase' pool)
    (gated : (depot.pool id).gate = some gate) :
    ∃ gate', pool.gate = some gate' ∧ gate'.closed = pool.closed ∧
      Passage task gate gate' (phase.isQueued id) (phase'.isQueued id) (phase.isInside id).toNat
        (phase'.isInside id).toNat (phase'.checkedOut? id).toList.length
        (bringsBack id request phase) := by
  have slots := gating.slots gate gated
  refine passage_of_effect effect gated slots.orderly slots.alike fun slot found => ?_
  rcases phase?_before becomes with ⟨asked, -⟩ | ⟨-, here⟩
  · rw [asked] at found
    cases found
  · rw [gating.flags task phase slot here found, gated]
    rfl

theorem gating_of_move {actor : Option TaskId} (move : Move view depot actor next)
    (custody : Custody view depot) (admission : Gating id back depot)
    (unused : depot.pools.length ≤ id → back = 0)
    (brought : (next.cameBack id).length = (depot.cameBack id).length + came) :
    Gating id (back + came) next := by
  have custody' := custody.keeps move
  have unchanged (tasks : next.tasks = depot.tasks) : came = 0 := by
    rw [cameBack, tasks] at brought
    exact Nat.left_eq_add.mp brought
  cases (touch_of_move move : Touch id depot actor next) with
  | missing outside outside' => exact admission_missing custody' outside'
  | fresh outside fresh resting tasks =>
      rw [unused outside, unchanged tasks]
      exact admission_fresh custody outside fresh resting tasks
  | still same tasks =>
      have phases (task : TaskId) : next.phase? task = depot.phase? task := by
        rw [phase?, phase?, tasks]
      rw [unchanged tasks]
      refine admission_of_same same ?_ ?_ ?_ ?_ admission
      · intro task
        rw [isQueued, isQueued, phases]
      · rw [inside, inside, census, census, tasks]
      · rw [checkedOut, checkedOut, tasks]
      · intro task phase slot there
        rw [phases] at there
        exact admission.flags task phase slot there
  | other who same becomes apart apart' plain =>
      rename_i task request phase phase'
      have tally := tally_of_becomes id becomes
      have insiders := countP_of_becomes becomes (Phase.isInside id) rfl
      rw [isInside_of_apart apart, isInside_of_apart apart'] at insiders
      rw [checkedOut?_eq_none apart', bringsBack_of_none plain] at tally
      rw [Nat.left_eq_add.mp (tally.back.symm.trans brought)]
      refine admission_of_same same ?_ insiders tally.out ?_ admission
      · intro other
        by_cases mine : other = task
        · rw [mine, isQueued, isQueued, any_before becomes rfl, any_after becomes,
            isQueued_of_apart apart, isQueued_of_apart apart']
        · exact isQueued_others becomes mine
      · apply flags_of_becomes becomes admission.flags
        intro slot found
        rw [slot?_of_apart apart'] at found
        cases found
  | own who inside becomes effect =>
      rename_i task request phase phase'
      obtain ⟨limits, -, there⟩ := fixed_of_effect effect
      refine ⟨by rw [there, limits]; exact admission.gated, ?_, fun gate' gated' => ?_⟩
      · rw [there]
        exact flags_of_becomes becomes admission.flags fun slot => slot_of_effect effect
      · rw [gated'] at there
        obtain ⟨gate, gated⟩ := Option.isSome_iff_exists.mp there.symm
        have slots := admission.slots gate gated
        obtain ⟨_, found, alike, passage⟩ := passage_of_own admission becomes effect gated
        cases gated'.symm.trans found
        have tally := tally_of_becomes id becomes
        rw [Nat.add_left_cancel (tally.back.symm.trans brought)] at passage
        exact slots_of_passage becomes slots limits alike passage

theorem admission_of_move {actor : Option TaskId} (move : Move id depot actor next)
    (custody : Custody id depot) (admission : Admission id depot) : Admission id next := by
  obtain ⟨came, brought⟩ := Nat.exists_eq_add_of_le (cameBack_grows id move)
  rw [Admission, brought]
  refine gating_of_move move custody admission (fun outside => ?_) brought
  rw [cameBack_missing custody outside]
  rfl

theorem admission_empty (id : PoolId) : Admission id {} := by
  refine ⟨rfl, ?_, fun gate gated => by cases gated⟩
  intro task phase slot there
  cases there

end HandlePool.Depot
