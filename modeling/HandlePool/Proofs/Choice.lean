import HandlePool.Proofs.Scan

namespace HandlePool.Depot

structure Removes (id : PoolId) (start after : Depot) (removed : List HandleId) : Prop where
  active : (after.pool id).active + removed.length = (start.pool id).active
  destroyed : (after.pool id).destroyed = (start.pool id).destroyed + removed.length
  begun : after.begun = start.begun ++ removed.filter (!start.isClosed ·)
  once : after.begun.Nodup

structure Goes (id : PoolId) (slot : Bool) (task : TaskId) (turns : List Turn) : Prop where
  undisturbed : ∀ turn ∈ turns, turn.Undisturbed task
  scans : ∀ turn ∈ turns, (turn.after.stage task).Scans id slot

/-- A checkout gets past the gate in a turn and scans in those after it, undisturbed. -/
structure Scanned (id : PoolId) (slot : Bool) (task : TaskId) (passes : Turn) (during : List Turn) :
    Prop where
  there : id < passes.before.pools.length
  mine : passes.actor = some task
  outside : (passes.before.stage task).isInside id = false
  enters : passes.after.stage task = .scanning id slot
  goes : Goes id slot task during

structure Settles (id : PoolId) (slot : Bool) (task : TaskId) (turn : Turn) : Prop where
  undisturbed : turn.Undisturbed task
  leaves : ¬ (turn.after.stage task).Scans id slot

structure Chooses (id : PoolId) (slot : Bool) (task : TaskId) (start : Depot) (settles : Turn) :
    Prop where
  found : ∀ newer handle older, (start.pool id).idle.toList = newer ++ handle :: older →
    (∀ other ∈ newer, (start.handle other).usable = false) →
    (start.handle handle).usable = true →
      settles.after.stage task = .finished (.checkedOut id handle) ∧
      settles.after.called = start.called ∧
      (settles.after.pool id).idle.toList = older.rdropWhile start.isClosed ∧
      Removes id start settles.after (newer ++ older.rtakeWhile start.isClosed)
  missing : (∀ handle ∈ (start.pool id).idle.toList, (start.handle handle).usable = false) →
    (settles.before.pool id).idle.toList = [] ∧ settles.before.called = start.called ∧
      (settles.before.pool id).closed = (start.pool id).closed ∧
      Removes id start settles.before (start.pool id).idle.toList ∧
      settles.after = settles.before.reserve task id slot ∧
      (settles.after.pool id).idle.toList = [] ∧
      (settles.after.pool id).destroyed = (settles.before.pool id).destroyed ∧
      settles.after.begun = settles.before.begun
  dials : ∀ dialer, (start.pool id).dialer = some dialer →
    (∀ handle ∈ (start.pool id).idle.toList, (start.handle handle).usable = false) →
    (settles.before.pool id).refusal? = none →
      settles.after.called = start.called ++ [dialer] ∧
        ∃ call, settles.after.stage task = .dialing id slot call

variable {id view : PoolId} {depot next start last : Depot} {task : TaskId} {slot : Bool}
  {handle : HandleId} {gone rest newer older : List HandleId} {settles : Turn}

theorem first_unique {Item : Type} (test : Item → Bool) {front gone back rest : List Item}
    {item other : Item} (same : front ++ item :: back = gone ++ other :: rest)
    (passed : ∀ entry ∈ front, test entry = false) (found : test item = true)
    (passed' : ∀ entry ∈ gone, test entry = false) (found' : test other = true) :
    front = gone ∧ item = other ∧ back = rest := by
  have front_eq (entries : List Item) (entry : Item) (after : List Item)
      (passed : ∀ entry ∈ entries, test entry = false) (found : test entry = true) :
      (entries ++ entry :: after).takeWhile (!test ·) = entries := by
    rw [List.takeWhile_append_of_pos fun entry member => by rw [passed entry member]; rfl,
      List.takeWhile_cons_of_neg (by simp [found]), List.append_nil]
  have fronts := congrArg (List.takeWhile (!test ·)) same
  rw [front_eq _ _ _ passed found, front_eq _ _ _ passed' found'] at fronts
  subst fronts
  exact ⟨rfl, List.cons.inj (List.append_cancel_left same)⟩

theorem rdropWhile_append_cons {Item : Type} {test : Item → Bool} {item : Item}
    (kept : test item = false) (front back : List Item) :
    (front ++ item :: back).rdropWhile test = front ++ item :: back.rdropWhile test := by
  induction back using List.reverseRecOn with
  | nil =>
      rw [List.rdropWhile_nil]
      exact List.rdropWhile_concat_neg _ _ _ (by simp [kept])
  | append_singleton back last ih =>
      have regroup : front ++ item :: (back ++ [last]) = (front ++ item :: back) ++ [last] := by
        simp
      rw [regroup]
      cases drops : test last with
      | true =>
          rw [List.rdropWhile_concat_pos _ _ _ drops, ih, List.rdropWhile_concat_pos _ _ _ drops]
      | false =>
          rw [List.rdropWhile_concat_neg _ _ _ (by simp [drops]),
            List.rdropWhile_concat_neg _ _ _ (by simp [drops]), regroup]

theorem filter_rtakeWhile {Item : Type} (test : Item → Bool) (items : List Item) :
    (items.rtakeWhile test).filter (!test ·) = [] := by
  rw [List.filter_eq_nil_iff]
  intro item member
  rw [List.mem_rtakeWhile_imp member]
  simp

theorem unusable_of_closed (closed : depot.isClosed handle = true) :
    (depot.handle handle).usable = false := by
  have closed : (depot.handle handle).closed = true := closed
  rw [Handle.usable, closed, Bool.not_true, Bool.and_false]

theorem not_closed_of_usable (usable : (depot.handle handle).usable = true) :
    depot.isClosed handle = false := by
  cases closed : depot.isClosed handle with
  | false => rfl
  | true =>
      rw [unusable_of_closed closed] at usable
      cases usable

theorem Scan.found (scan : Scan id start depot gone)
    (split : (start.pool id).idleList = newer ++ handle :: older)
    (unusable : ∀ other ∈ newer, (start.handle other).usable = false)
    (usable : (start.handle handle).usable = true) {newest : HandleId}
    (entries : (depot.pool id).idleList = newest :: rest)
    (usable' : (depot.handle newest).usable = true) :
    gone = newer ∧ newest = handle ∧ rest = older.rdropWhile start.isClosed := by
  have kept := scan.kept
  rw [split, rdropWhile_append_cons (not_closed_of_usable usable), entries] at kept
  have same := scan.same newest (by rw [entries]; exact List.mem_cons_self)
  rw [same] at usable'
  obtain ⟨front, first, back⟩ :=
    first_unique (fun handle => (start.handle handle).usable) kept unusable usable scan.unusable
      usable'
  exact ⟨front.symm, first.symm, back.symm⟩

theorem Scan.not_empty (scan : Scan id start depot gone)
    (split : (start.pool id).idleList = newer ++ handle :: older)
    (usable : (start.handle handle).usable = true) : (depot.pool id).idleList ≠ [] := by
  intro empty
  have kept := scan.kept
  rw [split, rdropWhile_append_cons (not_closed_of_usable usable), empty, List.append_nil] at kept
  have passed := scan.unusable handle (by rw [← kept]; simp)
  rw [usable] at passed
  cases passed

theorem removes_of_found (scan : Scan id start depot newer) (owned : Owned next)
    (split : (start.pool id).idleList = newer ++ handle :: older)
    (takes : Takes id task handle (older.rdropWhile start.isClosed) depot next)
    (entries : (depot.pool id).idleList = handle :: older.rdropWhile start.isClosed) :
    Removes id start next (newer ++ older.rtakeWhile start.isClosed) := by
  have active := scan.active
  have destroyed := scan.destroyed
  have parts : (older.rdropWhile start.isClosed).length +
      (older.rtakeWhile start.isClosed).length = older.length := by
    rw [← List.length_append, List.rdropWhile_append_rtakeWhile]
  rw [split, entries, List.length_append, List.length_cons, List.length_cons] at active destroyed
  constructor
  · rw [takes.active, List.length_append]
    omega
  · rw [takes.destroyed, List.length_append]
    omega
  · rw [takes.begun, scan.begun, List.filter_append, filter_rtakeWhile, List.append_nil]
  · exact (exclusive_of_owned owned).closesOnce

theorem removes_of_missing (scan : Scan id start depot gone) (owned : Owned depot)
    (empty : (depot.pool id).idleList = []) : Removes id start depot (start.pool id).idleList := by
  have active := scan.active
  have destroyed := scan.destroyed
  have kept := scan.kept
  rw [empty, List.length_nil, Nat.add_zero] at active destroyed
  rw [empty, List.append_nil] at kept
  constructor
  · exact active
  · exact destroyed
  · have whole := List.rdropWhile_append_rtakeWhile (p := start.isClosed)
      (l := (start.pool id).idleList)
    have passed := congrArg (List.filter (!start.isClosed ·)) whole
    rw [kept, List.filter_append, filter_rtakeWhile, List.append_nil] at passed
    rw [scan.begun, passed]
  · exact (exclusive_of_owned owned).closesOnce

theorem reserve_keeps (move : Move view depot (some task) next) (there : id < depot.pools.length)
    (here : depot.stage task = .scanning id slot) (empty : (depot.pool id).idleList = [])
    (reserves : next = depot.reserve task id slot) :
    (next.pool id).idleList = [] ∧ (next.pool id).destroyed = (depot.pool id).destroyed ∧
      next.begun = depot.begun := by
  obtain ⟨request, phase, phase', site, pool, held, effect, pools, tasks, -⟩ := shift_of_move move
  have closes : (next.stage task).closing? = none := by
    rw [reserves]
    rcases stage_reserve here with ⟨call, stage⟩ | ⟨outcome, stage⟩ <;> rw [stage] <;> rfl
  have begun := begun_of_deed (deed_of_move move tasks)
  rw [stage_after tasks] at closes
  rw [closes] at begun
  rw [stage_before tasks] at here
  subst here
  have site_eq : site = id := site_of_effect effect (Or.inr rfl)
  subst site_eq
  have now := pool_set_same pools there
  have untaken := (Pool.takeNewest_eq_none _).mpr empty
  rw [now]
  cases effect with
  | aside apart => cases apart
  | pass grant => cases grant
  | reuse taken =>
      rw [untaken] at taken
      cases taken
  | reject taken =>
      rw [untaken] at taken
      cases taken
  | deny => exact ⟨by simp [empty], by simp, by rw [begun]; simp⟩
  | unconfigured =>
      have reserved : (depot.pool site).reserve.idleList = [] := empty
      exact ⟨by simp [reserved], by simp [Pool.reserve], by rw [begun]; simp⟩
  | dial => exact ⟨empty, rfl, by rw [begun]; simp⟩
  | abandon => exact ⟨by simp [empty], by simp, by rw [begun]; simp⟩

theorem reserve_dials (here : depot.stage task = .scanning id slot) {dialer : DialerId}
    (there : (depot.pool id).dialer = some dialer) (allowed : (depot.pool id).refusal? = none) :
    (depot.reserve task id slot).called = depot.called ++ [dialer] ∧
      ∃ call, (depot.reserve task id slot).stage task = .dialing id slot call := by
  have begins : depot.stage task ≠ .asked := by rw [here]; simp
  unfold reserve
  simp only [allowed, there]
  exact ⟨List.filterMap_append, _, stage_modify begins rfl⟩

theorem chooses_of_scan (scan : Scan id start settles.before gone) (owned : Owned settles.before)
    (move : Move view settles.before settles.actor settles.after)
    (before : (settles.before.stage task).Scans id slot) (ends : Settles id slot task settles) :
    Chooses id slot task start settles := by
  have owned' : Owned settles.after := owned.keeps move
  obtain ⟨mine, kept⟩ := ends.undisturbed.resolve_right fun ⟨outside, _⟩ => by
    apply ends.leaves
    rw [stage, phase?_of_others move (by rw [outside]; simp)]
    exact before
  rw [mine] at move
  rcases looks_of_move move scan.there before kept with ⟨scanning, looks⟩ | ⟨handle, due, -, next⟩
  · cases looks with
    | nothing empty reserves =>
        obtain ⟨idle, destroyed, begun⟩ := reserve_keeps move scan.there scanning empty reserves
        constructor
        · intro newer handle older split unusable usable
          exact absurd empty (scan.not_empty split usable)
        · intro unusable
          exact ⟨empty, scan.called, scan.closed, removes_of_missing scan owned empty, reserves,
            idle, destroyed, begun⟩
        · intro dialer there unusable allowed
          rw [reserves, ← scan.called]
          exact reserve_dials scanning (scan.fixed.dialer.trans there) allowed
    | takes entries usable takes =>
        rename_i newest older
        have idles : newest ∈ (settles.before.pool id).idleList := by
          rw [entries]
          exact List.mem_cons_self
        have missing : ¬ ∀ handle ∈ (start.pool id).idleList,
            (start.handle handle).usable = false := by
          intro unusable
          have dead := unusable newest (scan.mem_of_idle idles)
          rw [← scan.same newest idles, usable] at dead
          cases dead
        constructor
        · intro newer handle older split unusable' usable'
          obtain ⟨rfl, rfl, rfl⟩ := scan.found split unusable' usable' entries usable
          exact ⟨takes.out, takes.called.trans scan.called, takes.idle,
            removes_of_found scan owned' split takes entries⟩
        · intro unusable
          exact absurd unusable missing
        · intro dialer there unusable
          exact absurd unusable missing
    | sheds entries unusable sheds scans => exact absurd scans ends.leaves
  · apply absurd _ ends.leaves
    rw [next]
    exact Or.inl (stage_rescanned (begun_of_scans before))

section

variable {actions : List Action} {earlier during later : List Turn} {passes : Turn}

theorem scan_of_scanned (own : ({} : Depot).returnsOwn id actions = true)
    (split : ({} : Depot).turns actions = earlier ++ passes :: (during ++ later))
    (scanned : Scanned id slot task passes during) :
    ∃ depot gone, Chain id depot later (({} : Depot).run actions) ∧ Owned depot ∧
      (depot.stage task).Scans id slot ∧ Scan id passes.before depot gone := by
  have chain := chain_turns id actions own resting_empty
  have books := (balanced_turns own).2 passes (by rw [split]; simp)
  rw [split] at chain
  have moved : Move id passes.before passes.actor passes.after := chain.move_of_mem (by simp)
  obtain ⟨-, owned⟩ := chain.keeps Owned.keeps owned_empty
  obtain ⟨owned, owned'⟩ := owned passes (by simp)
  have conserved := conserved_of_balanced books.1.1 books.1.2
  rw [scanned.mine] at moved
  obtain ⟨request, pool, waited, grant, pools, untouched⟩ :=
    pruned_of_move moved scanned.outside scanned.enters
  have begins := scan_of_pruned scanned.there grant pools untouched (by
    rw [← Pool.size_idle, conserved]
    omega)
  obtain ⟨actor, start, next⟩ := passes
  have back := chain.back
  cases back with
  | cons move rest =>
      obtain ⟨owned, scans, gone, scan⟩ := begins.goes_along rest.front scanned.goes.undisturbed
        scanned.goes.scans owned' (Or.inl scanned.enters)
      exact ⟨_, gone, rest.back, owned, scans, scan⟩

end

def rounds (task : TaskId) (waits : List Nat) : List Action :=
  waits.flatMap fun time => [.elapse time, .poll task]

theorem exists_elapsed (depot : Depot) (due : Option Nat) :
    ∃ time, (depot.act (.elapse time)).elapsed due = true := by
  cases due with
  | none => exact ⟨0, rfl⟩
  | some due =>
      refine ⟨due + Clock.tick, ?_⟩
      show Clock.reached (depot.now + (due + Clock.tick)) due = true
      unfold Clock.reached Clock.ticksUntil Clock.ticks Clock.tick
      rw [decide_eq_true_eq]
      omega

/-- The scan goes on, with at most so many idle handles ahead of it. -/
def Ahead (id : PoolId) (slot : Bool) (task : TaskId) (bound : Nat) (depot : Depot) : Prop :=
  id < depot.pools.length ∧
    (depot.stage task = .scanning id slot ∧ (depot.pool id).idleList.length ≤ bound ∨
      (∃ handle due, depot.stage task = .closing id handle due (.rescan slot)) ∧
        (depot.pool id).idleList.length < bound)

variable {bound : Nat}

theorem goes_nil (id : PoolId) (slot : Bool) (task : TaskId) : Goes id slot task [] :=
  ⟨by simp, by simp⟩

theorem Goes.append {first later : List Turn} (one : Goes id slot task first)
    (two : Goes id slot task later) : Goes id slot task (first ++ later) where
  undisturbed turn member :=
    (List.mem_append.mp member).elim (one.undisturbed turn) (two.undisturbed turn)
  scans turn member := (List.mem_append.mp member).elim (one.scans turn) (two.scans turn)

theorem Ahead.scans (ahead : Ahead id slot task bound depot) : (depot.stage task).Scans id slot :=
  ahead.2.imp And.left And.left

theorem Ahead.mono {more : Nat} (ahead : Ahead id slot task bound depot) (least : bound ≤ more) :
    Ahead id slot task more depot :=
  ⟨ahead.1, ahead.2.imp (fun scanning => ⟨scanning.1, Nat.le_trans scanning.2 least⟩)
    fun closing => ⟨closing.1, Nat.lt_of_lt_of_le closing.2 least⟩⟩

theorem goes_single {actor : Option TaskId} (calm : Turn.Undisturbed task ⟨actor, depot, next⟩)
    (scans : (next.stage task).Scans id slot) : Goes id slot task [⟨actor, depot, next⟩] := by
  constructor
  · intro turn member
    rw [List.mem_singleton.mp member]
    exact calm
  · intro turn member
    rw [List.mem_singleton.mp member]
    exact scans

theorem ahead_rescanned (there : id < depot.pools.length) {due : Option Nat}
    (closing : depot.stage task = .closing id handle due (.rescan slot)) :
    Ahead id slot task (depot.pool id).idleList.length
      ((depot.endPoolClose id handle).enter task (.scanning id slot)) := by
  have pools := (booked_endPoolClose depot id handle id).pools
  rw [set_pool] at pools
  have pool : ((depot.endPoolClose id handle).enter task (.scanning id slot)).pool id =
      depot.pool id := congrArg (·.getD id default) pools
  refine ⟨?_, Or.inl ⟨stage_rescanned (by rw [closing]; simp), by rw [pool]⟩⟩
  exact Nat.lt_of_lt_of_le there (Nat.le_of_eq (congrArg List.length pools.symm))

theorem ahead_of_step (ahead : Ahead id slot task bound depot)
    (stepped : depot.step? task = some next) :
    Ahead id slot task bound next ∨ Settles id slot task ⟨some task, depot, next⟩ := by
  obtain ⟨there, ⟨scanning, within⟩ | ⟨⟨handle, due, closing⟩, within⟩⟩ := ahead
  · rw [step?_scanning scanning, Option.some.injEq] at stepped
    subst stepped
    cases looks_of_scan there scanning with
    | nothing empty reserves =>
        obtain ⟨leaves, kept⟩ := not_scans_reserve scanning
        rw [← reserves] at leaves kept
        exact Or.inr ⟨Or.inl ⟨rfl, kept⟩, leaves⟩
    | takes entries usable takes =>
        refine Or.inr ⟨Or.inl ⟨rfl, ?_⟩, ?_⟩
        · rw [takes.out]
          simp
        · rw [takes.out]
          simp [Phase.Scans]
    | sheds entries unusable sheds scans =>
        have fewer : ((depot.scan task id slot).pool id).idleList.length < bound := by
          rw [sheds.idle]
          rw [entries, List.length_cons] at within
          exact within
        refine Or.inl ⟨by rw [sheds.pools]; exact there, ?_⟩
        exact scans.imp (fun scanning => ⟨scanning, Nat.le_of_lt fewer⟩)
          fun closing => ⟨closing, fewer⟩
  · rw [step?_rescanning closing] at stepped
    split at stepped
    · cases stepped
      exact Or.inl ((ahead_rescanned there closing).mono (Nat.le_of_lt within))
    · cases stepped

def ComesToEnd (id : PoolId) (slot : Bool) (task : TaskId) (turns : List Turn) : Prop :=
  ∃ during settles later, turns = during ++ settles :: later ∧ Goes id slot task during ∧
    Settles id slot task settles

theorem ComesToEnd.before {first later : List Turn} (ends : ComesToEnd id slot task later)
    (goes : Goes id slot task first) : ComesToEnd id slot task (first ++ later) := by
  obtain ⟨during, settles, rest, rfl, goes', settles'⟩ := ends
  exact ⟨first ++ during, settles, rest, by simp, goes.append goes', settles'⟩

theorem ComesToEnd.after {first : List Turn} (ends : ComesToEnd id slot task first)
    (later : List Turn) : ComesToEnd id slot task (first ++ later) := by
  obtain ⟨during, settles, rest, rfl, goes, settles'⟩ := ends
  exact ⟨during, settles, rest ++ later, by simp, goes, settles'⟩

theorem ahead_of_steps (turns : Nat) (ahead : Ahead id slot task bound depot) :
    ComesToEnd id slot task (stepTurns turns depot task) ∨
      Goes id slot task (stepTurns turns depot task) ∧
        Ahead id slot task bound (advance turns depot task) := by
  induction turns generalizing depot with
  | zero => exact Or.inr ⟨goes_nil id slot task, ahead⟩
  | succ turns ih =>
      unfold stepTurns advance
      cases stepped : depot.step? task with
      | none => exact Or.inr ⟨goes_nil id slot task, ahead⟩
      | some next =>
          rcases ahead_of_step ahead stepped with ahead' | settles
          · have scans := ahead'.scans
            have first : Goes id slot task [⟨some task, depot, next⟩] :=
              goes_single (Or.inl ⟨rfl, not_dropped_of_scans scans⟩) scans
            rcases ih ahead' with ends | ⟨goes, ahead''⟩
            · exact Or.inl (ends.before first)
            · exact Or.inr ⟨first.append goes, ahead''⟩
          · exact Or.inl ⟨[], _, _, rfl, goes_nil id slot task, settles⟩

theorem pollTurns_of_step (stepped : depot.step? task = some next) :
    ∃ turns, depot.pollTurns task = ⟨some task, depot, next⟩ :: stepTurns turns next task ∧
      depot.poll task = advance turns next task := by
  have stuck := step?_poll depot task
  obtain ⟨found, here, -⟩ := Option.bind_eq_some_iff.mp stepped
  unfold pollTurns poll at *
  rw [here] at stuck ⊢
  dsimp only at stuck ⊢
  cases load : depot.load found.request found.phase with
  | zero =>
      rw [load, advance, stepped] at stuck
      cases stuck
  | succ turns =>
      rw [stepTurns, advance, stepped]
      exact ⟨turns, rfl, rfl⟩

theorem closing_of_resting (resting : depot.Resting) (scans : (depot.stage task).Scans id slot) :
    ∃ handle due, depot.stage task = .closing id handle due (.rescan slot) := by
  rcases scans with scanning | closing
  · obtain ⟨found, here, same⟩ := exists_of_stage (begun_of_scans (Or.inl scanning))
    have rests := resting task found.phase (phase?_of_getElem? here)
    rw [same, scanning] at rests
    cases rests
  · exact closing

theorem ahead_of_poll (stepped : depot.step? task = some next)
    (ahead : Ahead id slot task bound next) :
    ComesToEnd id slot task (depot.pollTurns task) ∨
      Goes id slot task (depot.pollTurns task) ∧ Ahead id slot task bound (depot.poll task) := by
  obtain ⟨turns, first, polled⟩ := pollTurns_of_step stepped
  have scans := ahead.scans
  have goes : Goes id slot task [⟨some task, depot, next⟩] :=
    goes_single (Or.inl ⟨rfl, not_dropped_of_scans scans⟩) scans
  rw [first, polled]
  rcases ahead_of_steps turns ahead with ends | ⟨goes', ahead'⟩
  · exact Or.inl (ends.before goes)
  · exact Or.inr ⟨goes.append goes', ahead'⟩

theorem ahead_of_round (resting : depot.Resting) (there : id < depot.pools.length)
    (scans : (depot.stage task).Scans id slot) :
    ∃ time, ComesToEnd id slot task (depot.turns [.elapse time, .poll task]) ∨
      Goes id slot task (depot.turns [.elapse time, .poll task]) ∧
        Ahead id slot task (depot.pool id).idleList.length
          (depot.run [.elapse time, .poll task]) := by
  obtain ⟨handle, due, closing⟩ := closing_of_resting resting scans
  obtain ⟨time, elapsed⟩ := depot.exists_elapsed due
  refine ⟨time, ?_⟩
  have closing' : (depot.act (.elapse time)).stage task =
      .closing id handle due (.rescan slot) := closing
  have stepped := step?_rescanning closing'
  rw [if_pos elapsed] at stepped
  have waits : Goes id slot task [⟨none, depot, depot.act (.elapse time)⟩] :=
    goes_single (Or.inr ⟨rfl, rfl⟩) (Or.inr ⟨handle, due, closing'⟩)
  have taken : depot.turns [.elapse time, .poll task] =
      [⟨none, depot, depot.act (.elapse time)⟩] ++
        (depot.act (.elapse time)).pollTurns task := by
    simp only [turns, turnsOf, List.append_nil]
  rw [taken]
  rcases ahead_of_poll stepped (ahead_rescanned there closing') with ends | ⟨goes, ahead⟩
  · exact Or.inl (ends.before waits)
  · exact Or.inr ⟨waits.append goes, ahead⟩

theorem comes_to_end (resting : depot.Resting) (there : id < depot.pools.length)
    (scans : (depot.stage task).Scans id slot)
    (within : (depot.pool id).idleList.length < bound) :
    ∃ waits, ComesToEnd id slot task (depot.turns (rounds task waits)) := by
  induction bound generalizing depot with
  | zero => exact absurd within (Nat.not_lt_zero _)
  | succ bound ih =>
      obtain ⟨time, ends | ⟨goes, ahead⟩⟩ := ahead_of_round resting there scans
      · exact ⟨[time], ends⟩
      · have rests : (depot.run [.elapse time, .poll task]).Resting :=
          resting_poll fun other phase _ => resting other phase
        obtain ⟨handle, due, closing⟩ := closing_of_resting rests ahead.scans
        have fewer := ahead.2.resolve_left fun ⟨scanning, _⟩ => by
          rw [closing] at scanning
          cases scanning
        obtain ⟨waits, ends⟩ := ih rests ahead.1 ahead.scans (by omega)
        refine ⟨time :: waits, ?_⟩
        have split := turns_append [.elapse time, .poll task] (rounds task waits) depot
        have cons : rounds task (time :: waits) =
            [.elapse time, .poll task] ++ rounds task waits := rfl
        rw [cons, split]
        exact ends.before goes

theorem returnsOwn_rounds (task : TaskId) (waits : List Nat) :
    depot.returnsOwn id (rounds task waits) = true := by
  induction waits generalizing depot with
  | nil => rfl
  | cons time waits ih =>
      have cons : rounds task (time :: waits) =
          [.elapse time, .poll task] ++ rounds task waits := rfl
      rw [cons, returnsOwn_append, ih]
      rfl

section

variable {actions : List Action} {earlier during later : List Turn} {passes : Turn}

/-- In every run in which what goes back to a pool was checked out of it, and for every checkout
that gets past the gate and is not disturbed: it gets the newest handle that is usable among those
that were idle, without a dial, and with those before it the pool gives up the closed ones at the
back; if none is usable the pool gives up all of them and the checkout reserves room. And it comes to
that: some number of polls, each late enough, end the scan. -/
theorem first_usable_is_chosen (own : ({} : Depot).returnsOwn id actions = true)
    (scanned : Scanned id slot task passes during) :
    (∀ settles later,
      ({} : Depot).turns actions = earlier ++ passes :: (during ++ settles :: later) →
      Settles id slot task settles → Chooses id slot task passes.before settles) ∧
    (({} : Depot).turns actions = earlier ++ passes :: during →
      ∃ waits more settles later,
        ({} : Depot).turns (actions ++ rounds task waits) =
          earlier ++ passes :: (during ++ more ++ settles :: later) ∧
        Scanned id slot task passes (during ++ more) ∧ Settles id slot task settles ∧
        Chooses id slot task passes.before settles) := by
  have chosen {actions : List Action} (own : ({} : Depot).returnsOwn id actions = true)
      {during : List Turn} (scanned : Scanned id slot task passes during) (settles : Turn)
      (later : List Turn)
      (split : ({} : Depot).turns actions = earlier ++ passes :: (during ++ settles :: later))
      (ends : Settles id slot task settles) : Chooses id slot task passes.before settles := by
    obtain ⟨depot, gone, chain, owned, scans, scan⟩ := scan_of_scanned own split scanned
    cases chain with
    | cons move rest => exact chooses_of_scan scan owned move scans ends
  refine ⟨chosen own scanned, fun split => ?_⟩
  obtain ⟨depot, gone, chain, owned, scans, scan⟩ :=
    scan_of_scanned own (by rw [split, List.append_nil during]) scanned
  cases chain with
  | nil =>
      obtain ⟨waits, more, settles, later, turned, goes, ends⟩ :=
        comes_to_end (resting_run own resting_empty) scan.there scans (Nat.lt_succ_self _)
      have split' : ({} : Depot).turns (actions ++ rounds task waits) =
          earlier ++ passes :: (during ++ more ++ settles :: later) := by
        rw [turns_append, turned, split]
        simp
      have scanned' : Scanned id slot task passes (during ++ more) :=
        { scanned with goes := scanned.goes.append goes }
      refine ⟨waits, more, settles, later, split', scanned', ends, ?_⟩
      refine chosen ?_ scanned' settles later split' ends
      rw [returnsOwn_append, own, returnsOwn_rounds]
      rfl

def mixed : List Action :=
  [.makeDialer "dialer" (.counted {}), .makePool "pool" (some 0) "" {},
   .checkout 0 {}, .checkout 0 {}, .checkout 0 {}, .checkout 0 {},
   .giveBack 0 0, .giveBack 0 0, .giveBack 0 0, .giveBack 0 0,
   .mark 0 { closes := true }, .mark 2 { closes := true },
   .mark 3 { reusable := some false, closeDelay := some 1000 },
   .checkout 0 {}, .elapse 1000, .poll 8]

theorem split_between {Item : Type} (items : List Item) (place gap : Nat)
    (inside : place + 1 + gap < items.length) :
    items = items.take place ++ items[place] ::
      ((items.drop (place + 1)).take gap ++ items[place + 1 + gap] ::
        items.drop (place + 1 + gap + 1)) := by
  have early : place < items.length := by omega
  have second := List.drop_eq_getElem_cons inside
  have between := List.take_append_drop gap (items.drop (place + 1))
  rw [List.drop_drop, second] at between
  rw [between, ← List.drop_eq_getElem_cons early, List.take_append_drop]

theorem length_mixed : (({} : Depot).turns mixed).length = 27 := by decide

theorem first_usable_is_chosen_mixed :
    ∃ earlier passes during settles later,
      ({} : Depot).turns mixed = earlier ++ passes :: (during ++ settles :: later) ∧
      Scanned 0 false 8 passes during ∧ Chooses 0 false 8 passes.before settles ∧
      (passes.before.pool 0).idle.toList = [3, 2, 1, 0] ∧
      settles.after.stage 8 = .finished (.checkedOut 0 1) ∧
      (settles.after.pool 0).idle.toList = [] ∧ (settles.after.pool 0).destroyed = 3 ∧
      settles.after.begun = [3] := by
  have split := split_between (({} : Depot).turns mixed) 21 4 (length_mixed ▸ (by decide))
  refine ⟨_, _, _, _, _, split, ?scanned,
    (first_usable_is_chosen (by decide) ?scanned).1 _ _ split ⟨by decide, by decide⟩,
    by decide, by decide, by decide, by decide, by decide⟩
  exact ⟨by decide, by decide, by decide, by decide, by decide, by decide⟩

end

end HandlePool.Depot
