import HandlePool.Proofs.Abort
import HandlePool.Proofs.Polls

namespace HandlePool

namespace Depot

structure Waits (id : PoolId) (task : TaskId) (depot : Depot) : Prop where
  queued : depot.isQueued id task = true
  isOpen : (depot.pool id).closed = false
  empty : ∀ gate, (depot.pool id).gate = some gate → task ∉ gate.granted

/-- A checkout was granted a slot: it was handed one in the queue, is past the gate, or returned a
handle. -/
inductive Served (id : PoolId) (task : TaskId) (depot : Depot) : Prop where
  | handed {gate} (gated : (depot.pool id).gate = some gate) (granted : task ∈ gate.granted)
  | inside (inside : (depot.stage task).isInside id = true)
  | out {handle} (out : (depot.stage task).checkedOut? id = some handle)

structure LongestQueued (id : PoolId) (past : List Turn) (task : TaskId) (depot : Depot) :
    Prop where
  waits : Waits id task depot
  first : ∀ other, Waits id other depot → other = task ∨
    ∃ early start late, past = early ++ start :: late ∧ start.Starts task ∧
      ∃ arrival ∈ late, arrival.Starts other

end Depot

namespace Turn

open Depot

inductive FreesSlot (id : PoolId) (task : TaskId) (turn : Turn) : Prop where
  | returned {request handle} (starts : turn.Starts task)
      (called : CalledFor request task turn.after)
      (brings : request.returned? = some (id, handle))
  | failed (actor : turn.actor = some task) (inside : (turn.before.stage task).isInside id = true)
      (isOver : (turn.after.stage task).isOver = true)
      (nothing : (turn.after.stage task).checkedOut? id = none)
  | declined {gate} (actor : turn.actor = some task)
      (gated : (turn.before.pool id).gate = some gate) (handed : task ∈ gate.granted)
      (isOver : (turn.after.stage task).isOver = true)

/-- The slot that a task gives up is handed on, and is free only if no task waits for one. -/
inductive PassesSlot (id : PoolId) (task : TaskId) (past : List Turn) (turn : Turn) : Prop where
  | toLongest {gate gate' first} (gated : (turn.before.pool id).gate = some gate)
      (longest : LongestQueued id past first turn.before)
      (gated' : (turn.after.pool id).gate = some gate') (free : gate'.free = gate.free)
      (granted : gate'.granted = gate.granted.erase task ++ [first])
  | toNobody {gate gate'} (gated : (turn.before.pool id).gate = some gate)
      (nobody : ∀ other, ¬ Waits id other turn.before)
      (gated' : (turn.after.pool id).gate = some gate') (free : gate'.free = gate.free + 1)
      (granted : gate'.granted = gate.granted.erase task)

end Turn

variable {id view site : PoolId} {depot next last : Depot} {task other : TaskId}
  {actor : Option TaskId} {request : Request} {phase phase' : Phase} {pool : Pool}
  {gate gate' : Gate} {turns : List Turn} {turn : Turn} {back : Nat}
  {queued queued' : Bool} {inside inside' out came : Nat}

namespace Depot

structure Precedes (id : PoolId) (past : List Turn) (turn : Turn) (later : List Turn) : Prop where
  served : ∀ earlier newcomer, Waits id earlier turn.before → turn.Starts newcomer →
    ∀ next ∈ turn :: later, Waits id earlier next.before → ¬ Served id newcomer next.after
  passes : ∀ task, turn.FreesSlot id task → (turn.before.pool id).limits.boundedWait = true →
    (turn.before.pool id).closed = false → turn.PassesSlot id task past

theorem Passage.granted (passage : Passage task gate gate' queued queued' inside inside' out came)
    (granted : other ∈ gate'.granted) :
    other ∈ gate.granted ∨ gate.waiting.head? = some other := by
  have released {before : Gate} (same : before.waiting = gate.waiting)
      (fewer : ∀ other ∈ before.granted, other ∈ gate.granted)
      (granted : other ∈ before.release.granted) :
      other ∈ gate.granted ∨ gate.waiting.head? = some other := by
    unfold Gate.release at granted
    rw [same] at granted
    cases waits : gate.waiting with
    | nil =>
        rw [waits] at granted
        exact Or.inl (fewer other granted)
    | cons first rest =>
        rw [waits] at granted
        rcases List.mem_append.mp granted with before | now
        · exact Or.inl (fewer other before)
        · rw [List.mem_singleton.mp now]
          exact Or.inr rfl
  cases passage with
  | kept | enqueued | taken | used | shut => exact Or.inl granted
  | collected handed => exact Or.inl (List.mem_of_mem_erase granted)
  | left =>
      unfold Gate.leave at granted
      split at granted
      · exact released (by rfl) (fun _ => List.mem_of_mem_erase) granted
      · exact Or.inl granted
  | released one =>
      split at granted
      · exact Or.inl granted
      · exact released rfl (fun _ member => member) granted

theorem Passage.serves (passage : Passage task gate gate' queued queued' inside inside' out came)
    (orderly : gate.Orderly) (served : inside' = 1 ∨ out = 1) :
    task ∈ gate.granted ∨ inside = 1 ∨ gate.waiting = [] := by
  cases passage with
  | kept => exact Or.inr (Or.inl (served.resolve_right (by simp)))
  | collected handed => exact Or.inl handed
  | taken left => exact Or.inr (Or.inr (Gate.waiting_of_free orderly left))
  | used => exact Or.inr (Or.inl rfl)
  | enqueued | left | released | shut => simp at served

theorem Passage.waiting (passage : Passage task gate gate' queued queued' inside inside' out came) :
    gate'.waiting.Sublist gate.waiting ∨
      gate'.waiting = gate.waiting ++ [task] ∧ queued = false ∧ queued' = true := by
  have released (before : Gate) : before.release.waiting.Sublist before.waiting := by
    unfold Gate.release
    split
    · exact List.Sublist.refl _
    · rename_i waits
      rw [waits]
      exact List.sublist_cons_self _ _
  cases passage with
  | enqueued => exact Or.inr ⟨rfl, rfl, rfl⟩
  | kept | taken | collected | used => exact Or.inl (List.Sublist.refl _)
  | shut => exact Or.inl (List.nil_sublist _)
  | left =>
      left
      unfold Gate.leave
      split
      · exact released (gate.collect task)
      · exact List.erase_sublist
  | released =>
      left
      split
      · exact List.Sublist.refl _
      · exact released gate

theorem Passage.freed (passage : Passage task gate gate' queued queued' inside inside' out came)
    (isOpen : gate.closed = false) (known : task ∈ gate.granted → queued = true)
    (frees : came = 1 ∨ inside = 1 ∧ inside' = 0 ∧ out = 0 ∨ task ∈ gate.granted ∧ inside' = 0) :
    gate' = (gate.collect task).release := by
  have unknown (unqueued : queued = false) : task ∉ gate.granted := by
    intro handed
    rw [known handed] at unqueued
    cases unqueued
  cases passage with
  | kept =>
      rcases frees with came | ⟨before, after, -⟩ | ⟨handed, -⟩
      · cases came
      · rw [after] at before
        cases before
      · exact absurd handed (unknown rfl)
  | enqueued | taken | shut =>
      rcases frees with came | ⟨before, -⟩ | ⟨handed, -⟩
      · cases came
      · cases before
      · exact absurd handed (unknown rfl)
  | used =>
      rcases frees with came | ⟨-, -, nothing⟩ | ⟨handed, -⟩
      · cases came
      · cases nothing
      · exact absurd handed (unknown rfl)
  | collected =>
      rcases frees with came | ⟨before, -⟩ | ⟨-, after⟩
      · cases came
      · cases before
      · cases after
  | left =>
      rcases frees with came | ⟨before, -⟩ | ⟨handed, -⟩
      · cases came
      · cases before
      · rw [Gate.leave, if_pos handed]
  | released =>
      rw [isOpen, if_neg Bool.false_ne_true, Gate.collect, List.erase_of_not_mem (unknown rfl)]

theorem stage_apart (becomes : Becomes depot.tasks request task phase phase' next.tasks)
    (apart : other ≠ task) : next.stage other = depot.stage other := by
  rw [stage, phase?_of_becomes becomes, if_neg apart, stage]

theorem Served.transfer (served : Served id other next)
    (pools : next.pool id = depot.pool id)
    (inside : (next.stage other).isInside id = (depot.stage other).isInside id)
    (out : (next.stage other).checkedOut? id = (depot.stage other).checkedOut? id) :
    Served id other depot := by
  cases served with
  | handed gated granted => exact .handed (pools ▸ gated) granted
  | inside there => exact .inside (inside ▸ there)
  | out there => exact .out (out ▸ there)

theorem served_of_move (move : Move view depot actor next) (gating : Gating id back depot)
    (gated : (depot.pool id).gate = some gate) (served : Served id other next) :
    Served id other depot ∨ gate.waiting.head? = some other ∨ gate.waiting = [] := by
  have there := inside_of_gated gated
  cases (touch_of_move move : Touch id depot actor next) with
  | missing outside => exact absurd there (Nat.not_lt_of_le outside)
  | fresh outside => exact absurd there (Nat.not_lt_of_le outside)
  | still same tasks =>
      have stages : next.stage other = depot.stage other := by rw [stage, phase?, tasks]; rfl
      exact Or.inl (served.transfer same (by rw [stages]) (by rw [stages]))
  | other who same becomes apart apart' plain =>
      rename_i task request phase phase'
      by_cases mine : other = task
      · subst mine
        refine Or.inl (served.transfer same ?_ ?_)
        · rw [stage_before becomes, stage_after becomes, isInside_of_apart apart,
            isInside_of_apart apart']
        · rw [stage_before becomes, stage_after becomes, checkedOut?_eq_none apart,
            checkedOut?_eq_none apart']
      · have stages := stage_apart becomes mine
        exact Or.inl (served.transfer same (by rw [stages]) (by rw [stages]))
  | own who inside becomes effect =>
      rename_i task request phase phase'
      obtain ⟨gate', gated', -, passage⟩ := passage_of_own gating becomes effect gated
      have handed {late : TaskId} (granted : late ∈ gate.granted) : Served id late depot :=
        .handed gated granted
      have entered (mine : other = task)
          (served : (phase'.isInside id).toNat = 1 ∨
            (phase'.checkedOut? id).toList.length = 1) :
          Served id other depot ∨ gate.waiting.head? = some other ∨ gate.waiting = [] := by
        subst mine
        rcases passage.serves (gating.slots gate gated).orderly served with
          granted | before | nobody
        · exact Or.inl (handed granted)
        · refine Or.inl (.inside ?_)
          rw [stage_before becomes]
          exact Bool.toNat_eq_one.mp before
        · exact Or.inr (Or.inr nobody)
      cases served with
      | handed found granted =>
          cases found.symm.trans gated'
          rcases passage.granted granted with before | now
          · exact Or.inl (handed before)
          · exact Or.inr (Or.inl now)
      | inside within =>
          by_cases mine : other = task
          · rw [mine, stage_after becomes] at within
            exact entered mine (Or.inl (by rw [within]; rfl))
          · rw [stage_apart becomes mine] at within
            exact Or.inl (.inside within)
      | out out =>
          by_cases mine : other = task
          · rw [mine, stage_after becomes] at out
            exact entered mine (Or.inr (by rw [out]; rfl))
          · rw [stage_apart becomes mine] at out
            exact Or.inl (.out out)

structure InOrder (id : PoolId) (depot : Depot) : Prop where
  ascending : ∀ gate, (depot.pool id).gate = some gate → gate.waiting.Pairwise (· < ·)
  fair : ∀ gate, (depot.pool id).gate = some gate → ∀ early ∈ gate.waiting, ∀ late,
    early < late → ¬ Served id late depot

theorem unserved_of_move (move : Move view depot actor next) (gating : Gating id back depot)
    (ordered : InOrder id depot) (gated : (depot.pool id).gate = some gate) {early late : TaskId}
    (waits : early ∈ gate.waiting) (after : early < late) : ¬ Served id late next := by
  intro served
  rcases served_of_move move gating gated served with before | first | nobody
  · exact ordered.fair gate gated early waits late after before
  · have ascending := ordered.ascending gate gated
    cases queue : gate.waiting with
    | nil =>
        rw [queue] at waits
        cases waits
    | cons head rest =>
        rw [queue] at waits ascending first
        cases first
        rcases List.mem_cons.mp waits with rfl | behind
        · exact Nat.lt_irrefl _ after
        · exact Nat.lt_asymm after ((List.pairwise_cons.mp ascending).1 early behind)
  · rw [nobody] at waits
    cases waits

theorem lt_of_stage (begun : depot.stage task ≠ .asked) : task < depot.tasks.length := by
  obtain ⟨found, here, -⟩ := exists_of_stage begun
  exact (List.getElem?_eq_some_iff.mp here).1

theorem stage_of_queued (queued : depot.isQueued id task = true) :
    ∃ context since, depot.stage task = .queued id context since := by
  obtain ⟨phase, here, waits⟩ := (Option.any_eq_true _ _).mp queued
  rw [stage, here]
  exact queued_of_isQueued waits

theorem lt_of_queued (queued : depot.isQueued id task = true) : task < depot.tasks.length := by
  obtain ⟨context, since, here⟩ := stage_of_queued queued
  exact lt_of_stage (by rw [here]; simp)

theorem lt_of_served (gating : Gating id back depot) (served : Served id task depot) :
    task < depot.tasks.length := by
  cases served with
  | handed gated granted =>
      exact lt_of_queued ((gating.slots _ gated).known task (List.mem_append_right _ granted))
  | inside inside => exact lt_of_stage (unqueued_of_inside inside).begun
  | out out => exact lt_of_stage (by rw [checkedOut?_eq_some out]; simp)

theorem length_tasks_of_move (move : Move view depot actor next) :
    depot.tasks.length ≤ next.tasks.length ∧ next.tasks.length ≤ depot.tasks.length + 1 := by
  cases actor with
  | none =>
      cases move with
      | outside resting tasks =>
          rw [tasks]
          exact ⟨Nat.le_refl _, Nat.le_succ _⟩
  | some task =>
      obtain ⟨request, phase, phase', site, pool, held, effect, pools, tasks, -⟩ :=
        shift_of_move move
      generalize next.tasks = after at tasks ⊢
      cases tasks with
      | new => simp
      | old => simp

theorem newest_of_becomes {tasks tasks' : List Task}
    (becomes : Becomes tasks request task phase phase' tasks') (asked : phase = .asked) :
    task = tasks.length := by
  cases becomes with
  | new => rfl
  | old here begun => exact absurd asked begun

theorem length_of_starts (move : Move view turn.before turn.actor turn.after)
    (starts : turn.Starts task) : task = turn.before.tasks.length := by
  rw [starts.1] at move
  obtain ⟨request, phase, phase', site, pool, held, effect, pools, tasks, -⟩ := shift_of_move move
  exact newest_of_becomes tasks ((stage_before tasks).symm.trans starts.2)

theorem lt_of_starts (move : Move view turn.before turn.actor turn.after)
    (starts : turn.Starts task) : task < turn.after.tasks.length := by
  rw [starts.1] at move
  obtain ⟨request, phase, phase', site, pool, held, effect, pools, tasks, -⟩ := shift_of_move move
  exact lt_of_stage (by rw [stage_after tasks]; exact effect.begun)

theorem waiting_of_move (move : Move view depot actor next) (gating : Gating id back depot)
    (gated' : (next.pool id).gate = some gate') :
    gate'.waiting = [] ∨ ∃ gate, (depot.pool id).gate = some gate ∧
      (gate'.waiting.Sublist gate.waiting ∨
        gate'.waiting = gate.waiting ++ [depot.tasks.length]) := by
  cases (touch_of_move move : Touch id depot actor next) with
  | missing outside outside' =>
      rw [next.pool_of_length_le outside'] at gated'
      cases gated'
  | fresh outside fresh =>
      left
      rw [((gate_fresh fresh).2 gate' gated').2.2]
  | still same => exact Or.inr ⟨gate', same ▸ gated', Or.inl (List.Sublist.refl _)⟩
  | other who same => exact Or.inr ⟨gate', same ▸ gated', Or.inl (List.Sublist.refl _)⟩
  | own who inside becomes effect =>
      rename_i task request phase phase'
      right
      have gated := (fixed_of_effect effect).gated
      rw [gated', Option.isSome_some] at gated
      obtain ⟨gate, there⟩ := Option.isSome_iff_exists.mp gated.symm
      obtain ⟨_, found, -, passage⟩ := passage_of_own gating becomes effect there
      cases gated'.symm.trans found
      refine ⟨gate, there, ?_⟩
      rcases passage.waiting with fewer | ⟨grown, -, queued⟩
      · exact Or.inl fewer
      · obtain ⟨context, since, waits⟩ := queued_of_isQueued queued
        have newest := newest_of_becomes becomes (queues_of_effect effect waits).1
        exact Or.inr (newest ▸ grown)

theorem lt_of_waiting (gating : Gating id back depot) (gated : (depot.pool id).gate = some gate)
    (waits : task ∈ gate.waiting) : task < depot.tasks.length :=
  lt_of_queued ((gating.slots gate gated).known task (List.mem_append_left _ waits))

theorem InOrder.keeps {back' : Nat} (move : Move view depot actor next)
    (gating : Gating id back depot) (gating' : Gating id back' next)
    (ordered : InOrder id depot) : InOrder id next := by
  constructor
  · intro gate' gated'
    rcases waiting_of_move move gating gated' with nobody | ⟨gate, gated, fewer | grown⟩
    · rw [nobody]
      exact .nil
    · exact (ordered.ascending gate gated).sublist fewer
    · rw [grown]
      refine List.pairwise_append.mpr ⟨ordered.ascending gate gated, by simp, ?_⟩
      intro early waits late newest
      rw [List.mem_singleton.mp newest]
      exact lt_of_waiting gating gated waits
  · intro gate' gated' early waits late after served
    rcases waiting_of_move move gating gated' with nobody | ⟨gate, gated, queue⟩
    · rw [nobody] at waits
      cases waits
    · have before : early ∈ gate.waiting ∨ early = depot.tasks.length := by
        rcases queue with fewer | grown
        · exact Or.inl (fewer.subset waits)
        · rw [grown] at waits
          exact (List.mem_append.mp waits).imp_right List.mem_singleton.mp
      rcases before with waited | rfl
      · exact unserved_of_move move gating ordered gated waited after served
      -- The newest task is followed by none.
      · have there := Nat.lt_of_lt_of_le (lt_of_served gating' served)
          (length_tasks_of_move move).2
        exact absurd there (Nat.not_lt_of_le after)

theorem inOrder_empty (id : PoolId) : InOrder id {} := by
  constructor
  · intro gate gated
    cases gated
  · intro gate gated
    cases gated

theorem waits_iff (gating : Gating id back depot) (gated : (depot.pool id).gate = some gate)
    (isOpen : (depot.pool id).closed = false) : Waits id task depot ↔ task ∈ gate.waiting := by
  have slots := gating.slots gate gated
  constructor
  · intro waits
    have member := slots.listed (slots.alike.trans isOpen) task waits.queued
    exact (List.mem_append.mp member).resolve_right (waits.empty gate gated)
  · intro waits
    refine ⟨slots.known task (List.mem_append_left _ waits), isOpen, fun other gated' granted => ?_⟩
    cases gated.symm.trans gated'
    exact (List.nodup_append.mp slots.orderly.distinct).2.2 task waits task granted rfl

structure Serving (view id : PoolId) (depot : Depot) : Prop where
  straying : ∃ own stray, Straying view id own stray depot
  ordered : InOrder id depot
  queues : Queues id depot

theorem Serving.keeps (move : Move view depot actor next) (serving : Serving view id depot) :
    Serving view id next := by
  obtain ⟨⟨own, stray, straying⟩, ordered, queues⟩ := serving
  have straying' := straying.keeps move
  exact ⟨⟨_, _, straying'⟩, ordered.keeps move straying.gating straying'.gating,
    queues.keeps move⟩

theorem serving_empty (view id : PoolId) : Serving view id {} :=
  ⟨⟨0, 0, straying_empty view id⟩, inOrder_empty id, (watched_empty id).queues⟩

section Handing

variable {past : List Turn}

theorem longestQueued_of_first {rest : List TaskId} (front : Chain view {} past depot)
    (gating : Gating id back depot) (ordered : InOrder id depot)
    (gated : (depot.pool id).gate = some gate) (isOpen : (depot.pool id).closed = false)
    {first : TaskId} (queue : gate.waiting = first :: rest) :
    LongestQueued id past first depot := by
  have starter {task : TaskId} (waits : Waits id task depot) : ∃ turn ∈ past, turn.Starts task := by
    obtain ⟨context, since, here⟩ := stage_of_queued waits.queued
    exact front.exists_start rfl (by rw [here]; simp)
  have waits : Waits id first depot :=
    (waits_iff gating gated isOpen).mpr (by rw [queue]; exact List.mem_cons_self)
  refine ⟨waits, fun other waits' => ?_⟩
  have member := (waits_iff gating gated isOpen).mp waits'
  have ascending := ordered.ascending gate gated
  rw [queue] at member ascending
  rcases List.mem_cons.mp member with same | behind
  · exact Or.inl same
  · right
    have before := (List.pairwise_cons.mp ascending).1 other behind
    obtain ⟨start, there, starts⟩ := starter waits
    obtain ⟨arrival, there', arrives⟩ := starter waits'
    obtain ⟨early, late, rfl⟩ := List.append_of_mem there
    refine ⟨early, start, late, rfl, starts, arrival, ?_, arrives⟩
    obtain ⟨opening, move, -⟩ := front.at_turn
    have place := length_of_starts move starts
    rcases List.mem_append.mp there' with earlier | here
    -- Tasks are numbered as they start, so the other one did not start first.
    · obtain ⟨older, newer, rfl⟩ := List.append_of_mem earlier
      obtain ⟨-, move', rest⟩ := opening.at_turn
      have counted : other < start.before.tasks.length :=
        (rest.keeps (fun move counted => Nat.lt_of_lt_of_le counted (length_tasks_of_move move).1)
          (lt_of_starts move' arrives)).1
      rw [← place] at counted
      exact absurd before (Nat.lt_asymm counted)
    · rcases List.mem_cons.mp here with rfl | later
      · cases starts.1.symm.trans arrives.1
        exact absurd before (Nat.lt_irrefl _)
      · exact later

theorem passesSlot_of_freed (front : Chain view {} past turn.before)
    (gating : Gating id back turn.before) (ordered : InOrder id turn.before)
    (gated : (turn.before.pool id).gate = some gate) (isOpen : (turn.before.pool id).closed = false)
    (freed : (turn.after.pool id).gate = some (gate.collect task).release) :
    turn.PassesSlot id task past := by
  cases queue : gate.waiting with
  | nil =>
      refine .toNobody gated (fun other waits => ?_) freed ?_ ?_
      · have member := (waits_iff gating gated isOpen).mp waits
        rw [queue] at member
        cases member
      · simp [Gate.release, Gate.collect, queue]
      · simp [Gate.release, Gate.collect, queue]
  | cons first rest =>
      refine .toLongest gated (longestQueued_of_first front gating ordered gated isOpen queue)
        freed ?_ ?_
      · simp [Gate.release, Gate.collect, queue]
      · simp [Gate.release, Gate.collect, queue]

theorem pool?_of_returned? {handle : HandleId} (brings : request.returned? = some (id, handle)) :
    request.pool? = some id := by
  cases request with
  | giveBack pool back | discard pool back =>
      cases brings
      rfl
  | _ => cases brings

theorem unqueued_of_over (isOver : phase.isOver = true) : phase.isInside id = false := by
  cases phase with
  | finished | dropped => rfl
  | _ => cases isOver

theorem passesSlot_of_move (front : Chain view {} past turn.before)
    (move : Move view turn.before turn.actor turn.after) (serving : Serving view id turn.before)
    (frees : turn.FreesSlot id task)
    (bounded : (turn.before.pool id).limits.boundedWait = true)
    (isOpen : (turn.before.pool id).closed = false) : turn.PassesSlot id task past := by
  obtain ⟨⟨own, stray, straying⟩, ordered, queues⟩ := serving
  have gating := straying.gating
  obtain ⟨gate, gated⟩ := Option.isSome_iff_exists.mp (gating.gated.trans bounded)
  have slots := gating.slots gate gated
  have mine : turn.actor = some task := by
    cases frees with
    | returned starts => exact starts.1
    | failed actor => exact actor
    | declined actor => exact actor
  have known (handed : task ∈ gate.granted) : turn.before.isQueued id task = true :=
    slots.known task (List.mem_append_right _ handed)
  rw [mine] at move
  obtain ⟨request, phase, phase', site, pool, held, effect, pools, tasks, -⟩ := shift_of_move move
  have before := stage_before tasks
  have after := stage_after tasks
  have uses : phase = .asked ∧ request.pool? = some id ∨ phase.stake? = some id := by
    cases frees with
    | returned starts called brings =>
        cases request_of_called tasks called
        exact Or.inl ⟨before.symm.trans starts.2, pool?_of_returned? brings⟩
    | failed actor inside =>
        right
        by_contra apart
        rw [before, isInside_of_apart apart] at inside
        cases inside
    | declined actor gated' handed =>
        cases gated.symm.trans gated'
        obtain ⟨context, since, queued⟩ := stage_of_queued (known handed)
        rw [← before, queued]
        exact Or.inr rfl
  have here := site_of_effect effect uses
  subst here
  obtain ⟨gate', gated', -, passage⟩ := passage_of_own gating tasks effect gated
  refine passesSlot_of_freed front gating ordered gated isOpen ?_
  rw [pool_set_same pools (inside_of_gated gated), gated']
  refine congrArg some (passage.freed (slots.alike.trans isOpen) (fun handed => ?_) ?_)
  · have queued := known handed
    rwa [isQueued, any_before tasks rfl] at queued
  · cases frees with
    | returned starts called brings =>
        cases request_of_called tasks called
        have asked := before.symm.trans starts.2
        subst asked
        exact Or.inl (bringsBack_own brings)
    | failed actor inside isOver nothing =>
        rw [before] at inside
        rw [after] at isOver nothing
        rw [inside, unqueued_of_over isOver, nothing]
        exact Or.inr (Or.inl ⟨rfl, rfl, rfl⟩)
    | declined actor gated'' handed isOver =>
        cases gated.symm.trans gated''
        rw [after] at isOver
        rw [unqueued_of_over isOver]
        exact Or.inr (Or.inr ⟨handed, rfl⟩)

end Handing

/-- In every run, as long as a pool is open, a checkout that starts while another one waits for a
slot is served after it, if at all, and a slot that is given up goes to the checkout that has waited
longest. -/
theorem served_in_order {actions : List Action} {first later : List Turn}
    (splits : ({} : Depot).turns actions = first ++ turn :: later) (id : PoolId) :
    Precedes id first turn later := by
  obtain ⟨view, chain⟩ := exists_chain actions
  rw [splits] at chain
  obtain ⟨front, move, rest⟩ := chain.at_turn
  have served := (chain.keeps Serving.keeps (serving_empty view id)).2
  have here := (served turn (by simp)).1
  constructor
  · intro earlier newcomer waits starts next member waits'
    obtain ⟨⟨own, stray, straying⟩, ordered, queues⟩ :=
      (served next (List.mem_append_right _ member)).1
    have after : earlier < newcomer := by
      rw [length_of_starts move starts]
      exact lt_of_queued waits.queued
    obtain ⟨context, since, queued⟩ := stage_of_queued waits'.queued
    have begun : next.before.stage earlier ≠ .asked := by rw [queued]; simp
    have there := phase?_of_stage begun
    rw [queued] at there
    obtain ⟨gate, gated⟩ := Option.isSome_iff_exists.mp (queues _ context since there).2
    exact unserved_of_move (chain.move_of_mem (List.mem_append_right _ member)) straying.gating
      ordered gated ((waits_iff straying.gating gated waits'.isOpen).mp waits') after
  · intro task frees bounded isOpen
    exact passesSlot_of_move front move here frees bounded isOpen

theorem length_crowded : (({} : Depot).turns crowded).length = 8 := by decide

/-- The third checkout starts while the second one waits. The handle that comes back then brings a
slot to the second. -/
theorem served_in_order_crowded :
    (∃ first turn later, ({} : Depot).turns crowded = first ++ turn :: later ∧
      Waits 0 1 turn.before ∧ turn.Starts 2 ∧ Precedes 0 first turn later) ∧
    ∃ first turn later, ({} : Depot).turns crowded = first ++ turn :: later ∧
      turn.FreesSlot 0 3 ∧ turn.PassesSlot 0 3 first ∧ Precedes 0 first turn later := by
  constructor
  · obtain ⟨first, later, splits, -⟩ :=
      split_at (List.getElem?_eq_getElem (length_crowded ▸ (by decide : 6 < 8)))
    refine ⟨first, _, later, splits, ⟨by decide, by decide, fun gate gated => ?_⟩,
      ⟨by decide, by decide⟩, served_in_order splits 0⟩
    cases gated.symm.trans (by decide : _ = some ({ free := 0, waiting := [1] } : Gate))
    decide
  · obtain ⟨first, later, splits, -⟩ :=
      split_at (List.getElem?_eq_getElem (length_crowded ▸ (by decide : 7 < 8)))
    have called : CalledFor (.giveBack 0 0) 3 (({} : Depot).turns crowded)[7].after :=
      ⟨.finished .completed, by decide⟩
    have frees : Turn.FreesSlot 0 3 (({} : Depot).turns crowded)[7] :=
      .returned ⟨by decide, by decide⟩ called rfl
    have precedes := served_in_order splits 0
    exact ⟨first, _, later, splits, frees, precedes.passes 3 frees (by decide) (by decide),
      precedes⟩

end Depot

end HandlePool
