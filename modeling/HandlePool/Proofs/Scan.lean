import HandlePool.Proofs.Closed

/-!
What a checkout finds among the idle handles of its pool. It drops the closed ones off the back when
it gets past the gate, gives up the unusable ones in front of the first usable one, closing those
that are open, and takes that one. Only if there is none does it go on to dial.
-/
namespace HandlePool

def Phase.Scans (id : PoolId) (slot : Bool) (phase : Phase) : Prop :=
  phase = .scanning id slot ∨ ∃ handle due, phase = .closing id handle due (.rescan slot)

theorem Phase.scans_iff {id : PoolId} {slot : Bool} {phase : Phase} :
    phase.Scans id slot ↔ phase.slot? id = some slot ∧ phase.call? = none := by
  cases phase with
  | scanning pool other => simp [Scans, slot?, call?]
  | dialing pool other call => simp [Scans, call?]
  | closing pool handle due errand => cases errand <;> simp [Scans, slot?, call?]
  | _ => simp [Scans, slot?]

instance (id : PoolId) (slot : Bool) (phase : Phase) : Decidable (phase.Scans id slot) :=
  decidable_of_iff _ Phase.scans_iff.symm

/-- The task goes on and is not dropped, or no task and no handle changes. -/
def Turn.Undisturbed (task : TaskId) (turn : Turn) : Prop :=
  turn.actor = some task ∧ turn.after.stage task ≠ .dropped ∨
    turn.actor = none ∧ turn.after.handles = turn.before.handles

instance (task : TaskId) (turn : Turn) : Decidable (turn.Undisturbed task) :=
  inferInstanceAs (Decidable (_ ∨ _))

namespace Depot

variable {id view : PoolId} {depot next start last : Depot} {task : TaskId} {slot : Bool}
  {request : Request} {phase : Phase} {handle : HandleId} {gone rest : List HandleId}
  {turn : Turn}

theorem stage_of_getElem? {found : Task} (here : depot.tasks[task]? = some found) :
    depot.stage task = found.phase := by
  rw [stage, phase?_of_getElem? here]
  rfl

theorem exists_of_stage (begun : depot.stage task ≠ .asked) :
    ∃ found, depot.tasks[task]? = some found ∧ found.phase = depot.stage task := by
  cases here : depot.tasks[task]? with
  | none =>
      rw [stage, phase?, here] at begun
      exact absurd rfl begun
  | some found => exact ⟨found, rfl, (stage_of_getElem? here).symm⟩

theorem stage_modify (begun : depot.stage task ≠ .asked)
    (tasks : next.tasks = depot.tasks.modify task ({ · with phase })) :
    next.stage task = phase := by
  obtain ⟨found, here, -⟩ := exists_of_stage begun
  have there : next.tasks[task]? = some { found with phase } := by
    rw [tasks, List.getElem?_modify, here]
    simp
  exact stage_of_getElem? there

theorem step_of_move (move : Move view depot (some task) next) (begun : depot.stage task ≠ .asked)
    (kept : next.stage task ≠ .dropped) : depot.step? task = some next := by
  cases move with
  | begins called moves answers =>
      exact absurd depot.stage_length begun
  | steps here begun' unfinished moves goes =>
      rcases goes with step | dropped
      · rw [step?, here]
        exact step
      · rw [dropped] at kept
        refine absurd (stage_modify begun ?_) kept
        rw [tasks_enter, tasks_undo]

theorem step?_of_stage (stage_eq : depot.stage task = phase) (begun : phase ≠ .asked) :
    ∃ request, depot.step? task = depot.stepFrom task request phase := by
  obtain ⟨found, here, same⟩ := exists_of_stage (by rw [stage_eq]; exact begun)
  refine ⟨found.request, ?_⟩
  rw [step?, here, ← stage_eq, ← same]
  rfl

theorem step?_scanning (here : depot.stage task = .scanning id slot) :
    depot.step? task = some (depot.scan task id slot) := by
  obtain ⟨request, step⟩ := step?_of_stage here (by simp)
  exact step

theorem step?_rescanning {due : Option Nat}
    (here : depot.stage task = .closing id handle due (.rescan slot)) :
    depot.step? task =
      if depot.elapsed due then
        some ((depot.endPoolClose id handle).enter task (.scanning id slot))
      else none := by
  obtain ⟨request, step⟩ := step?_of_stage here (by simp)
  exact step

theorem scan_of_nil (nothing : (depot.pool id).idleList = []) (task : TaskId) (slot : Bool) :
    depot.scan task id slot = depot.reserve task id slot := by
  rw [scan, (Pool.takeNewest_eq_none _).mpr nothing]

def cut (depot : Depot) (id : PoolId) (idle : Idle.Shelf HandleId) : Depot :=
  depot.setPool id (({ depot.pool id with idle } : Pool).forget 1)

theorem scan_of_cons (entries : (depot.pool id).idleList = handle :: rest) (task : TaskId)
    (slot : Bool) : ∃ idle : Idle.Shelf HandleId, idle.toList = rest ∧
      depot.scan task id slot =
        if (depot.handle handle).usable then
          ((depot.setPool id { depot.pool id with idle }).note (.reusing id)).finish task
            (.checkedOut id handle)
        else if depot.isClosed handle then (depot.cut id idle).enter task (.scanning id slot)
        else (depot.cut id idle).beginClose task id handle (.rescan slot) := by
  cases taken : (depot.pool id).takeNewest with
  | none =>
      rw [(Pool.takeNewest_eq_none _).mp taken] at entries
      cases entries
  | some entry =>
      obtain ⟨newest, pool⟩ := entry
      obtain ⟨found, same⟩ := Pool.takeNewest_eq_some taken
      rw [entries, List.cons.injEq] at found
      obtain ⟨rfl, older⟩ := found
      refine ⟨pool.idle, older.symm, ?_⟩
      rw [scan, taken]
      dsimp only
      rw [same]
      rfl

structure Sheds (id : PoolId) (handle : HandleId) (rest : List HandleId) (depot next : Depot) :
    Prop where
  pools : next.pools.length = depot.pools.length
  idle : (next.pool id).idleList = rest
  active : (next.pool id).active = (depot.pool id).active - 1
  destroyed : (next.pool id).destroyed = (depot.pool id).destroyed + 1
  closed : (next.pool id).closed = (depot.pool id).closed
  fixed : Fixed (depot.pool id) (next.pool id)
  handles : next.handles = depot.handles
  called : next.called = depot.called
  begun : next.begun = depot.begun ++ [handle].filter (!depot.isClosed ·)

theorem sheds_of_unusable (there : id < depot.pools.length)
    (entries : (depot.pool id).idleList = handle :: rest)
    (unusable : (depot.handle handle).usable = false)
    (here : depot.stage task = .scanning id slot) :
    Sheds id handle rest depot (depot.scan task id slot) ∧
      ((depot.scan task id slot).stage task).Scans id slot := by
  obtain ⟨idle, older, scanned⟩ := scan_of_cons entries task slot
  rw [scanned, if_neg (by rw [unusable]; simp)]
  have begins : depot.stage task ≠ .asked := by rw [here]; simp
  have found : (depot.cut id idle).pool id = ({ depot.pool id with idle } : Pool).forget 1 := by
    rw [cut, pool_setPool, if_pos ⟨rfl, there⟩]
  have sheds (next : Depot) (pools : next.pools = (depot.cut id idle).pools)
      (handles : next.handles = depot.handles) (called : next.called = depot.called)
      (begun : next.begun = depot.begun ++ [handle].filter (!depot.isClosed ·)) :
      Sheds id handle rest depot next := by
    have pool : next.pool id = ({ depot.pool id with idle } : Pool).forget 1 := by
      rw [← found, Depot.pool, Depot.pool, pools]
    have length : next.pools.length = depot.pools.length := by
      rw [pools, cut, setPool, List.length_set]
    exact ⟨length, by rw [pool]; exact older, by rw [pool]; rfl, by rw [pool]; rfl,
      by rw [pool]; rfl, by rw [pool]; exact ⟨rfl, rfl, rfl⟩, handles, called, begun⟩
  cases dead : depot.isClosed handle with
  | true =>
      rw [if_pos rfl]
      refine ⟨sheds _ rfl rfl rfl ?_, Or.inl (stage_modify begins rfl)⟩
      rw [List.filter_cons_of_neg (by simp [dead]), List.filter_nil, List.append_nil]
      rfl
  | false =>
      rw [if_neg (by simp)]
      refine ⟨sheds _ rfl rfl ?_ ?_, Or.inr ⟨handle, _, stage_modify begins rfl⟩⟩
      · exact List.filterMap_append.trans (List.append_nil _)
      · rw [List.filter_cons_of_pos (by simp [dead]), List.filter_nil]
        exact (depot.cut id idle).begun_record (.close handle)

structure Takes (id : PoolId) (task : TaskId) (handle : HandleId) (rest : List HandleId)
    (depot next : Depot) : Prop where
  out : next.stage task = .finished (.checkedOut id handle)
  idle : (next.pool id).idleList = rest
  active : (next.pool id).active = (depot.pool id).active
  destroyed : (next.pool id).destroyed = (depot.pool id).destroyed
  called : next.called = depot.called
  begun : next.begun = depot.begun

theorem takes_of_usable (there : id < depot.pools.length)
    (entries : (depot.pool id).idleList = handle :: rest)
    (usable : (depot.handle handle).usable = true)
    (here : depot.stage task = .scanning id slot) :
    Takes id task handle rest depot (depot.scan task id slot) := by
  obtain ⟨idle, older, scanned⟩ := scan_of_cons entries task slot
  rw [scanned, if_pos usable]
  have begins : depot.stage task ≠ .asked := by rw [here]; simp
  have pool : (((depot.setPool id { depot.pool id with idle }).note (.reusing id)).finish task
      (.checkedOut id handle)).pool id = { depot.pool id with idle } := by
    have found := depot.pool_setPool id id { depot.pool id with idle }
    rw [if_pos ⟨rfl, there⟩] at found
    exact found
  have untouched : Untouched depot (((depot.setPool id { depot.pool id with idle }).note
      (.reusing id)).finish task (.checkedOut id handle)) :=
    untouched_finish (untouched_note (untouched_setPool depot id _) _) task _
  exact ⟨stage_modify begins (tasks_finish _ _ _), by rw [pool]; exact older, by rw [pool],
    by rw [pool], called_of_untouched untouched, begun_of_untouched untouched⟩

theorem stage_reserve (here : depot.stage task = .scanning id slot) :
    (∃ call, (depot.reserve task id slot).stage task = .dialing id slot call) ∨
      ∃ outcome, (depot.reserve task id slot).stage task = .finished outcome := by
  have begins : depot.stage task ≠ .asked := by rw [here]; simp
  unfold reserve
  dsimp only
  split
  · split
    · exact Or.inr ⟨_, stage_modify begins (by rw [fail, tasks_finish, tasks_handBack]; rfl)⟩
    · exact Or.inr ⟨_, stage_modify begins (by rw [fail, tasks_finish, tasks_handBack])⟩
  · split
    · exact Or.inr ⟨_, stage_modify begins (by rw [fail, tasks_finish, tasks_handBack]; rfl)⟩
    · exact Or.inl ⟨_, stage_modify begins rfl⟩

theorem not_scans_reserve (here : depot.stage task = .scanning id slot) :
    ¬ ((depot.reserve task id slot).stage task).Scans id slot ∧
      (depot.reserve task id slot).stage task ≠ .dropped := by
  unfold Phase.Scans
  rcases stage_reserve here with ⟨call, stage⟩ | ⟨outcome, stage⟩ <;> rw [stage] <;> simp

inductive Looks (id : PoolId) (slot : Bool) (task : TaskId) (depot next : Depot) : Prop where
  | nothing (empty : (depot.pool id).idleList = []) (reserves : next = depot.reserve task id slot)
  | takes {newest older} (entries : (depot.pool id).idleList = newest :: older)
      (usable : (depot.handle newest).usable = true) (takes : Takes id task newest older depot next)
  | sheds {newest older} (entries : (depot.pool id).idleList = newest :: older)
      (unusable : (depot.handle newest).usable = false)
      (sheds : Sheds id newest older depot next) (scans : (next.stage task).Scans id slot)

theorem looks_of_scan (there : id < depot.pools.length)
    (here : depot.stage task = .scanning id slot) :
    Looks id slot task depot (depot.scan task id slot) := by
  cases entries : (depot.pool id).idleList with
  | nil => exact .nothing entries (scan_of_nil entries task slot)
  | cons handle rest =>
      cases usable : (depot.handle handle).usable with
      | true => exact .takes entries usable (takes_of_usable there entries usable here)
      | false =>
          obtain ⟨sheds, scans⟩ := sheds_of_unusable there entries usable here
          exact .sheds entries usable sheds scans

structure Scan (id : PoolId) (start depot : Depot) (gone : List HandleId) : Prop where
  there : id < depot.pools.length
  kept : (start.pool id).idleList.rdropWhile start.isClosed = gone ++ (depot.pool id).idleList
  unusable : ∀ handle ∈ gone, (start.handle handle).usable = false
  begun : depot.begun = start.begun ++ gone.filter (!start.isClosed ·)
  called : depot.called = start.called
  same : ∀ handle ∈ (depot.pool id).idleList, depot.handle handle = start.handle handle
  room : (start.pool id).idleList.length ≤ (start.pool id).active
  active : (depot.pool id).active + (start.pool id).idleList.length =
    (start.pool id).active + (depot.pool id).idleList.length
  destroyed : (depot.pool id).destroyed + (depot.pool id).idleList.length =
    (start.pool id).destroyed + (start.pool id).idleList.length
  closed : (depot.pool id).closed = (start.pool id).closed
  fixed : Fixed (start.pool id) (depot.pool id)

theorem Fixed.trans {before mid after : Pool} (one : Fixed before mid) (two : Fixed mid after) :
    Fixed before after :=
  ⟨two.limits.trans one.limits, two.dialer.trans one.dialer, two.gated.trans one.gated⟩

theorem Scan.sheds (scan : Scan id start depot gone)
    (entries : (depot.pool id).idleList = handle :: rest)
    (unusable : (depot.handle handle).usable = false) (sheds : Sheds id handle rest depot next) :
    Scan id start next (gone ++ [handle]) := by
  have was := scan.same handle (by rw [entries]; exact List.mem_cons_self)
  have dead : depot.isClosed handle = start.isClosed handle := by rw [isClosed, isClosed, was]
  have active := scan.active
  have destroyed := scan.destroyed
  have room := scan.room
  rw [entries, List.length_cons] at active destroyed
  constructor
  · rw [sheds.pools]
    exact scan.there
  · rw [scan.kept, entries, sheds.idle, List.append_assoc]
    rfl
  · intro other passed
    rcases List.mem_append.mp passed with before | now
    · exact scan.unusable other before
    · rw [List.mem_singleton.mp now, ← was]
      exact unusable
  · rw [sheds.begun, scan.begun, List.filter_append, List.append_assoc, List.filter_singleton,
      List.filter_singleton, dead]
  · exact sheds.called.trans scan.called
  · intro other idles
    rw [sheds.idle] at idles
    rw [Depot.handle, sheds.handles]
    exact scan.same other (by rw [entries]; exact List.mem_cons_of_mem _ idles)
  · exact room
  · rw [sheds.active, sheds.idle]
    omega
  · rw [sheds.destroyed, sheds.idle]
    omega
  · exact sheds.closed.trans scan.closed
  · exact scan.fixed.trans sheds.fixed

theorem handle_endPoolClose {other : HandleId} (apart : other ≠ handle) :
    (depot.endPoolClose id handle).handle other = depot.handle other := by
  have handles := (untouched_endPoolClose depot id handle).handles
  rw [Depot.handle, handles, Depot.handle]
  simp [endClose, record, changeHandle, setHandle, List.getD_eq_getElem?_getD,
    List.getElem?_set_ne apart.symm]

theorem not_idle_of_closing (owned : Owned depot) (there : id < depot.pools.length)
    (closes : (depot.stage task).closing? = some handle) :
    handle ∉ (depot.pool id).idleList := by
  intro idles
  have closing : handle ∈ depot.closing := by
    have begun : depot.stage task ≠ .asked := by
      intro asked
      rw [asked] at closes
      cases closes
    obtain ⟨found, here, same⟩ := exists_of_stage begun
    rw [Depot.closing, List.mem_flatMap]
    exact ⟨found, List.mem_of_getElem? here, by rw [same, closes]; exact List.mem_singleton_self _⟩
  have idle : handle ∈ depot.idleHandles := by
    have entry : depot.pools[id]? = some (depot.pool id) := by
      simp [Depot.pool, List.getD_eq_getElem?_getD, there]
    exact List.mem_flatMap.mpr ⟨_, List.mem_of_getElem? entry, idles⟩
  have places := (exclusive_of_owned owned).places
  rw [List.nodup_append] at places
  exact places.2.2 handle (by simp [idle]) handle closing rfl

theorem Scan.still (scan : Scan id start depot gone) (pool : next.pool id = depot.pool id)
    (pools : depot.pools.length ≤ next.pools.length) (begun : next.begun = depot.begun)
    (called : next.called = depot.called)
    (same : ∀ handle ∈ (depot.pool id).idleList, next.handle handle = depot.handle handle) :
    Scan id start next gone where
  there := Nat.lt_of_lt_of_le scan.there pools
  kept := by rw [pool]; exact scan.kept
  unusable := scan.unusable
  begun := begun.trans scan.begun
  called := called.trans scan.called
  same := by
    intro handle idles
    rw [pool] at idles
    exact (same handle idles).trans (scan.same handle idles)
  room := scan.room
  active := by rw [pool]; exact scan.active
  destroyed := by rw [pool]; exact scan.destroyed
  closed := by rw [pool]; exact scan.closed
  fixed := by rw [pool]; exact scan.fixed

theorem Scan.rescan (scan : Scan id start depot gone) (owned : Owned depot) {due : Option Nat}
    (here : depot.stage task = .closing id handle due (.rescan slot)) :
    Scan id start ((depot.endPoolClose id handle).enter task (.scanning id slot)) gone := by
  have pools := (booked_endPoolClose depot id handle id).pools
  rw [set_pool] at pools
  have rest := untouched_endPoolClose depot id handle
  refine scan.still ?_ (Nat.le_of_eq (congrArg List.length pools.symm)) ?_ ?_ ?_
  · exact congrArg (·.getD id default) pools
  · exact (begun_of_untouched rest).trans
      (((depot.changeHandle handle Handle.closeOnce).begun_record _).trans (List.append_nil _))
  · exact (called_of_untouched rest).trans (List.filterMap_append.trans (List.append_nil _))
  · intro other idles
    apply handle_endPoolClose
    rintro rfl
    exact not_idle_of_closing owned scan.there (by rw [here]; rfl) idles

theorem called_outside {action : Action} (isOutside : action.isOutside = true) :
    (depot.act action).called = depot.called := by
  have monitored (handles : List HandleId) (from_ : Depot) :
      (handles.foldl runMonitor from_).called = from_.called := by
    induction handles generalizing from_ with
    | nil => rfl
    | cons handle rest ih =>
        exact (ih _).trans (List.filterMap_append.trans (List.append_nil _))
  cases action with
  | makePool name dialer parameter limits =>
      exact called_of_untouched (depot.untouched_addPool? name dialer parameter limits)
  | register directory key dialer parameter limits =>
      exact called_of_untouched (depot.untouched_register directory key dialer parameter limits)
  | runMonitors => exact monitored depot.monitors _
  | checkout | giveBack | discard | closeHeld | dial | shut | shutAll | poll | drop =>
      cases isOutside
  | _ => rfl

theorem Scan.outside (scan : Scan id start depot gone) (move : Move view depot none next)
    (handles : next.handles = depot.handles) : Scan id start next gone := by
  have grows := pools_grow move
  have pool : next.pool id = depot.pool id := by
    cases (touch_of_move move : Touch id depot none next) with
    | missing outside => exact absurd outside (Nat.not_le_of_lt scan.there)
    | fresh outside => exact absurd outside (Nat.not_le_of_lt scan.there)
    | still same => exact same
    | other who => cases who
    | own who => cases who
  cases move with
  | outside resting tasks held pools acts =>
      obtain ⟨action, isOutside, rfl⟩ := acts
      refine scan.still pool grows (idles_outside isOutside).begun (called_outside isOutside) ?_
      intro handle idles
      rw [Depot.handle, handles, Depot.handle]

theorem begun_of_scans (scans : phase.Scans id slot) : phase ≠ .asked := by
  rcases scans with rfl | ⟨handle, due, rfl⟩ <;> simp

theorem not_dropped_of_scans (scans : phase.Scans id slot) : phase ≠ .dropped := by
  rcases scans with rfl | ⟨handle, due, rfl⟩ <;> simp

theorem looks_of_move (move : Move view depot (some task) next) (there : id < depot.pools.length)
    (before : (depot.stage task).Scans id slot) (kept : next.stage task ≠ .dropped) :
    depot.stage task = .scanning id slot ∧ Looks id slot task depot next ∨
      ∃ handle due, depot.stage task = .closing id handle due (.rescan slot) ∧
        next = (depot.endPoolClose id handle).enter task (.scanning id slot) := by
  have step := step_of_move move (begun_of_scans before) kept
  rcases before with scanning | ⟨handle, due, closing⟩
  · rw [step?_scanning scanning, Option.some.injEq] at step
    exact Or.inl ⟨scanning, step ▸ looks_of_scan there scanning⟩
  · rw [step?_rescanning closing] at step
    split at step
    · cases step
      exact Or.inr ⟨handle, due, closing, rfl⟩
    · cases step

theorem stage_rescanned (begun : depot.stage task ≠ .asked) :
    ((depot.endPoolClose id handle).enter task (.scanning id slot)).stage task =
      .scanning id slot :=
  stage_modify begun (by rw [tasks_enter, (booked_endPoolClose depot id handle id).tasks])

theorem Scan.mem_of_idle (scan : Scan id start depot gone)
    (idles : handle ∈ (depot.pool id).idleList) : handle ∈ (start.pool id).idleList := by
  apply (List.rdropWhile_prefix start.isClosed (start.pool id).idleList).subset
  rw [scan.kept]
  exact List.mem_append_right gone idles

theorem Scan.goes_on (scan : Scan id start depot gone) (owned : Owned depot)
    {actor : Option TaskId} (move : Move view depot actor next)
    (undisturbed : Turn.Undisturbed task ⟨actor, depot, next⟩)
    (before : (depot.stage task).Scans id slot) (after : (next.stage task).Scans id slot) :
    ∃ gone', Scan id start next gone' := by
  rcases undisturbed with ⟨mine, -⟩ | ⟨outside, handles⟩
  · dsimp only at mine
    subst mine
    rcases looks_of_move move scan.there before (not_dropped_of_scans after) with
      ⟨scanning, looks⟩ | ⟨handle, due, closing, rfl⟩
    · cases looks with
      | nothing empty reserves =>
          rw [reserves] at after
          exact absurd after (not_scans_reserve scanning).1
      | takes entries usable takes =>
          rw [takes.out] at after
          rcases after with after | ⟨handle, due, after⟩ <;> cases after
      | sheds entries unusable sheds => exact ⟨_, scan.sheds entries unusable sheds⟩
    · exact ⟨gone, scan.rescan owned closing⟩
  · dsimp only at outside handles
    subst outside
    exact ⟨gone, scan.outside move handles⟩

theorem Scan.goes_along {turns : List Turn} (chain : Chain view depot turns last)
    (undisturbed : ∀ turn ∈ turns, turn.Undisturbed task)
    (scans : ∀ turn ∈ turns, (turn.after.stage task).Scans id slot) (owned : Owned depot)
    (before : (depot.stage task).Scans id slot) (scan : Scan id start depot gone) :
    Owned last ∧ (last.stage task).Scans id slot ∧ ∃ gone', Scan id start last gone' := by
  induction chain generalizing gone with
  | nil => exact ⟨owned, before, gone, scan⟩
  | cons move rest ih =>
      have after := scans _ List.mem_cons_self
      obtain ⟨gone', scan'⟩ :=
        scan.goes_on owned move (undisturbed _ List.mem_cons_self) before after
      exact ih (fun turn member => undisturbed turn (List.mem_cons_of_mem _ member))
        (fun turn member => scans turn (List.mem_cons_of_mem _ member)) (owned.keeps move) after
        scan'

theorem changed_of_grant {pool : Pool} {waited : Option Nat}
    (grant : depot.Grant task request id phase pool slot waited) :
    ∃ change, pool = (depot.pool id).changeGate change := by
  cases grant with
  | free => exact ⟨fun gate => gate, ((depot.pool id).changeGate_same).symm⟩
  | taken => exact ⟨Gate.take, rfl⟩
  | collected => exact ⟨(·.collect task), rfl⟩

theorem idle_of_grant {pool : Pool} {waited : Option Nat}
    (grant : depot.Grant task request id phase pool slot waited) :
    ((pool.recordWait waited).prune depot.isClosed).1.idleList =
      (depot.pool id).idleList.rdropWhile depot.isClosed := by
  obtain ⟨change, rfl⟩ := changed_of_grant grant
  rw [Pool.idleList_prune, Pool.recordWait_eq]
  rfl

theorem untouched_of_deed {phase' : Phase} (deed : Deed depot request next phase phase')
    (idle : phase.closing? = none) (silent : phase.call? = none) (idle' : phase'.closing? = none)
    (silent' : phase'.call? = none) : Untouched depot next := by
  cases deed with
  | plain _ _ _ rest => exact rest
  | beginsClose closes =>
      rw [idle'] at closes
      cases closes
  | endsClose closed =>
      rw [idle] at closed
      cases closed
  | beginsDial calls =>
      rw [silent'] at calls
      cases calls
  | endsDial called =>
      rw [silent] at called
      cases called

theorem pruned_of_move (move : Move view depot (some task) next)
    (outside : (depot.stage task).isInside id = false)
    (enters : next.stage task = .scanning id slot) :
    ∃ request pool waited, depot.Grant task request id (depot.stage task) pool slot waited ∧
      next.pools =
        depot.pools.set id ((pool.recordWait waited).prune depot.isClosed).1 ∧
      Untouched depot next := by
  obtain ⟨request, phase, phase', site, pool, held, effect, pools, tasks, -⟩ := shift_of_move move
  have deed := deed_of_move move tasks
  rw [stage_before tasks] at outside ⊢
  rw [stage_after tasks] at enters
  subst enters
  cases effect with
  | aside apart apart' => cases apart'
  | pass grant =>
      refine ⟨request, _, _, grant, pools, untouched_of_deed deed ?_ ?_ rfl rfl⟩
      · cases grant <;> rfl
      · cases grant <;> rfl
  | reject taken unusable goes =>
      rcases goes with goes | ⟨due, goes⟩
      · cases goes
        rw [isInside_of_slot? (slot?_scanning _)] at outside
        cases outside
      · cases goes
  | rescan =>
      rw [isInside_of_slot? (slot?_rescanning _ _ _)] at outside
      cases outside
  | giveBack asks goes =>
      rcases goes with ⟨-, goes⟩ | ⟨-, goes⟩ | ⟨oldest, due, -, goes⟩ <;> cases goes
  | discard asks goes => rcases goes with ⟨-, goes⟩ | goes | ⟨due, goes⟩ <;> cases goes

theorem scan_of_pruned {pool : Pool} {waited : Option Nat}
    (there : id < depot.pools.length)
    (grant : depot.Grant task request id phase pool slot waited)
    (pools : next.pools = depot.pools.set id ((pool.recordWait waited).prune depot.isClosed).1)
    (untouched : Untouched depot next)
    (room : (depot.pool id).idleList.length ≤ (depot.pool id).active) :
    Scan id depot next [] := by
  have now := pool_set_same pools there
  have left : (next.pool id).idleList =
      (depot.pool id).idleList.rdropWhile depot.isClosed := by
    rw [now, idle_of_grant grant]
  obtain ⟨change, rfl⟩ := changed_of_grant grant
  have idle : (((depot.pool id).changeGate change).recordWait waited).idleList =
      (depot.pool id).idleList := by
    rw [Pool.recordWait_eq]
    rfl
  have split : (next.pool id).idleList.length +
      ((depot.pool id).idleList.rtakeWhile depot.isClosed).length =
        (depot.pool id).idleList.length := by
    rw [left, ← List.length_append, List.rdropWhile_append_rtakeWhile]
  constructor
  · rw [pools, List.length_set]
    exact there
  · rw [left]
    rfl
  · simp
  · rw [begun_of_untouched untouched]
    exact (List.append_nil _).symm
  · exact called_of_untouched untouched
  · intro handle idles
    rw [Depot.handle, untouched.handles, Depot.handle]
  · exact room
  · have active : (next.pool id).active = (depot.pool id).active -
        ((depot.pool id).idleList.rtakeWhile depot.isClosed).length := by
      rw [now, Pool.active_prune, Pool.stale, idle, Pool.recordWait_eq]
      rfl
    omega
  · have destroyed : (next.pool id).destroyed = (depot.pool id).destroyed +
        ((depot.pool id).idleList.rtakeWhile depot.isClosed).length := by
      rw [now, Pool.destroyed_prune, Pool.stale, idle, Pool.recordWait_eq]
      rfl
    omega
  · rw [now]
    simp
  · rw [now]
    exact ⟨by simp, by simp, by simp⟩

end Depot

end HandlePool
