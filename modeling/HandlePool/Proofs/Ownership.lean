import HandlePool.Proofs.Conservation
import HandlePool.Proofs.Deeds
import Mathlib.Data.List.Nodup

namespace HandlePool

def Phase.fresh (phase phase' : Phase) : List HandleId :=
  if phase.call?.isSome then phase'.got?.toList else []

namespace Depot

def idleHandles (depot : Depot) : List HandleId := depot.pools.flatMap Pool.idleList

def heldHandles (depot : Depot) : List HandleId := depot.held.map (·.handle)

def toClose (depot : Depot) : List HandleId := depot.tasks.flatMap (·.phase.hands)

def closing (depot : Depot) : List HandleId := depot.tasks.flatMap (·.phase.closing?.toList)

def live (depot : Depot) (handle : HandleId) : Nat :=
  depot.idleHandles.count handle + depot.heldHandles.count handle + depot.toClose.count handle

def known (depot : Depot) (handle : HandleId) : Nat :=
  (decide (handle < depot.handles.length)).toNat

variable {id view site : PoolId} {depot next last : Depot} {task : TaskId} {request : Request}
  {phase phase' : Phase} {pool : Pool} {handle : HandleId}

theorem count_flatMap_set {Item : Type} (part : Item → List HandleId) (handle : HandleId)
    {items : List Item} {place : Nat} {item : Item} (here : items[place]? = some item)
    (changed : Item) :
    ((items.set place changed).flatMap part).count handle + (part item).count handle =
      (items.flatMap part).count handle + (part changed).count handle := by
  obtain ⟨front, back, same, replaced⟩ := split_at here
  rw [replaced, same]
  simp only [List.flatMap_append, List.flatMap_cons, List.count_append]
  omega

theorem count_of_becomes {tasks tasks' : List Task}
    (becomes : Becomes tasks request task phase phase' tasks') (part : Phase → List HandleId)
    (nothing : part .asked = []) (handle : HandleId) :
    (tasks'.flatMap (part ·.phase)).count handle + (part phase).count handle =
      (tasks.flatMap (part ·.phase)).count handle + (part phase').count handle := by
  cases becomes with
  | new => simp [nothing]
  | old here begun unfinished =>
      exact count_flatMap_set (fun task : Task => part task.phase) handle here ⟨request, phase'⟩

theorem count_idleHandles (pools : next.pools = depot.pools.set site pool) (handle : HandleId) :
    next.idleHandles.count handle + (depot.pool site).idleList.count handle ≤
      depot.idleHandles.count handle + pool.idleList.count handle := by
  rw [idleHandles, pools]
  by_cases inside : site < depot.pools.length
  · have here : depot.pools[site]? = some (depot.pool site) := by
      simp [Depot.pool, List.getD_eq_getElem?_getD, inside]
    exact Nat.le_of_eq (count_flatMap_set Pool.idleList handle here pool)
  · have outside := Nat.le_of_not_lt inside
    rw [depot.pool_of_length_le outside, List.set_eq_of_length_le outside]
    exact Nat.le_add_right _ _

theorem handles_gains (task : TaskId) (phase : Phase) :
    (gains task phase).map (·.handle) = phase.got?.toList := by
  cases phase with
  | finished outcome => cases outcome <;> rfl
  | _ => rfl

theorem count_called {held : List Holding} (called : depot.Called view request held)
    (handle : HandleId) :
    (held.map (·.handle)).count handle + (request.brings .asked).count handle =
      depot.heldHandles.count handle := by
  cases called with
  | plain keeps bare => simp [Request.brings, bare, heldHandles]
  | surrendered there own brings =>
      rename_i place holding
      obtain ⟨inside, here⟩ := List.getElem?_eq_some_iff.mp there
      have perm := (List.getElem_cons_eraseIdx_perm inside).map (·.handle)
      rw [here] at perm
      rw [heldHandles, ← perm.count_eq handle, Request.brings, if_pos rfl, brings]
      simp [List.count_cons]

theorem got?_overflowOr (overflow : Bool) {outcome : Outcome}
    (nothing : (Phase.finished outcome).got? = none) :
    (Phase.finished (overflowOr overflow outcome)).got? = none :=
  got?_of_failed overflow outcome nothing

def Flows (before after : Pool) (request : Request) (phase phase' : Phase) (handle : HandleId) :
    Prop :=
  after.idleList.count handle + phase'.hands.count handle + phase'.closing?.toList.count handle +
      phase'.got?.toList.count handle ≤
    before.idleList.count handle + phase.hands.count handle +
      (request.brings phase).count handle + (phase.fresh phase').count handle

theorem flows_of_sublist {before after : Pool} (fewer : after.idleList.Sublist before.idleList)
    (hands : phase'.hands = []) (closing : phase'.closing? = none) (got : phase'.got? = none)
    (handle : HandleId) : Flows before after request phase phase' handle := by
  have counted := fewer.count_le handle
  rw [Flows, hands, closing, got]
  simp only [Option.toList_none, List.count_nil]
  omega

theorem sublist_grant {passed : Pool} {slot : Bool} {waited : Option Nat}
    (grant : depot.Grant task request id phase passed slot waited) :
    ((passed.recordWait waited).prune depot.isClosed).1.idleList.Sublist
      (depot.pool id).idleList := by
  have same : (passed.recordWait waited).idleList = (depot.pool id).idleList := by
    rw [Pool.recordWait_eq]
    cases grant <;> rfl
  rw [← same]
  exact Pool.sublist_prune _ _

theorem flows_aside (apart' : phase'.stake? = none)
    (carries : (phase'.closing?.toList ++ phase'.hands).Sublist
      (phase.hands ++ request.brings phase))
    (dials : ∀ handle, phase' = .finished (.dialed handle) → ∃ call, phase = .calling call ∧
      (depot.endDial call).1 = .connected handle) (handle : HandleId) :
    Flows pool pool request phase phase' handle := by
  have carried := carries.count_le handle
  rw [List.count_append, List.count_append] at carried
  unfold Flows
  cases got : phase'.got? with
  | none =>
      simp only [Option.toList_none, List.count_nil]
      omega
  | some given =>
      have dialed : phase' = .finished (.dialed given) := by
        cases phase' with
        | finished outcome =>
            cases outcome with
            | checkedOut => cases apart'
            | dialed => cases got; rfl
            | _ => cases got
        | _ => cases got
      obtain ⟨call, rfl, -⟩ := dials given dialed
      rw [Phase.fresh, got]
      simp only [Phase.call?, Option.isSome_some, if_true] at *
      omega

theorem flow_of_effect (effect : Effect depot task request site phase phase' pool)
    (handle : HandleId) : Flows (depot.pool site) pool request phase phase' handle := by
  cases effect with
  | aside apart apart' begun plain served calm carries dials =>
      exact flows_aside apart' carries dials handle
  | turnedAway | queue | leave | dial | rescan =>
      exact flows_of_sublist (List.Sublist.refl _) rfl rfl rfl handle
  | pass grant => exact flows_of_sublist (sublist_grant grant) rfl rfl rfl handle
  | letGo | abandon =>
      apply flows_of_sublist _ rfl rfl rfl handle
      rw [Pool.idleList_handBack]
  | bounce | quit =>
      exact flows_of_sublist (List.Sublist.refl _) rfl rfl (got?_overflowOr _ rfl) handle
  | deny | refuse | panic =>
      apply flows_of_sublist _ rfl rfl (got?_overflowOr _ rfl) handle
      rw [Pool.idleList_handBack]
  | unconfigured =>
      apply flows_of_sublist _ rfl rfl (got?_overflowOr _ rfl) handle
      rw [Pool.idleList_handBack]
      exact List.Sublist.refl _
  | reuse taken usable =>
      have split := (Pool.takeNewest_eq_some taken).1
      simp only [Flows, split, Phase.hands, Phase.closing?, Phase.got?, Option.toList_none,
        Option.toList_some, List.count_cons, List.count_nil]
      omega
  | reject taken unusable goes =>
      have split := (Pool.takeNewest_eq_some taken).1
      rcases goes with rfl | ⟨due, rfl⟩ <;>
        simp only [Flows, split, Pool.idleList_forget, Phase.hands, Phase.closing?, Phase.got?,
          Option.toList_none, Option.toList_some, List.count_cons, List.count_nil] <;>
        omega
  | connect answer =>
      simp only [Flows, Phase.fresh, Phase.call?, Option.isSome_some, if_true]
      have same : (depot.pool site).recordDial.idleList = (depot.pool site).idleList := rfl
      simp [same, Phase.hands, Phase.closing?]
  | giveBack asks goes =>
      rename_i given
      have counted := ((depot.pool site).perm_shelve given).count_eq handle
      rw [List.count_append, List.count_cons] at counted
      rw [Flows, Request.brings, if_pos rfl, asks, Pool.releaseSlot_eq, Pool.idleList_changeGate]
      simp only [Request.handle?, Option.toList_some, List.count_cons, List.count_nil]
      rcases goes with ⟨-, rfl⟩ | ⟨kept, rfl⟩ | ⟨oldest, due, evicted, rfl⟩
      · simp only [Phase.hands, Phase.closing?, Phase.got?, Option.toList_none, List.count_nil]
        omega
      · simp only [Phase.hands, Phase.closing?, Phase.got?, Option.toList_none, List.count_nil]
        omega
      · rw [evicted] at counted
        simp only [Phase.hands, Phase.closing?, Phase.got?, Option.toList_none, List.count_nil]
        omega
  | discard asks goes =>
      rw [Flows, Request.brings, if_pos rfl, asks, Pool.releaseSlot_eq, Pool.idleList_changeGate]
      simp only [Request.handle?, Pool.idleList_forget]
      rcases goes with ⟨-, rfl⟩ | rfl | ⟨due, rfl⟩ <;>
        simp only [Phase.hands, Phase.closing?, Phase.got?, Option.toList_none, List.count_nil] <;>
        omega
  | shut isOpen =>
      simp only [Flows, Phase.hands, Phase.closing?, Phase.got?, Pool.idleList, Pool.idle_shut,
        Pool.drained_shut, Idle.Shelf.toList_empty, Option.toList_none, List.count_nil]
      omega

theorem endDial_handles (depot : Depot) (call : Call) :
    (∃ handle, (depot.endDial call).1 = .connected handle ∧ handle = depot.handles.length ∧
      (depot.endDial call).2.handles.length = depot.handles.length + 1) ∨
    (∀ handle, (depot.endDial call).1 ≠ .connected handle) ∧
      (depot.endDial call).2.handles = depot.handles := by
  unfold endDial
  split
  rename_i ending dialer _
  cases ending with
  | connect fitting => exact Or.inl ⟨_, rfl, rfl, by simp [addHandle]; rfl⟩
  | refuse reason => exact Or.inr ⟨by simp, rfl⟩
  | panic message => exact Or.inr ⟨by simp, rfl⟩

theorem fresh_of_deed (deed : Deed depot request next phase phase') :
    phase.fresh phase' = [] ∧ next.handles.length = depot.handles.length ∨
      phase.fresh phase' = [depot.handles.length] ∧
        next.handles.length = depot.handles.length + 1 := by
  have still (nothing : phase.call? = none ∨ phase'.got? = none) : phase.fresh phase' = [] := by
    rcases nothing with quiet | nothing
    · simp [Phase.fresh, quiet]
    · simp [Phase.fresh, nothing]
  cases deed with
  | plain idle silent nothing rest => exact Or.inl ⟨still nothing, by rw [rest.handles]⟩
  | beginsClose closes rest =>
      refine Or.inl ⟨still (Or.inr (silent_of_closing? closes).2), ?_⟩
      rw [rest.handles]
      rfl
  | endsClose closed idle silent rest =>
      refine Or.inl ⟨still (Or.inl (silent_of_closing? closed).1), ?_⟩
      rw [rest.handles]
      exact List.length_set
  | beginsDial calls who rest =>
      refine Or.inl ⟨still (Or.inr (idle_of_call? calls).2), ?_⟩
      rw [rest.handles]
      rfl
  | endsDial called isOver yields rest =>
      rename_i call
      rcases depot.endDial_handles call with ⟨given, answer, rfl, grown⟩ | ⟨nothing, same⟩
      · right
        rw [rest.handles, grown, Phase.fresh, called, (yields _).mpr answer]
        exact ⟨rfl, rfl⟩
      · refine Or.inl ⟨still (Or.inr ?_), by rw [rest.handles, same]⟩
        cases got : phase'.got? with
        | none => rfl
        | some given => exact absurd ((yields given).mp got) (nothing given)

theorem known_of_deed (deed : Deed depot request next phase phase') (handle : HandleId) :
    (phase.fresh phase').count handle + known depot handle ≤ known next handle := by
  rcases fresh_of_deed deed with ⟨nothing, same⟩ | ⟨one, grown⟩
  · rw [nothing, known, known, same]
    simp
  · rw [one, known, known, grown, List.count_singleton]
    by_cases same : depot.handles.length = handle
    · simp [same]
    · by_cases older : handle < depot.handles.length
      · simp [same, older, Nat.lt_succ_of_lt older]
      · simp [same, older]

theorem live_of_becomes {held : List Holding}
    (tasks : Becomes depot.tasks request task phase phase' next.tasks)
    (pools : next.pools = depot.pools.set site pool)
    (called : phase = .asked → depot.Called view request held)
    (kept : phase ≠ .asked → held = depot.held) (gained : next.held = held ++ gains task phase')
    (handle : HandleId) :
    live next handle + (depot.pool site).idleList.count handle + phase.hands.count handle +
        (request.brings phase).count handle ≤
      live depot handle + pool.idleList.count handle + phase'.hands.count handle +
        phase'.got?.toList.count handle := by
  have idle := count_idleHandles pools handle
  have hands := count_of_becomes tasks Phase.hands rfl handle
  have before : (held.map (·.handle)).count handle + (request.brings phase).count handle =
      depot.heldHandles.count handle := by
    by_cases asked : phase = .asked
    · subst asked
      exact count_called (called rfl) handle
    · rw [kept asked, Request.brings, if_neg asked]
      rfl
  have after : next.heldHandles.count handle =
      (held.map (·.handle)).count handle + phase'.got?.toList.count handle := by
    rw [heldHandles, gained, List.map_append, List.count_append, handles_gains]
  simp only [live, toClose]
  omega

structure Flow (depot next : Depot) (handle : HandleId) : Prop where
  passes : live next handle + next.begun.count handle + known depot handle ≤
    live depot handle + depot.begun.count handle + known next handle
  begins : depot.begun <+: next.begun
  closes : next.closing.count handle + depot.begun.count handle ≤
    depot.closing.count handle + next.begun.count handle

theorem flow_of_task (move : Move view depot (some task) next) (handle : HandleId) :
    Flow depot next handle := by
  obtain ⟨request, phase, phase', site, pool, held, effect, pools, tasks, called, kept, gained⟩ :=
    shift_of_move move
  have deed := deed_of_move move tasks
  have begun := begun_of_deed deed
  have counted : next.begun.count handle =
      depot.begun.count handle + phase'.closing?.toList.count handle := by
    rw [begun, List.count_append]
  have closing := count_of_becomes tasks (·.closing?.toList) rfl handle
  constructor
  · have fresh := known_of_deed deed handle
    have flows := flow_of_effect effect handle
    have changed := live_of_becomes tasks pools called kept gained handle
    unfold Flows at flows
    omega
  · exact ⟨_, begun.symm⟩
  · simp only [Depot.closing]
    omega

structure Idles (depot next : Depot) : Prop where
  handles : next.handles.length = depot.handles.length
  begun : next.begun = depot.begun

theorem idles_of_untouched (rest : Untouched depot next) : Idles depot next :=
  ⟨by rw [rest.handles], begun_of_untouched rest⟩

theorem idles_runMonitors (depot : Depot) : Idles depot depot.runMonitors := by
  have each (handles : List HandleId) (start : Depot) :
      Idles start (handles.foldl runMonitor start) := by
    induction handles generalizing start with
    | nil => exact ⟨rfl, rfl⟩
    | cons handle rest ih =>
        have later := ih (start.runMonitor handle)
        have length : (start.runMonitor handle).handles.length = start.handles.length :=
          List.length_set
        have begun := (start.changeHandle handle Handle.monitored).begun_record (.monitor handle)
        exact ⟨later.handles.trans length, later.begun.trans (begun.trans (List.append_nil _))⟩
  have ran := each depot.monitors { depot with monitors := [] }
  exact ⟨ran.handles, ran.begun⟩

theorem idles_outside {action : Action} (isOutside : action.isOutside = true) :
    Idles depot (depot.act action) := by
  cases action with
  | mark handle mark => exact ⟨List.length_set, rfl⟩
  | makePool id dialer parameter limits =>
      exact idles_of_untouched (depot.untouched_addPool? id dialer parameter limits)
  | register directory key dialer parameter limits =>
      exact idles_of_untouched (depot.untouched_register directory key dialer parameter limits)
  | runMonitors => exact idles_runMonitors depot
  | checkout | giveBack | discard | closeHeld | dial | shut | shutAll | poll | drop =>
      cases isOutside
  | _ => exact ⟨rfl, rfl⟩

theorem flow_of_move {actor : Option TaskId} (move : Move view depot actor next)
    (handle : HandleId) : Flow depot next handle := by
  cases actor with
  | some task => exact flow_of_task move handle
  | none =>
      cases move with
      | outside resting tasks held pools acts =>
          obtain ⟨action, isOutside, rfl⟩ := acts
          obtain ⟨handles, begun⟩ : Idles depot (depot.act action) := idles_outside isOutside
          have idle : (depot.act action).idleHandles = depot.idleHandles := by
            rcases pools with same | ⟨pool, fresh, same⟩
            · rw [idleHandles, same, idleHandles]
            · obtain ⟨name, dialer, parameter, limits, gate, rfl⟩ := fresh.made
              rw [idleHandles, same, List.flatMap_append]
              exact List.append_nil _
          have fewer := (held.map (·.handle)).count_le handle
          constructor
          · simp only [live, toClose, idle, begun, tasks, known, handles, heldHandles]
            omega
          · exact begun ▸ List.prefix_refl _
          · simp only [Depot.closing, tasks, begun]
            exact Nat.le_refl _

/-- The places of a handle and the times that its close was begun are together at most one, and
none if it was not dialed. -/
structure Owned (depot : Depot) : Prop where
  once : ∀ handle, live depot handle + depot.begun.count handle ≤ known depot handle
  closes : ∀ handle, depot.closing.count handle ≤ depot.begun.count handle

theorem Owned.keeps {actor : Option TaskId} (move : Move view depot actor next)
    (owned : Owned depot) : Owned next := by
  constructor
  · intro handle
    have flow := flow_of_move move handle
    have before := owned.once handle
    have passes := flow.passes
    omega
  · intro handle
    have flow := flow_of_move move handle
    have before := owned.closes handle
    have closes := flow.closes
    omega

theorem owned_empty : Owned {} := by
  constructor
  · intro handle
    exact Nat.zero_le _
  · intro handle
    exact Nat.le_refl _

/-- Dialed at some time, and now neither idle nor held, nor drained and still to be closed. -/
structure Gone (depot : Depot) (handle : HandleId) : Prop where
  dialed : handle < depot.handles.length
  idle : handle ∉ depot.idleHandles
  held : handle ∉ depot.heldHandles
  toClose : handle ∉ depot.toClose

theorem gone_iff : Gone depot handle ↔ known depot handle = 1 ∧ live depot handle = 0 := by
  constructor
  · rintro ⟨dialed, idle, held, toClose⟩
    rw [live, List.count_eq_zero_of_not_mem idle, List.count_eq_zero_of_not_mem held,
      List.count_eq_zero_of_not_mem toClose]
    exact ⟨by simp [known, dialed], rfl⟩
  · rintro ⟨dialed, nowhere⟩
    simp only [live, Nat.add_eq_zero_iff, List.count_eq_zero] at nowhere
    exact ⟨by simpa [known] using dialed, nowhere.1.1, nowhere.1.2, nowhere.2⟩

theorem known_le_one (depot : Depot) (handle : HandleId) : known depot handle ≤ 1 :=
  Bool.toNat_le _

theorem Gone.keeps {actor : Option TaskId} (move : Move view depot actor next)
    (gone : Gone depot handle) : Gone next handle := by
  obtain ⟨dialed, nowhere⟩ := gone_iff.mp gone
  obtain ⟨passes, begins, -⟩ := flow_of_move move handle
  have grown := begins.sublist.count_le handle
  have limit := known_le_one next handle
  apply gone_iff.mpr
  omega

structure Exclusive (depot : Depot) : Prop where
  places : (depot.idleHandles ++ depot.heldHandles ++ depot.toClose ++ depot.closing).Nodup
  closesOnce : depot.begun.Nodup
  dialed : ∀ handle, handle ∈ depot.idleHandles ++ depot.heldHandles ++ depot.toClose →
    handle < depot.handles.length
  closed : ∀ handle, handle ∈ depot.begun → depot.Gone handle
  closing : ∀ handle, handle ∈ depot.closing → handle ∈ depot.begun

theorem exclusive_of_owned (owned : Owned depot) : Exclusive depot := by
  have once := owned.once
  have closes := owned.closes
  have few := known_le_one depot
  constructor
  · rw [List.nodup_iff_count_le_one]
    intro handle
    have one := Nat.le_trans (once handle) (few handle)
    have later := closes handle
    rw [live] at one
    rw [List.count_append, List.count_append, List.count_append]
    omega
  · rw [List.nodup_iff_count_le_one]
    intro handle
    have one := Nat.le_trans (once handle) (few handle)
    omega
  · intro handle member
    have one := once handle
    have there := List.count_pos_iff.mpr member
    rw [List.count_append, List.count_append] at there
    by_contra unknown
    simp only [live, known, unknown, decide_false, Bool.toNat_false] at one
    omega
  · intro handle member
    have one := once handle
    have begun := List.count_pos_iff.mpr member
    have limit := few handle
    apply gone_iff.mpr
    omega
  · intro handle member
    apply List.count_pos_iff.mp
    exact Nat.lt_of_lt_of_le (List.count_pos_iff.mpr member) (closes handle)

/-- Of the idle handles that a checkout takes off while it goes on looking, as it does with those
that it prunes, none is anywhere afterwards. -/
def Discards (turn : Turn) : Prop :=
  ∀ task id slot, turn.actor = some task → turn.after.phase? task = some (.scanning id slot) →
    ∀ handle ∈ (turn.before.pool id).idleList, handle ∉ (turn.after.pool id).idleList →
      turn.after.Gone handle

theorem discards_of_move {turn : Turn} (move : Move view turn.before turn.actor turn.after)
    (owned : Owned turn.before) : Discards turn := by
  intro task id slot mine scans handle member removed
  rw [mine] at move
  obtain ⟨request, phase, phase', site, pool, held, effect, pools, tasks, called, kept, gained⟩ :=
    shift_of_move move
  rw [phase?_of_getElem? (phase_of_becomes tasks), Option.some.injEq] at scans
  subst scans
  have here : site = id := by
    by_contra apart
    exact (stakes_of_effect effect apart).2.1 rfl
  subst here
  have inside : site < turn.before.pools.length := by
    by_contra outside
    rw [turn.before.pool_of_length_le (Nat.le_of_not_lt outside)] at member
    cases member
  rw [pool_set_same pools inside] at removed
  have there := List.count_pos_iff.mpr member
  have left := List.count_eq_zero_of_not_mem removed
  have changed := live_of_becomes tasks pools called kept gained handle
  have known_then := Nat.le_trans (Nat.le_add_right _ _) (owned.once handle)
  have known_now := known_of_deed (deed_of_move move tasks) handle
  have limit := known_le_one turn.after handle
  rw [left] at changed
  simp only [Phase.hands, Phase.got?, Option.toList_none, List.count_nil] at changed
  apply gone_iff.mpr
  omega

/-- What became of a handle that lost its place: it has none later on either, and no checkout
returns it. -/
def Lasts (earlier later : Turn) : Prop :=
  ∀ handle, earlier.after.Gone handle → later.after.Gone handle ∧
    ∀ task id, later.actor = some task →
      later.after.phase? task ≠ some (.finished (.checkedOut id handle))

theorem held_of_got (move : Move view depot (some task) next)
    (got : next.phase? task = some (.finished (.checkedOut id handle))) :
    handle ∈ next.heldHandles := by
  obtain ⟨request, phase, phase', site, pool, held, effect, pools, tasks, called, kept, gained⟩ :=
    shift_of_move move
  rw [phase?_of_getElem? (phase_of_becomes tasks), Option.some.injEq] at got
  subst got
  rw [heldHandles, gained]
  simp [gains, Holding.ofOutcome?]

/-- All along every run every handle has one place at most, closes of it are begun once at most, and
what was closed, or pruned, is never again idle, held, or returned by a checkout. -/
theorem ownership_exclusive (actions : List Action) :
    Exclusive (({} : Depot).run actions) ∧
      (∀ turn ∈ ({} : Depot).turns actions,
        Exclusive turn.before ∧ Exclusive turn.after ∧ Discards turn) ∧
      (({} : Depot).turns actions).Pairwise Lasts := by
  obtain ⟨id, chain⟩ := exists_chain actions
  obtain ⟨ended, all⟩ := chain.keeps Owned.keeps owned_empty
  refine ⟨exclusive_of_owned ended, fun turn member => ?_, ?_⟩
  · obtain ⟨before, after⟩ := all turn member
    exact ⟨exclusive_of_owned before, exclusive_of_owned after,
      discards_of_move (chain.move_of_mem member) before⟩
  · have gone_keeps (handle : HandleId) {depot : Depot} {actor : Option TaskId} {next : Depot}
        (move : Move id depot actor next) (gone : Gone depot handle) : Gone next handle :=
      gone.keeps move
    apply (chain.lasts gone_keeps).imp_of_mem
    intro earlier later _ member lasts handle gone
    have after := lasts handle gone
    refine ⟨after, fun task pool mine got => after.held ?_⟩
    have move := chain.move_of_mem member
    rw [mine] at move
    exact held_of_got move got

end Depot

end HandlePool
