import HandlePool.Proofs.Unfailing

namespace HandlePool

theorem Pool.dropClosed_congr {first second : HandleId → Bool} (limit : Nat)
    (idle : Idle.Shelf HandleId) (agree : ∀ handle ∈ idle.toList, first handle = second handle) :
    dropClosed first limit idle = dropClosed second limit idle := by
  induction limit generalizing idle with
  | zero => rfl
  | succ limit ih =>
      unfold dropClosed
      rcases List.eq_nil_or_concat' idle.toList with none_left | ⟨newer, oldest, split⟩
      · rw [Idle.Shelf.popBack_of_nil none_left]
      · obtain ⟨rest, popped, kept⟩ := Idle.Shelf.popBack_of_append split
        have last := agree oldest (by simp [split])
        have others := ih rest fun handle member => agree handle (by simp [split, ← kept, member])
        simp only [popped, last, others]

theorem Pool.prune_congr {first second : HandleId → Bool} (pool : Pool)
    (agree : ∀ handle ∈ pool.idleList, first handle = second handle) :
    pool.prune first = pool.prune second := by
  rw [prune, dropClosed_congr _ _ agree, prune]

namespace Depot

variable {one two : Depot} {task : TaskId} {id : PoolId}

def Agree (one two : Depot) (id : PoolId) : Prop :=
  ∀ handle ∈ (one.pool id).idleList, one.isClosed handle = two.isClosed handle

theorem agree_changeGate (agree : Agree one two id) (change : Gate → Gate) :
    Agree (one.changePool id (Pool.changeGate change))
      (two.changePool id (Pool.changeGate change)) id := by
  intro handle member
  apply agree
  rw [changePool, pool_setPool] at member
  split at member <;> exact member

section Steps

variable (alike : Alike one two)

include alike

theorem alike_handBack (id : PoolId) (slot reserved : Bool) :
    Alike (one.handBack id slot reserved) (two.handBack id slot reserved) := by
  have unreserved := alike_changePool alike id Pool.unreserve
  cases slot <;> cases reserved
  · exact alike
  · exact unreserved
  · exact alike_changePool alike id Pool.releaseSlot
  · exact alike_changePool unreserved id Pool.releaseSlot

theorem alike_fail (task : TaskId) (id : PoolId) (slot reserved : Bool) (outcome : Outcome) :
    Alike (one.fail task id slot reserved outcome) (two.fail task id slot reserved outcome) := by
  unfold fail
  rw [alike.pool id]
  exact alike_finish (alike_handBack alike id slot reserved) task _

theorem alike_beginClose (task : TaskId) (id : PoolId) (handle : HandleId) (errand : Errand) :
    Alike (one.beginClose task id handle errand) (two.beginClose task id handle errand) := by
  unfold beginClose
  rw [alike.timer, (alike.handle handle).closeDelay]
  exact alike_enter (alike_record alike rfl) task fun _ _ => .same (by simp)

theorem alike_admitted {slot : Bool} {waited : Option Nat} (agree : Agree one two id) :
    Alike (one.admitted task id slot waited) (two.admitted task id slot waited) := by
  have idle : ((one.pool id).recordWait waited).idleList = (one.pool id).idleList := by
    cases waited <;> rfl
  have pruned := Pool.prune_congr ((one.pool id).recordWait waited) fun handle member =>
    agree handle (idle ▸ member)
  rw [alike.pool id] at pruned
  have entered (pool : Pool) : Alike ((one.setPool id pool).enter task (.scanning id slot))
      ((two.setPool id pool).enter task (.scanning id slot)) :=
    alike_enter (alike_setPool alike id pool) task fun _ _ => .same (by simp)
  unfold admitted
  rw [alike.pool id, pruned]
  dsimp only
  split
  · exact entered _
  · exact alike_note (entered _) rfl

theorem alike_passGate {context : Context} {waited : Option Nat} (agree : Agree one two id) :
    Alike (one.passGate task id context waited) (two.passGate task id context waited) := by
  unfold passGate
  rw [alike.signals, alike.now, alike.pool id]
  cases context.check two.signals two.now with
  | none => exact alike_admitted alike agree
  | some abort => exact alike_finish (alike_changePool alike id _) task _

theorem alike_checkout {context : Context} (agree : Agree one two id) :
    Alike (one.checkout task id context) (two.checkout task id context) := by
  unfold checkout
  rw [alike.pool id, alike.signals, alike.now]
  cases (two.pool id).gate with
  | none => exact alike_admitted alike agree
  | some gate =>
      dsimp only
      cases context.interrupt two.signals two.now with
      | some abort => exact alike_finish alike task _
      | none =>
          have changed (change : Gate → Gate) := alike_changePool alike id (Pool.changeGate change)
          dsimp only
          split
          · exact alike_finish alike task _
          · split
            · exact alike_enter (changed _) task fun _ _ => .same (by simp)
            · exact alike_passGate (changed _) (agree_changeGate agree _)

theorem alike_quit (task : TaskId) (id : PoolId) (refusal : Refusal) :
    Alike (one.quit task id refusal) (two.quit task id refusal) := by
  unfold quit
  rw [alike.pool id]
  exact alike_finish (alike_changePool alike id _) task _

theorem alike_look {context : Context} {since : Option Nat} (agree : Agree one two id) :
    Option.Rel Alike (one.look task id context since) (two.look task id context since) := by
  unfold look
  rw [alike.pool id, alike.signals, alike.now]
  cases context.interrupt two.signals two.now with
  | some abort => exact .some (alike_quit alike task id _)
  | none =>
      cases (two.pool id).gate with
      | none => exact .none
      | some gate =>
          dsimp only
          split
          · exact .some (alike_quit alike task id _)
          · split
            · exact .some (alike_passGate (alike_changePool alike id _) (agree_changeGate agree _))
            · exact .none

theorem alike_reserve (task : TaskId) (id : PoolId) (slot : Bool) :
    Alike (one.reserve task id slot) (two.reserve task id slot) := by
  unfold reserve
  rw [alike.pool id]
  dsimp only
  cases (two.pool id).refusal? with
  | some refusal =>
      cases refusal with
      | exhausted => exact alike_fail (alike_note alike rfl) task id slot false _
      | _ => exact alike_fail alike task id slot false _
  | none =>
      have reserved := alike_setPool alike id (two.pool id).reserve
      cases (two.pool id).dialer with
      | none => exact alike_fail (alike_note reserved rfl) task id slot true _
      | some dialer =>
          obtain ⟨call, begun⟩ := alike_beginDial reserved dialer (two.pool id).parameter
          exact alike_enter begun task fun _ _ => .dialing call

theorem alike_scan {slot : Bool} (agree : Agree one two id) :
    Alike (one.scan task id slot) (two.scan task id slot) := by
  unfold scan
  rw [alike.pool id]
  cases taken : (two.pool id).takeNewest with
  | none => exact alike_reserve alike task id slot
  | some entry =>
      obtain ⟨handle, rest⟩ := entry
      have member : handle ∈ (one.pool id).idleList := by
        rw [alike.pool id, (Pool.takeNewest_eq_some taken).1]
        exact List.mem_cons_self
      have closed := agree handle member
      have usable := (alike.handle handle).usable closed
      have still : (one.setPool id (rest.forget 1)).isClosed handle =
          (two.setPool id (rest.forget 1)).isClosed handle := closed
      dsimp only
      rw [usable, still]
      split
      · exact alike_finish (alike_note (alike_setPool alike id rest) rfl) task _
      · split
        · exact alike_enter (alike_setPool alike id _) task fun _ _ => .same (by simp)
        · exact alike_beginClose (alike_setPool alike id _) task id handle _

theorem alike_endCheckoutDial {slot : Bool} {first second : Call}
    (same : first.unfailing = second.unfailing) :
    Alike (one.endCheckoutDial task id slot first) (two.endCheckoutDial task id slot second) := by
  obtain ⟨answers, ended⟩ := alike_endDial alike same
  unfold endCheckoutDial
  generalize one.endDial first = first at answers ended
  generalize two.endDial second = second at answers ended
  obtain ⟨answer, one⟩ := first
  obtain ⟨answer', two⟩ := second
  cases (answers : answer = answer')
  cases answer with
  | connected handle =>
      have started := alike_startMonitor (alike_changePool ended id Pool.recordDial) handle
      dsimp only at started ⊢
      rw [started.pool id]
      exact alike_finish (alike_note started rfl) task _
  | refused reason =>
      dsimp only at ended ⊢
      rw [ended.pool id]
      exact alike_fail (alike_note ended rfl) task id slot true _
  | panicked message => exact alike_fail ended task id slot true _

theorem alike_giveBack (task : TaskId) (id : PoolId) (handle : HandleId) :
    Alike (one.giveBack task id handle) (two.giveBack task id handle) := by
  unfold giveBack
  rw [alike.pool id]
  have shelved := alike_setPool alike id ((two.pool id).shelve handle).1.releaseSlot
  dsimp only
  split
  · exact alike_finish shelved task _
  · cases ((two.pool id).shelve handle).2 with
    | none => exact alike_finish shelved task _
    | some oldest => exact alike_beginClose (alike_note shelved rfl) task id oldest _

theorem alike_discard {handle : HandleId} (closed : one.isClosed handle = two.isClosed handle) :
    Alike (one.discard task id handle) (two.discard task id handle) := by
  unfold discard
  rw [alike.pool id]
  have forgotten := alike_setPool alike id ((two.pool id).forget 1).releaseSlot
  have still : (one.setPool id ((two.pool id).forget 1).releaseSlot).isClosed handle =
      (two.setPool id ((two.pool id).forget 1).releaseSlot).isClosed handle := closed
  dsimp only
  split
  · exact alike_finish forgotten task _
  · rw [still]
    split
    · exact alike_finish forgotten task _
    · exact alike_beginClose forgotten task id handle _

theorem alike_closeAlone {handle : HandleId}
    (asked : one.request? task = some (.closeHandle handle)) :
    Alike (one.closeAlone task handle) (two.closeAlone task handle) := by
  unfold closeAlone
  rw [alike.timer, (alike.handle handle).closeDelay]
  refine alike_enter (alike_record alike rfl) task fun request there => ?_
  cases Option.some.inj (there.symm.trans asked)
  exact .same fun _ _ same => by cases same; rfl

theorem alike_endCall {first second : Call} (same : first.unfailing = second.unfailing) :
    Alike (one.endCall task first) (two.endCall task second) := by
  obtain ⟨answers, ended⟩ := alike_endDial alike same
  unfold endCall
  generalize one.endDial first = first at answers ended
  generalize two.endDial second = second at answers ended
  obtain ⟨answer, one⟩ := first
  obtain ⟨answer', two⟩ := second
  cases (answers : answer = answer')
  cases answer <;> exact alike_finish ended task _

theorem alike_shutNext (task : TaskId) (pools : List PoolId) :
    Alike (one.shutNext task pools) (two.shutNext task pools) := by
  cases pools with
  | nil => exact alike_finish alike task _
  | cons id later =>
      rw [shutNext, alike.pool id, shutNext]
      split
      · exact alike_enter alike task fun _ _ => .same (by simp)
      · exact alike_enter (alike_note (alike_setPool alike id _) rfl) task fun _ _ =>
          .same (by simp)

theorem alike_drainNext (task : TaskId) (id : PoolId) (later : List PoolId)
    (handles : List HandleId) :
    Alike (one.drainNext task id later handles) (two.drainNext task id later handles) := by
  cases handles with
  | nil => exact alike_enter alike task fun _ _ => .same (by simp)
  | cons handle rest => exact alike_beginClose alike task id handle _

theorem alike_resume (task : TaskId) (id : PoolId) (errand : Errand) :
    Alike (one.resume task id errand) (two.resume task id errand) := by
  cases errand with
  | conclude => exact alike_finish alike task _
  | _ => exact alike_enter alike task fun _ _ => .same (by simp)

theorem alike_answer {request : Request} (asked : one.request? task = some request)
    (idle : ∀ id, Agree one two id)
    (brought : ∀ handle, request.handle? = some handle →
      one.isClosed handle = two.isClosed handle) :
    Alike (one.answer task request) (two.answer task request) := by
  cases request with
  | checkout id context => exact alike_checkout alike (idle id)
  | giveBack id handle => exact alike_giveBack alike task id handle
  | discard id handle => exact alike_discard alike (brought handle rfl)
  | closeHandle handle => exact alike_closeAlone alike asked
  | dial dialer parameter =>
      obtain ⟨call, begun⟩ := alike_beginDial alike dialer parameter
      exact alike_enter begun task fun _ _ => .calling call
  | shut id => exact alike_enter alike task fun _ _ => .same (by simp)
  | shutAll directory order =>
      simp only [answer, shutAll, alike.directory]
      exact alike_enter (alike_setDirectory alike directory {}) task fun _ _ => .same (by simp)

theorem alike_stepFrom {request : Request} {first second : Phase}
    (phases : Phase.Alike one.handles two.handles request first second) (begun : first ≠ .asked)
    (asked : one.request? task = some request)
    (idle : ∀ id, Agree one two id)
    (inside : ∀ handle, first.closing? = some handle → handle < one.handles.length) :
    Option.Rel Alike (one.stepFrom task request first) (two.stepFrom task request second) := by
  have whenElapsed {due : Option Nat} {next next' : Depot} (goes : Alike next next') :
      Option.Rel Alike (if one.elapsed due then some next else none)
        (if two.elapsed due then some next' else none) := by
    rw [alike.elapsed due]
    split
    · exact .some goes
    · exact .none
  have due {first second : Call} (same : first.unfailing = second.unfailing) :
      first.due = second.due := by
    have dues := congrArg Call.due same
    exact dues
  cases phases with
  -- After the first step of a task only a checkout looks at whether handles are closed.
  | same alone =>
      cases first with
      | asked => exact absurd rfl begun
      | queued id context since => exact alike_look alike (idle id)
      | scanning id slot => exact .some (alike_scan alike (idle id))
      | dialing id slot call => exact whenElapsed (alike_endCheckoutDial alike rfl)
      | closing id handle due errand =>
          exact whenElapsed
            (alike_resume (alike_endPoolClose alike id (inside handle rfl)) task id errand)
      | draining id handles later => exact .some (alike_drainNext alike task id later handles)
      | shutting pools => exact .some (alike_shutNext alike task pools)
      | calling call => exact whenElapsed (alike_endCall alike rfl)
      | closingAlone handle due =>
          cases alone handle due rfl
          exact whenElapsed (alike_endCloseAlone alike (inside handle rfl) asked)
      | finished outcome => exact .none
      | dropped => exact .none
  | dialing same =>
      simp only [stepFrom, due same]
      exact whenElapsed (alike_endCheckoutDial alike same)
  | calling same =>
      simp only [stepFrom, due same]
      exact whenElapsed (alike_endCall alike same)
  | closed => exact .none

theorem alike_load {request : Request} {first second : Phase}
    (phases : Phase.Alike one.handles two.handles request first second) :
    one.load request first = two.load request second := by
  have shut (pools : List PoolId) : one.shutLoad pools = two.shutLoad pools :=
    shutLoad_of_pools alike.pools pools
  cases phases with
  | same => simp only [load, requestLoad, scanLoad, shut, alike.pool, alike.directory]
  | _ => rfl

theorem alike_undo {request : Request} {first second : Phase}
    (phases : Phase.Alike one.handles two.handles request first second) :
    Alike (one.undo task first) (two.undo task second) := by
  cases phases with
  | same =>
      unfold undo
      split
      · exact alike_changePool alike _ _
      · exact alike_handBack alike _ _ _
      · exact alike_handBack alike _ _ _
      · exact alike_handBack alike _ _ _
      · exact alike
  | dialing => exact alike_handBack alike _ _ _
  | calling | closed => exact alike

end Steps

end Depot

end HandlePool
