import HandlePool.Pool
import Mathlib.Data.List.DropRight

namespace HandlePool.Pool

def idleList (pool : Pool) : List HandleId := pool.idle.toList

theorem size_idle (pool : Pool) : pool.idle.size = pool.idleList.length := pool.idle.size_eq

def handBack (slot reserved : Bool) (pool : Pool) : Pool :=
  let pool := if reserved then pool.unreserve else pool
  if slot then pool.releaseSlot else pool

variable (pool : Pool)

section Gates

variable (change : Gate → Gate)

@[simp] theorem active_changeGate : (pool.changeGate change).active = pool.active := rfl

@[simp] theorem idleList_changeGate : (pool.changeGate change).idleList = pool.idleList := rfl

@[simp] theorem created_changeGate : (pool.changeGate change).created = pool.created := rfl

@[simp] theorem destroyed_changeGate : (pool.changeGate change).destroyed = pool.destroyed := rfl

@[simp] theorem closed_changeGate : (pool.changeGate change).closed = pool.closed := rfl

@[simp] theorem limits_changeGate : (pool.changeGate change).limits = pool.limits := rfl

@[simp] theorem dialer_changeGate : (pool.changeGate change).dialer = pool.dialer := rfl

@[simp] theorem waitCount_changeGate : (pool.changeGate change).waitCount = pool.waitCount := rfl

@[simp] theorem waitTime_changeGate : (pool.changeGate change).waitTime = pool.waitTime := rfl

@[simp] theorem gate_changeGate : (pool.changeGate change).gate = pool.gate.map change := rfl

theorem changeGate_same : pool.changeGate (fun gate => gate) = pool := by
  rw [changeGate, Option.map_id_fun']
  rfl

end Gates

theorem releaseSlot_eq :
    pool.releaseSlot = pool.changeGate fun gate => if pool.closed then gate else gate.release := by
  cases closed : pool.closed with
  | true =>
      have same : (fun gate : Gate => if true = true then gate else gate.release) =
          fun gate => gate := by
        funext gate
        rfl
      rw [releaseSlot, if_pos closed, same, changeGate_same]
  | false => simp [releaseSlot, closed, changeGate]

section HandingBack

variable (slot reserved : Bool)

theorem handBack_eq : pool.handBack slot reserved =
    ({ pool with active := pool.active - reserved.toNat } : Pool).changeGate fun gate =>
      if slot && !pool.closed then gate.release else gate := by
  cases slot with
  | false => cases reserved <;> exact (changeGate_same _).symm
  | true =>
      have same : (fun gate : Gate => if pool.closed then gate else gate.release) =
          fun gate => if true && !pool.closed then gate.release else gate := by
        funext gate
        cases pool.closed <;> rfl
      cases reserved with
      | false => exact (releaseSlot_eq pool).trans (by rw [same]; rfl)
      | true => exact (releaseSlot_eq pool.unreserve).trans (by rw [← same]; rfl)

@[simp] theorem active_handBack :
    (pool.handBack slot reserved).active = pool.active - reserved.toNat := by rw [handBack_eq]; rfl

@[simp] theorem idleList_handBack : (pool.handBack slot reserved).idleList = pool.idleList := by
  rw [handBack_eq]; rfl

@[simp] theorem created_handBack : (pool.handBack slot reserved).created = pool.created := by
  rw [handBack_eq]; rfl

@[simp] theorem destroyed_handBack : (pool.handBack slot reserved).destroyed = pool.destroyed := by
  rw [handBack_eq]; rfl

@[simp] theorem closed_handBack : (pool.handBack slot reserved).closed = pool.closed := by
  rw [handBack_eq]; rfl

@[simp] theorem limits_handBack : (pool.handBack slot reserved).limits = pool.limits := by
  rw [handBack_eq]; rfl

@[simp] theorem dialer_handBack : (pool.handBack slot reserved).dialer = pool.dialer := by
  rw [handBack_eq]; rfl

@[simp] theorem waitCount_handBack : (pool.handBack slot reserved).waitCount = pool.waitCount := by
  rw [handBack_eq]; rfl

@[simp] theorem waitTime_handBack : (pool.handBack slot reserved).waitTime = pool.waitTime := by
  rw [handBack_eq]; rfl

end HandingBack

section Forgetting

variable (count : Nat)

@[simp] theorem active_forget : (pool.forget count).active = pool.active - count := rfl

@[simp] theorem idleList_forget : (pool.forget count).idleList = pool.idleList := rfl

@[simp] theorem created_forget : (pool.forget count).created = pool.created := rfl

@[simp] theorem destroyed_forget : (pool.forget count).destroyed = pool.destroyed + count := rfl

@[simp] theorem closed_forget : (pool.forget count).closed = pool.closed := rfl

@[simp] theorem limits_forget : (pool.forget count).limits = pool.limits := rfl

@[simp] theorem dialer_forget : (pool.forget count).dialer = pool.dialer := rfl

@[simp] theorem gate_forget : (pool.forget count).gate = pool.gate := rfl

@[simp] theorem waitCount_forget : (pool.forget count).waitCount = pool.waitCount := rfl

@[simp] theorem waitTime_forget : (pool.forget count).waitTime = pool.waitTime := rfl

end Forgetting

theorem dropClosed_eq (isClosed : HandleId → Bool) (limit : Nat) (idle : Idle.Shelf HandleId)
    (enough : idle.toList.length ≤ limit) :
    (dropClosed isClosed limit idle).1.toList = idle.toList.rdropWhile isClosed ∧
      (dropClosed isClosed limit idle).2 = (idle.toList.rtakeWhile isClosed).length := by
  -- The limit bounds the pops. It is as large as the shelf, so it never cuts the pruning short.
  induction limit generalizing idle with
  | zero =>
      have none_left : idle.toList = [] := List.length_eq_zero_iff.mp (Nat.le_zero.mp enough)
      simp [dropClosed, none_left]
  | succ limit ih =>
      unfold dropClosed
      rcases List.eq_nil_or_concat' idle.toList with none_left | ⟨newer, oldest, split⟩
      · simp [Idle.Shelf.popBack_of_nil none_left, none_left]
      · obtain ⟨rest, popped, kept⟩ := Idle.Shelf.popBack_of_append split
        rw [split] at enough
        simp only [popped, split]
        by_cases closed : isClosed oldest = true
        · have pruned := ih rest (by rw [kept]; simp at enough; omega)
          rw [kept] at pruned
          rw [List.rdropWhile_concat_pos _ _ _ closed, List.rtakeWhile_concat_pos _ _ _ closed]
          simp only [closed, if_true, List.length_append, List.length_singleton]
          exact ⟨pruned.1, by rw [pruned.2]⟩
        · rw [List.rdropWhile_concat_neg _ _ _ closed, List.rtakeWhile_concat_neg _ _ _ closed]
          simp [closed, split]

section Pruning

variable (isClosed : HandleId → Bool)

def stale : List HandleId := pool.idleList.rtakeWhile isClosed

theorem idleList_prune : (pool.prune isClosed).1.idleList = pool.idleList.rdropWhile isClosed :=
  (dropClosed_eq isClosed _ pool.idle (Nat.le_of_eq pool.idle.size_eq.symm)).1

theorem count_prune : (pool.prune isClosed).2 = (pool.stale isClosed).length :=
  (dropClosed_eq isClosed _ pool.idle (Nat.le_of_eq pool.idle.size_eq.symm)).2

theorem idleList_split :
    pool.idleList = (pool.prune isClosed).1.idleList ++ pool.stale isClosed := by
  rw [idleList_prune]
  exact List.rdropWhile_append_rtakeWhile.symm

theorem sublist_prune : (pool.prune isClosed).1.idleList.Sublist pool.idleList := by
  rw [idleList_prune]
  exact (List.rdropWhile_prefix _ _).sublist

theorem closed_of_mem_stale {handle : HandleId} (member : handle ∈ pool.stale isClosed) :
    isClosed handle = true :=
  List.mem_rtakeWhile_imp member

theorem active_prune :
    (pool.prune isClosed).1.active = pool.active - (pool.stale isClosed).length := by
  rw [← count_prune]
  rfl

theorem destroyed_prune :
    (pool.prune isClosed).1.destroyed = pool.destroyed + (pool.stale isClosed).length := by
  rw [← count_prune]
  rfl

@[simp] theorem created_prune : (pool.prune isClosed).1.created = pool.created := rfl

@[simp] theorem closed_prune : (pool.prune isClosed).1.closed = pool.closed := rfl

@[simp] theorem limits_prune : (pool.prune isClosed).1.limits = pool.limits := rfl

@[simp] theorem dialer_prune : (pool.prune isClosed).1.dialer = pool.dialer := rfl

@[simp] theorem gate_prune : (pool.prune isClosed).1.gate = pool.gate := rfl

@[simp] theorem waitCount_prune : (pool.prune isClosed).1.waitCount = pool.waitCount := rfl

@[simp] theorem waitTime_prune : (pool.prune isClosed).1.waitTime = pool.waitTime := rfl

end Pruning

section Waiting

variable (waited : Option Nat)

theorem recordWait_eq : pool.recordWait waited = { pool with
    waitCount := pool.waitCount + waited.toList.length
    waitTime := pool.waitTime + waited.getD 0 } := by
  cases waited <;> rfl

@[simp] theorem gate_recordWait : (pool.recordWait waited).gate = pool.gate := by
  rw [recordWait_eq]

@[simp] theorem closed_recordWait : (pool.recordWait waited).closed = pool.closed := by
  rw [recordWait_eq]

@[simp] theorem limits_recordWait : (pool.recordWait waited).limits = pool.limits := by
  rw [recordWait_eq]

@[simp] theorem dialer_recordWait : (pool.recordWait waited).dialer = pool.dialer := by
  rw [recordWait_eq]

end Waiting

section Closed

variable {pool : Pool} (closed : pool.closed = true)

include closed

theorem releaseSlot_of_closed : pool.releaseSlot = pool := if_pos closed

theorem slotOverflows_of_closed : pool.slotOverflows = false := by
  rw [slotOverflows, closed]
  rfl

theorem handBack_of_closed (slot reserved : Bool) :
    pool.handBack slot reserved = { pool with active := pool.active - reserved.toNat } := by
  rw [handBack_eq, closed, Bool.not_true, Bool.and_false]
  exact changeGate_same _

end Closed

theorem takeNewest_eq_none : pool.takeNewest = none ↔ pool.idleList = [] := by
  simp only [takeNewest, Option.map_eq_none_iff, idleList]
  constructor
  · intro popped
    cases entries : pool.idle.toList with
    | nil => rfl
    | cons newest older =>
        obtain ⟨rest, same, -⟩ := Idle.Shelf.popFront_of_cons entries
        simp [same] at popped
  · exact Idle.Shelf.popFront_of_nil

theorem takeNewest_eq_some {pool rest : Pool} {handle : HandleId}
    (taken : pool.takeNewest = some (handle, rest)) :
    pool.idleList = handle :: rest.idleList ∧ rest = { pool with idle := rest.idle } := by
  obtain ⟨⟨newest, idle⟩, popped, same⟩ := Option.map_eq_some_iff.mp taken
  cases same
  cases entries : pool.idle.toList with
  | nil => simp [Idle.Shelf.popFront_of_nil entries] at popped
  | cons front older =>
      obtain ⟨shorter, same, kept⟩ := Idle.Shelf.popFront_of_cons entries
      rw [same] at popped
      cases popped
      exact ⟨by simp [idleList, entries, kept], rfl⟩

section Shelving

variable (handle : HandleId)

def evicted : Option HandleId := (pool.shelve handle).2

theorem shelve_of_closed (closed : pool.closed = true) :
    pool.shelve handle = (pool.forget 1, some handle) := by
  simp [shelve, closed]

theorem shelve_of_open (isOpen : pool.closed = false) :
    (pool.limits.maxIdle.toNat < pool.idleList.length + 1 ∧
      ∃ idle, pool.shelve handle =
          ({ pool with idle }.forget 1, (handle :: pool.idleList).getLast?) ∧
        idle.toList = (handle :: pool.idleList).dropLast) ∨
    (pool.idleList.length + 1 ≤ pool.limits.maxIdle.toNat ∧
      ∃ idle, pool.shelve handle = ({ pool with idle }, none) ∧
        idle.toList = handle :: pool.idleList) := by
  have size : (pool.idle.pushFront handle).size = pool.idleList.length + 1 := by
    simp [Idle.Shelf.size_eq, idleList]
  by_cases many : pool.limits.maxIdle.toNat < pool.idleList.length + 1
  · refine Or.inl ⟨many, ?_⟩
    have back := (List.dropLast_append_getLast (List.cons_ne_nil handle pool.idleList)).symm
    obtain ⟨rest, popped, kept⟩ := Idle.Shelf.popBack_of_append
      ((pool.idle.toList_pushFront handle).trans back)
    refine ⟨rest, ?_, kept⟩
    simp [shelve, isOpen, size, many, popped, List.getLast?_eq_getLast_of_ne_nil]
  · refine Or.inr ⟨Nat.le_of_not_lt many, pool.idle.pushFront handle, ?_, by simp [idleList]⟩
    simp [shelve, isOpen, size, many]

theorem shelve_books :
    (pool.shelve handle).1.idleList.length + (pool.evicted handle).toList.length =
        pool.idleList.length + 1 ∧
      (pool.shelve handle).1 = { pool.forget (pool.evicted handle).toList.length with
        idle := (pool.shelve handle).1.idle } := by
  cases closed : pool.closed with
  | true =>
      rw [evicted, shelve_of_closed _ _ closed]
      exact ⟨rfl, rfl⟩
  | false =>
      rcases pool.shelve_of_open handle closed with ⟨-, idle, same, kept⟩ | ⟨-, idle, same, kept⟩
      · simp [evicted, same, idleList, kept, List.getLast?_cons, forget]
      · simp [evicted, same, idleList, kept, forget]

theorem perm_shelve :
    ((pool.shelve handle).1.idleList ++ (pool.evicted handle).toList).Perm
      (handle :: pool.idleList) := by
  cases closed : pool.closed with
  | true =>
      rw [evicted, shelve_of_closed _ _ closed]
      exact List.perm_append_comm
  | false =>
      rcases pool.shelve_of_open handle closed with ⟨-, idle, same, kept⟩ | ⟨-, idle, same, kept⟩
      · have back := List.dropLast_append_getLast (List.cons_ne_nil handle pool.idleList)
        rw [evicted, same, List.getLast?_eq_getLast_of_ne_nil (List.cons_ne_nil _ _)]
        have kept : ({ pool with idle } : Pool).idleList = (handle :: pool.idleList).dropLast :=
          kept
        rw [idleList_forget, kept]
        exact List.Perm.of_eq back
      · rw [evicted, same]
        exact List.Perm.of_eq (by simp [idleList, kept])

end Shelving

theorem shut_books : pool.shut.1 = { pool.forget pool.idleList.length with
    closed := true, idle := .empty, gate := pool.gate.map Gate.close } := by
  simp [shut, forget, idleList]

end HandlePool.Pool
