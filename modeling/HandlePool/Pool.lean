import HandlePool.Gate
import HandlePool.Handle
import HandlePool.Idle.Shelf
import HandlePool.Limits.Basic
import HandlePool.Refusal
import HandlePool.Text.Elapsed

/-!
The books of one pool, and the short operations on them between which tasks may be suspended.
-/
namespace HandlePool

abbrev PoolId := Nat

/-- `active` counts the handles dialed and not given up, idle or out, and the dials in progress. -/
structure Pool where
  id : String
  dialer : Option DialerId
  parameter : String
  limits : Limits
  gate : Option Gate
  closed : Bool := false
  active : Nat := 0
  idle : Idle.Shelf HandleId := .empty
  waitCount : Nat := 0
  waitTime : Nat := 0
  created : Nat := 0
  destroyed : Nat := 0

instance : Inhabited Pool :=
  ⟨{ id := "", dialer := none, parameter := "", limits := {}, gate := none }⟩

namespace Pool

def open? (id : String) (dialer : Option DialerId) (parameter : String) (limits : Limits) :
    Option Pool :=
  if limits.boundedWait then
    (Gate.open? limits.maxActive.toNat).map fun gate =>
      { id, dialer, parameter, limits, gate := some gate }
  else some { id, dialer, parameter, limits, gate := none }

def forget (count : Nat) (pool : Pool) : Pool :=
  { pool with active := pool.active - count, destroyed := pool.destroyed + count }

def releaseSlot (pool : Pool) : Pool :=
  if pool.closed then pool else { pool with gate := pool.gate.map (·.release) }

def slotOverflows (pool : Pool) : Bool := !pool.closed && pool.gate.any (·.overflows)

def changeGate (change : Gate → Gate) (pool : Pool) : Pool :=
  { pool with gate := pool.gate.map change }

def recordWait (waited : Option Nat) (pool : Pool) : Pool :=
  match waited with
  | none => pool
  | some time =>
      { pool with waitCount := pool.waitCount + 1, waitTime := pool.waitTime + time }

def dropClosed (isClosed : HandleId → Bool) :
    Nat → Idle.Shelf HandleId → Idle.Shelf HandleId × Nat
  | 0, idle => (idle, 0)
  | limit + 1, idle =>
      match idle.popBack with
      | none => (idle, 0)
      | some (handle, rest) =>
          if isClosed handle then
            let (kept, count) := dropClosed isClosed limit rest
            (kept, count + 1)
          else (idle, 0)

theorem size_dropClosed (isClosed : HandleId → Bool) (limit : Nat) (idle : Idle.Shelf HandleId) :
    (dropClosed isClosed limit idle).1.size + (dropClosed isClosed limit idle).2 = idle.size := by
  induction limit generalizing idle with
  | zero => rfl
  | succ limit ih =>
      unfold dropClosed
      cases popped : idle.popBack with
      | none => rfl
      | some entry =>
          obtain ⟨handle, rest⟩ := entry
          by_cases closed : isClosed handle = true
          · have counted := ih rest
            have shorter := Idle.Shelf.popBack_size popped
            simp only [closed, if_true]
            omega
          · simp [closed]

def prune (isClosed : HandleId → Bool) (pool : Pool) : Pool × Nat :=
  let (idle, count) := dropClosed isClosed pool.idle.size pool.idle
  ({ pool with idle }.forget count, count)

theorem size_prune (isClosed : HandleId → Bool) (pool : Pool) :
    (pool.prune isClosed).1.idle.size + (pool.prune isClosed).2 = pool.idle.size :=
  size_dropClosed isClosed pool.idle.size pool.idle

def takeNewest (pool : Pool) : Option (HandleId × Pool) :=
  pool.idle.popFront.map fun (handle, idle) => (handle, { pool with idle })

theorem size_takeNewest {pool rest : Pool} {handle : HandleId}
    (taken : pool.takeNewest = some (handle, rest)) : rest.idle.size + 1 = pool.idle.size := by
  obtain ⟨⟨newest, idle⟩, popped, same⟩ := Option.map_eq_some_iff.mp taken
  cases same
  exact Idle.Shelf.popFront_size popped

/-- Why no further handle may be dialed. A pool that makes checkouts wait relies on its slots. -/
def refusal? (pool : Pool) : Option Refusal :=
  if pool.closed then some (.closed pool.id)
  else if !pool.limits.wait && pool.limits.bounded && pool.limits.maxActive.toNat ≤ pool.active then
    some (.exhausted pool.id pool.active pool.limits.maxActive.toNat)
  else none

def reserve (pool : Pool) : Pool := { pool with active := pool.active + 1 }

def unreserve (pool : Pool) : Pool := { pool with active := pool.active - 1 }

def recordDial (pool : Pool) : Pool := { pool with created := pool.created + 1 }

/-- Takes a handle back, and gives up the oldest one if there are too many then. A closed pool
gives up the handle itself. -/
def shelve (handle : HandleId) (pool : Pool) : Pool × Option HandleId :=
  if pool.closed then (pool.forget 1, some handle)
  else
    let idle := pool.idle.pushFront handle
    if pool.limits.maxIdle.toNat < idle.size then
      match idle.popBack with
      | some (oldest, idle) => ({ pool with idle }.forget 1, some oldest)
      | none => ({ pool with idle }, none)
    else ({ pool with idle }, none)

def shut (pool : Pool) : Pool × List HandleId :=
  let (drained, idle) := pool.idle.drain
  ({ pool with closed := true, idle, gate := pool.gate.map Gate.close }.forget drained.length,
    drained)

@[simp] theorem idle_shut (pool : Pool) : pool.shut.1.idle = .empty := by simp [shut, forget]

@[simp] theorem drained_shut (pool : Pool) : pool.shut.2 = pool.idle.toList := by simp [shut]

def statsText (pool : Pool) : String :=
  Text.record "PoolStats" [
    ("active", Nat.repr pool.active),
    ("idle", Nat.repr pool.idle.size),
    ("wait_count", Nat.repr pool.waitCount),
    ("wait_duration", Text.elapsed pool.waitTime),
    ("created", Nat.repr pool.created),
    ("destroyed", Nat.repr pool.destroyed)]

def recordText (pool : Pool) : String :=
  Text.record "Pool" [
    ("id", Text.quoted pool.id),
    ("limits", pool.limits.recordText),
    ("closed", Json.boolText pool.closed),
    ("stats", pool.statsText)]

end Pool

end HandlePool
