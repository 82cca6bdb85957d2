import HandlePool.Proofs.Conservation
import HandlePool.Proofs.Queue

namespace HandlePool

def Phase.isQueued (id : PoolId) : Phase → Bool
  | .queued pool _ _ => pool == id
  | _ => false

/-- Whether a checkout that is past the gate owns a slot, if the phase is one of such a checkout. -/
def Phase.slot? (id : PoolId) : Phase → Option Bool
  | .scanning pool slot | .dialing pool slot _ | .closing pool _ _ (.rescan slot) =>
      if pool = id then some slot else none
  | _ => none

def Phase.isInside (id : PoolId) (phase : Phase) : Bool := (phase.slot? id).isSome

namespace Depot

def inside (depot : Depot) (id : PoolId) : Nat := depot.census (Phase.isInside id)

def isQueued (depot : Depot) (id : PoolId) (task : TaskId) : Bool :=
  (depot.phase? task).any (Phase.isQueued id)

variable {id site : PoolId} {depot next : Depot} {task : TaskId} {request : Request}
  {phase phase' : Phase} {pool : Pool} {gate gate' : Gate}

/-- How a task passes the gate: what that makes of the gate, whether the task was and is queued,
whether it was and is inside, and whether a handle goes out or comes back. -/
inductive Passage (task : TaskId) (gate : Gate) :
    Gate → Bool → Bool → Nat → Nat → Nat → Nat → Prop where
  | kept {inside} : Passage task gate gate false false inside inside 0 0
  | enqueued (full : gate.free = 0) : Passage task gate (gate.enqueue task) false true 0 0 0 0
  | taken (left : gate.free ≠ 0) : Passage task gate gate.take false false 0 1 0 0
  | collected (handed : task ∈ gate.granted) :
      Passage task gate (gate.collect task) true false 0 1 0 0
  | left : Passage task gate (gate.leave task) true false 0 0 0 0
  | used : Passage task gate gate false false 1 0 1 0
  | released {inside back} (one : inside + back = 1) :
      Passage task gate (if gate.closed then gate else gate.release) false false inside 0 0 back
  | shut : Passage task gate gate.close false false 0 0 0 0

section

variable {queued queued' : Bool} {inside inside' out back : Nat}

theorem Passage.orderly (passage : Passage task gate gate' queued queued' inside inside' out back)
    (orderly : gate.Orderly) (known : task ∈ gate.members → queued = true) : gate'.Orderly := by
  cases passage with
  | kept | used => exact orderly
  | enqueued full =>
      apply Gate.orderly_enqueue orderly full
      intro member
      cases known member
  | taken => exact Gate.orderly_take orderly
  | collected handed => exact Gate.orderly_collect orderly handed
  | left => exact Gate.orderly_leave orderly
  | released =>
      split
      · exact orderly
      · exact Gate.orderly_release orderly
  | shut => exact Gate.orderly_close orderly

theorem Passage.slots (passage : Passage task gate gate' queued queued' inside inside' out back) :
    (gate.closed = false → gate'.slots + inside' + out = gate.slots + inside + back) ∧
      (gate.closed = true → gate'.closed = true ∧ gate'.slots ≤ gate.slots) := by
  cases passage with
  | kept => exact ⟨fun _ => rfl, fun shut => ⟨shut, Nat.le_refl _⟩⟩
  | enqueued => exact ⟨fun _ => rfl, fun shut => ⟨shut, Nat.le_refl _⟩⟩
  | taken left =>
      have fewer := Gate.slots_take left
      exact ⟨fun _ => by omega, fun shut => ⟨shut, by omega⟩⟩
  | collected handed =>
      have fewer := Gate.slots_collect handed
      exact ⟨fun _ => by omega, fun shut => ⟨shut, by omega⟩⟩
  | left =>
      rw [Gate.slots_leave, Gate.closed_leave]
      exact ⟨fun _ => rfl, fun shut => ⟨shut, Nat.le_refl _⟩⟩
  | used => exact ⟨fun _ => by omega, fun shut => ⟨shut, Nat.le_refl _⟩⟩
  | released one =>
      have more := gate.slots_release
      constructor
      · intro isOpen
        simp only [isOpen, Bool.false_eq_true, if_false]
        omega
      · intro shut
        simp [shut]
  | shut => exact ⟨fun _ => rfl, fun _ => ⟨rfl, Nat.le_refl _⟩⟩

theorem Passage.within (passage : Passage task gate gate' queued queued' inside inside' out back) :
    gate'.slots + inside' + out ≤ gate.slots + inside + back := by
  cases passage with
  | taken left =>
      have fewer := Gate.slots_take left
      omega
  | collected handed =>
      have fewer := Gate.slots_collect handed
      omega
  | left => rw [Gate.slots_leave]
  | released one =>
      have more := gate.slots_release
      split <;> omega
  | kept | enqueued | used | shut => exact Nat.le_refl _

theorem Passage.members (passage : Passage task gate gate' queued queued' inside inside' out back)
    (orderly : gate.Orderly) (known : task ∈ gate.members → queued = true)
    (listed : gate.closed = false → queued = true → task ∈ gate.members) :
    (task ∈ gate'.members → queued' = true) ∧
      (gate'.closed = false → queued' = true → task ∈ gate'.members) ∧
      (∀ other, other ≠ task → other ∈ gate'.members → other ∈ gate.members) ∧
      (gate'.closed = false →
        ∀ other, other ≠ task → other ∈ gate.members → other ∈ gate'.members) := by
  have gone {left : Gate} (perm : (task :: left.members).Perm gate.members) :
      task ∉ left.members ∧ (∀ other, other ≠ task → other ∈ left.members → other ∈ gate.members) ∧
        ∀ other, other ≠ task → other ∈ gate.members → other ∈ left.members := by
    refine ⟨(List.nodup_cons.mp (perm.nodup_iff.mpr orderly.distinct)).1, ?_, ?_⟩
    · intro other _ member
      exact perm.subset (List.mem_cons_of_mem task member)
    · intro other apart member
      exact (List.mem_cons.mp (perm.symm.subset member)).resolve_left apart
  have nobody {there : Prop} (queued : false = true) : there :=
    absurd queued Bool.false_ne_true
  cases passage with
  | kept | used => exact ⟨known, listed, fun _ _ member => member, fun _ _ _ member => member⟩
  | taken => exact ⟨known, listed, fun _ _ member => member, fun _ _ _ member => member⟩
  | enqueued =>
      have perm := gate.members_enqueue task
      refine ⟨fun _ => rfl, fun _ _ => perm.symm.subset List.mem_cons_self, ?_, ?_⟩
      · intro other apart member
        exact (List.mem_cons.mp (perm.subset member)).resolve_left apart
      · intro _ other _ member
        exact perm.symm.subset (List.mem_cons_of_mem task member)
  | collected handed =>
      obtain ⟨absent, fewer, rest⟩ := gone (Gate.members_collect handed)
      exact ⟨fun member => absurd member absent, fun _ => nobody, fewer, fun _ => rest⟩
  | left =>
      by_cases member : task ∈ gate.members
      · obtain ⟨absent, fewer, rest⟩ := gone (Gate.members_leave member)
        exact ⟨fun member => absurd member absent, fun _ => nobody, fewer, fun _ => rest⟩
      · rw [Gate.leave_of_unknown member]
        exact ⟨fun there => absurd there member, fun _ => nobody, fun _ _ member => member,
          fun _ _ _ member => member⟩
  | released =>
      have perm := gate.members_release
      split
      · exact ⟨known, listed, fun _ _ member => member, fun _ _ _ member => member⟩
      · exact ⟨fun member => known (perm.subset member), fun _ => nobody,
          fun _ _ member => perm.subset member, fun _ _ _ member => perm.symm.subset member⟩
  | shut =>
      have shut : gate.close.closed ≠ false := by simp [Gate.close]
      refine ⟨fun member => ?_, fun isOpen => absurd isOpen shut, ?_,
        fun isOpen => absurd isOpen shut⟩
      · exact known (List.mem_append_right _ member)
      · intro other _ member
        exact List.mem_append_right _ member

end

theorem isQueued_own (context : Context) (since : Option Nat) :
    (Phase.queued id context since).isQueued id = true := beq_self_eq_true id

theorem slot?_scanning (slot : Bool) : (Phase.scanning id slot).slot? id = some slot := if_pos rfl

theorem slot?_dialing (slot : Bool) (call : Call) :
    (Phase.dialing id slot call).slot? id = some slot := if_pos rfl

theorem slot?_rescanning (handle : HandleId) (due : Option Nat) (slot : Bool) :
    (Phase.closing id handle due (.rescan slot)).slot? id = some slot := if_pos rfl

theorem isInside_of_slot? {slot : Bool} (found : phase.slot? id = some slot) :
    phase.isInside id = true := by
  rw [Phase.isInside, found]
  rfl

theorem slot?_of_apart (apart : phase.stake? ≠ some id) : phase.slot? id = none := by
  cases phase with
  | scanning pool slot => simpa [Phase.slot?, Phase.stake?] using apart
  | dialing pool slot call => simpa [Phase.slot?, Phase.stake?] using apart
  | closing pool handle due errand =>
      cases errand with
      | rescan slot => simpa [Phase.slot?, Phase.stake?] using apart
      | _ => rfl
  | _ => rfl

theorem isInside_of_apart (apart : phase.stake? ≠ some id) : phase.isInside id = false := by
  rw [Phase.isInside, slot?_of_apart apart]
  rfl

theorem isQueued_of_apart (apart : phase.stake? ≠ some id) : phase.isQueued id = false := by
  cases phase with
  | queued pool context since => simpa [Phase.isQueued, Phase.stake?] using apart
  | _ => rfl

theorem gate_released (pool : Pool) (gated : pool.gate = some gate)
    (alike : gate.closed = pool.closed) :
    pool.releaseSlot.gate = some (if gate.closed then gate else gate.release) ∧
      (if gate.closed then gate else gate.release).closed = pool.releaseSlot.closed := by
  rw [Pool.releaseSlot_eq, Pool.gate_changeGate, gated, alike]
  refine ⟨rfl, ?_⟩
  rw [Pool.closed_changeGate, ← alike]
  split
  · rfl
  · exact gate.closed_release

theorem gate_handBack (pool : Pool) (gated : pool.gate = some gate)
    (alike : gate.closed = pool.closed) (reserved : Bool) :
    (pool.handBack true reserved).gate = some (if gate.closed then gate else gate.release) ∧
      (if gate.closed then gate else gate.release).closed =
        (pool.handBack true reserved).closed := by
  cases reserved with
  | false => exact gate_released pool gated alike
  | true => exact gate_released pool.unreserve gated alike

theorem passage_of_effect (effect : Effect depot task request id phase phase' pool)
    (gated : (depot.pool id).gate = some gate) (orderly : gate.Orderly)
    (alike : gate.closed = (depot.pool id).closed)
    (flags : ∀ slot, phase.slot? id = some slot → slot = true) :
    ∃ gate', pool.gate = some gate' ∧ gate'.closed = pool.closed ∧
      Passage task gate gate' (phase.isQueued id) (phase'.isQueued id) (phase.isInside id).toNat
        (phase'.isInside id).toNat (phase'.checkedOut? id).toList.length
        (bringsBack id request phase) := by
  cases effect with
  | aside apart apart' begun plain =>
      have apart := stake?_ne_of_none id apart
      have apart' := stake?_ne_of_none id apart'
      rw [bringsBack_of_plain plain, checkedOut?_eq_none apart', isQueued_of_apart apart,
        isQueued_of_apart apart', isInside_of_apart apart, isInside_of_apart apart']
      exact ⟨gate, gated, alike, .kept⟩
  | turnedAway asks =>
      rw [bringsBack_of_checkout asks]
      exact ⟨gate, gated, alike, .kept⟩
  | queue asks gated' isOpen full =>
      cases gated.symm.trans gated'
      rw [bringsBack_of_checkout asks, isQueued_own]
      exact ⟨gate.enqueue task, by rw [Pool.gate_changeGate, gated]; rfl, alike, .enqueued full⟩
  | pass grant =>
      rw [isInside_of_slot? (slot?_scanning _)]
      cases grant with
      | free asks ungated =>
          rw [gated] at ungated
          cases ungated
      | taken asks gated' isOpen left =>
          cases gated.symm.trans gated'
          rw [bringsBack_of_checkout asks]
          exact ⟨gate.take, by simp [gated], alike.trans (by simp), .taken left⟩
      | collected gated' isOpen handed =>
          cases gated.symm.trans gated'
          rw [bringsBack_of_begun (by simp), isQueued_own]
          exact ⟨gate.collect task, by simp [gated], alike.trans (by simp),
            .collected handed⟩
  | bounce asks gated' isOpen left =>
      cases gated.symm.trans gated'
      rw [bringsBack_of_checkout asks, checkedOut?_refused _ _ rfl]
      refine ⟨gate, ?_, alike, .kept⟩
      rw [Pool.gate_changeGate, gated, Option.map_some, Gate.release_take orderly left]
  | quit =>
      rw [bringsBack_of_begun (by simp), isQueued_own, checkedOut?_refused _ _ rfl]
      exact ⟨gate.leave task, by rw [Pool.gate_changeGate, gated]; rfl,
        Gate.closed_leave.trans alike, .left⟩
  | leave =>
      rw [bringsBack_of_begun (by simp), isQueued_own]
      exact ⟨gate.leave task, by rw [Pool.gate_changeGate, gated]; rfl,
        Gate.closed_leave.trans alike, .left⟩
  | reuse taken =>
      obtain ⟨-, rest⟩ := Pool.takeNewest_eq_some taken
      rw [bringsBack_of_begun (by simp), isInside_of_slot? (slot?_scanning _), checkedOut?_own,
        rest]
      exact ⟨gate, gated, alike, .used⟩
  | reject taken unusable goes =>
      obtain ⟨-, rest⟩ := Pool.takeNewest_eq_some taken
      rw [bringsBack_of_begun (by simp), isInside_of_slot? (slot?_scanning _), rest]
      rcases goes with rfl | ⟨due, rfl⟩
      · rw [isInside_of_slot? (slot?_scanning _)]
        exact ⟨gate, gated, alike, .kept⟩
      · rw [isInside_of_slot? (slot?_rescanning _ _ _)]
        exact ⟨gate, gated, alike, .kept⟩
  | deny =>
      -- With a gate there, a checkout that is past it owns a slot to give back.
      cases flags _ (slot?_scanning _)
      obtain ⟨there, alike'⟩ := gate_handBack (depot.pool id) gated alike false
      rw [bringsBack_of_begun (by simp), isInside_of_slot? (slot?_scanning _),
        checkedOut?_refused _ _ rfl]
      exact ⟨_, there, alike', .released rfl⟩
  | unconfigured =>
      cases flags _ (slot?_scanning _)
      obtain ⟨there, alike'⟩ := gate_handBack (depot.pool id).reserve gated alike true
      rw [bringsBack_of_begun (by simp), isInside_of_slot? (slot?_scanning _),
        checkedOut?_refused _ _ rfl]
      exact ⟨_, there, alike', .released rfl⟩
  | dial =>
      rw [bringsBack_of_begun (by simp), isInside_of_slot? (slot?_scanning _),
        isInside_of_slot? (slot?_dialing _ _)]
      exact ⟨gate, gated, alike, .kept⟩
  | connect =>
      rw [bringsBack_of_begun (by simp), isInside_of_slot? (slot?_dialing _ _), checkedOut?_own]
      exact ⟨gate, gated, alike, .used⟩
  | refuse | panic =>
      cases flags _ (slot?_dialing _ _)
      obtain ⟨there, alike'⟩ := gate_handBack (depot.pool id) gated alike true
      rw [bringsBack_of_begun (by simp), isInside_of_slot? (slot?_dialing _ _),
        checkedOut?_refused _ _ rfl]
      exact ⟨_, there, alike', .released rfl⟩
  | letGo =>
      cases flags _ (slot?_dialing _ _)
      obtain ⟨there, alike'⟩ := gate_handBack (depot.pool id) gated alike true
      rw [bringsBack_of_begun (by simp), isInside_of_slot? (slot?_dialing _ _)]
      exact ⟨_, there, alike', .released rfl⟩
  | rescan =>
      rw [bringsBack_of_begun (by simp), isInside_of_slot? (slot?_rescanning _ _ _),
        isInside_of_slot? (slot?_scanning _)]
      exact ⟨gate, gated, alike, .kept⟩
  | abandon held =>
      rcases held with rfl | ⟨handle, due, rfl⟩
      · cases flags _ (slot?_scanning _)
        obtain ⟨there, alike'⟩ := gate_handBack (depot.pool id) gated alike false
        rw [bringsBack_of_begun (by simp), isInside_of_slot? (slot?_scanning _)]
        exact ⟨_, there, alike', .released rfl⟩
      · cases flags _ (slot?_rescanning _ _ _)
        obtain ⟨there, alike'⟩ := gate_handBack (depot.pool id) gated alike false
        rw [bringsBack_of_begun (by simp), isInside_of_slot? (slot?_rescanning _ _ _)]
        exact ⟨_, there, alike', .released rfl⟩
  | giveBack asks goes =>
      rename_i handle
      have same := ((depot.pool id).shelve_books handle).2
      obtain ⟨there, alike'⟩ := gate_released ((depot.pool id).shelve handle).1
        (by rw [same]; exact gated) (by rw [same]; exact alike)
      rw [bringsBack_own (by rw [asks]; rfl)]
      rcases goes with ⟨-, rfl⟩ | ⟨-, rfl⟩ | ⟨oldest, due, -, rfl⟩
      · exact ⟨_, there, alike', .released rfl⟩
      · exact ⟨_, there, alike', .released rfl⟩
      · exact ⟨_, there, alike', .released rfl⟩
  | discard asks goes =>
      obtain ⟨there, alike'⟩ := gate_released ((depot.pool id).forget 1) gated alike
      rw [bringsBack_own (by rw [asks]; rfl)]
      rcases goes with ⟨-, rfl⟩ | rfl | ⟨due, rfl⟩
      · exact ⟨_, there, alike', .released rfl⟩
      · exact ⟨_, there, alike', .released rfl⟩
      · exact ⟨_, there, alike', .released rfl⟩
  | shut isOpen =>
      rw [bringsBack_of_begun (by simp), Pool.shut_books]
      exact ⟨gate.close, congrArg (Option.map Gate.close) gated, rfl, .shut⟩

structure Fixed (before after : Pool) : Prop where
  limits : after.limits = before.limits
  dialer : after.dialer = before.dialer
  gated : after.gate.isSome = before.gate.isSome

theorem fixed_of_effect (effect : Effect depot task request id phase phase' pool) :
    Fixed (depot.pool id) pool := by
  cases effect with
  | pass grant => cases grant <;> exact ⟨by simp, by simp, by simp⟩
  | reuse taken =>
      rw [(Pool.takeNewest_eq_some taken).2]
      exact ⟨rfl, rfl, rfl⟩
  | reject taken =>
      rw [(Pool.takeNewest_eq_some taken).2]
      exact ⟨rfl, rfl, rfl⟩
  | giveBack asks goes =>
      rename_i handle
      rw [Pool.releaseSlot_eq, ((depot.pool id).shelve_books handle).2]
      exact ⟨by simp, by simp, by simp⟩
  | discard =>
      rw [Pool.releaseSlot_eq]
      exact ⟨by simp, by simp, by simp⟩
  | deny | refuse | panic | letGo | abandon | unconfigured =>
      refine ⟨Pool.limits_handBack _ _ _, Pool.dialer_handBack _ _ _, ?_⟩
      rw [Pool.handBack_eq]
      simp [Pool.reserve]
  | shut =>
      rw [Pool.shut_books]
      exact ⟨rfl, rfl, by simp⟩
  | bounce | queue | quit | leave => exact ⟨by simp, by simp, by simp⟩
  | _ => exact ⟨rfl, rfl, rfl⟩

theorem slot_of_effect (effect : Effect depot task request id phase phase' pool) {slot : Bool}
    (found : phase'.slot? id = some slot) :
    phase.slot? id = some slot ∨ slot = (depot.pool id).gate.isSome := by
  cases effect with
  | aside apart apart' =>
      rw [slot?_of_apart (stake?_ne_of_none id apart')] at found
      cases found
  | pass grant =>
      right
      rw [slot?_scanning] at found
      cases found
      cases grant with
      | free asks ungated => rw [ungated]; rfl
      | taken asks gated => rw [gated]; rfl
      | collected gated => rw [gated]; rfl
  | reject taken unusable goes =>
      left
      rw [slot?_scanning]
      rcases goes with rfl | ⟨due, rfl⟩
      · rw [← found, slot?_scanning]
      · rw [← found, slot?_rescanning]
  | dial =>
      left
      rw [← found, slot?_scanning, slot?_dialing]
  | rescan =>
      left
      rw [← found, slot?_scanning, slot?_rescanning]
  | giveBack asks goes =>
      rcases goes with ⟨-, rfl⟩ | ⟨-, rfl⟩ | ⟨oldest, due, -, rfl⟩ <;> cases found
  | discard asks goes => rcases goes with ⟨-, rfl⟩ | rfl | ⟨due, rfl⟩ <;> cases found
  | _ => cases found

end Depot

end HandlePool
