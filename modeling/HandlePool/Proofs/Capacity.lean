import HandlePool.Proofs.Slots
import Mathlib.Algebra.Order.BigOperators.Group.List
import Mathlib.Algebra.Order.Group.Nat

/-!
The bound on the handles of a pool. A pool that refuses at once compares before it reserves room.
One that makes checkouts wait does not: there the slots bound the handles that are away or being
dialed, and a dial begins only when no handle is idle.
-/
namespace HandlePool

def Phase.isRescanning (id : PoolId) : Phase → Bool
  | .closing pool _ _ (.rescan _) => pool == id
  | _ => false

namespace Depot

def rescanning (depot : Depot) (id : PoolId) : Nat := depot.census (Phase.isRescanning id)

variable {id : PoolId} {depot next : Depot} {task : TaskId} {request : Request}
  {phase phase' : Phase} {pool : Pool}

theorem Entry.active_le {before after : Figures} {dial out back : Nat}
    (entry : Entry before after dial 0 out back) : after.active ≤ before.active := by
  cases entry with
  | kept | lent | connected => exact Nat.le_refl _
  | culled | undone | returned => exact Nat.sub_le _ _

structure Dials (id : PoolId) (depot : Depot) (phase : Phase) (pool : Pool) : Prop where
  inside : phase.isInside id = true
  apart : phase.isDialing id = false
  still : phase.isRescanning id = false
  empty : (depot.pool id).idleList = []
  allowed : (depot.pool id).refusal? = none
  reserves : pool.active = (depot.pool id).active + 1

theorem dials_of_effect (effect : Effect depot task request id phase phase' pool)
    (dials : phase'.isDialing id = true) : Dials id depot phase pool := by
  cases effect with
  | dial empty allowed =>
      exact ⟨isInside_of_slot? (slot?_scanning _), rfl, rfl,
        (Pool.takeNewest_eq_none _).mp empty, allowed, rfl⟩
  | aside apart apart' =>
      rw [isDialing_of_apart (stake?_ne_of_none id apart')] at dials
      cases dials
  | reject taken unusable goes => rcases goes with rfl | ⟨due, rfl⟩ <;> cases dials
  | giveBack asks goes =>
      rcases goes with ⟨-, rfl⟩ | ⟨-, rfl⟩ | ⟨oldest, due, -, rfl⟩ <;> cases dials
  | discard asks goes => rcases goes with ⟨-, rfl⟩ | rfl | ⟨due, rfl⟩ <;> cases dials
  | _ => cases dials

theorem allowed_of_refusal? (allowed : pool.refusal? = none) : pool.closed = false ∧
    (pool.limits.wait = false → pool.limits.bounded = true →
      pool.active < pool.limits.maxActive.toNat) := by
  unfold Pool.refusal? at allowed
  cases closed : pool.closed with
  | true =>
      rw [closed] at allowed
      cases allowed
  | false =>
      refine ⟨rfl, fun fails bounded => ?_⟩
      rw [closed, fails, bounded] at allowed
      by_contra full
      have full : pool.limits.maxActive.toNat ≤ pool.active := Nat.le_of_not_lt full
      simp [full] at allowed

theorem isInside_of_isDialing (dials : phase.isDialing id = true) : phase.isInside id = true := by
  cases phase with
  | dialing pool slot call =>
      rw [beq_iff_eq.mp (show (pool == id) = true from dials)]
      exact isInside_of_slot? (slot?_dialing slot call)
  | _ => cases dials

theorem isRescanning_of_isDialing (dials : phase.isDialing id = true) :
    phase.isRescanning id = false := by
  cases phase with
  | dialing => rfl
  | _ => cases dials

theorem rescanning_cases (rescans : phase.isRescanning id = true) :
    ∃ handle due slot, phase = .closing id handle due (.rescan slot) := by
  unfold Phase.isRescanning at rescans
  split at rescans
  · rw [beq_iff_eq.mp rescans]
    exact ⟨_, _, _, rfl⟩
  · cases rescans

theorem busy_le_inside (id : PoolId) (depot : Depot) :
    depot.dialing id + depot.rescanning id ≤ depot.inside id := by
  have apart (phase : Phase) : (phase.isDialing id).toNat + (phase.isRescanning id).toNat ≤
      (phase.isInside id).toNat := by
    cases dials : phase.isDialing id with
    | true =>
        rw [isInside_of_isDialing dials, isRescanning_of_isDialing dials]
        exact Nat.le_refl _
    | false =>
        cases rescans : phase.isRescanning id with
        | false => exact Nat.zero_le _
        | true =>
            obtain ⟨handle, due, slot, rfl⟩ := rescanning_cases rescans
            rw [isInside_of_slot? (slot?_rescanning handle due slot)]
            exact Nat.le_refl _
  rw [dialing, rescanning, inside, census_eq_sum, census_eq_sum, census_eq_sum,
    ← List.sum_map_add]
  exact List.sum_le_sum fun task _ => apart task.phase

def Bounded (id : PoolId) (depot : Depot) : Prop :=
  (depot.pool id).limits.bounded = true →
    (depot.pool id).active ≤ (depot.pool id).limits.maxActive.toNat

theorem room_of_slots (becomes : Becomes depot.tasks request task phase phase' next.tasks)
    (dials : Dials id depot phase pool) (dials' : phase'.isDialing id = true)
    (conserved : Conserved id depot) (kept : SlotsKept id depot)
    (waits : (depot.pool id).limits.boundedWait = true) (isOpen : (depot.pool id).closed = false) :
    (depot.pool id).active + depot.rescanning id < (depot.pool id).limits.maxActive.toNat := by
  obtain ⟨gate, -, -, spread, -⟩ := kept waits isOpen
  have dialed := countP_of_becomes becomes (Phase.isDialing id) rfl
  have insiders := countP_of_becomes becomes (Phase.isInside id) rfl
  rw [dials.apart, dials'] at dialed
  have rescans := countP_of_becomes becomes (Phase.isRescanning id) rfl
  rw [dials.inside, isInside_of_isDialing dials'] at insiders
  rw [dials.still, isRescanning_of_isDialing dials'] at rescans
  -- After the move the new dial is one of the checkouts inside, so their slots leave room for it.
  have fewer := busy_le_inside id next
  have none_idle := (depot.pool id).size_idle
  rw [dials.empty] at none_idle
  simp only [Conserved, inside, dialing, rescanning, census, none_idle, List.length_nil] at *
  simp only [Bool.toNat_true, Bool.toNat_false] at *
  omega

theorem room_of_dials (becomes : Becomes depot.tasks request task phase phase' next.tasks)
    (dials : Dials id depot phase pool) (dials' : phase'.isDialing id = true)
    (conserved : Conserved id depot) (kept : SlotsKept id depot)
    (bounded : (depot.pool id).limits.bounded = true) :
    (depot.pool id).active < (depot.pool id).limits.maxActive.toNat := by
  obtain ⟨isOpen, compared⟩ := allowed_of_refusal? dials.allowed
  cases waits : (depot.pool id).limits.wait with
  | false => exact compared waits bounded
  | true =>
      have waits : (depot.pool id).limits.boundedWait = true := by
        rw [Limits.boundedWait, waits, bounded]
        rfl
      exact Nat.lt_of_le_of_lt (Nat.le_add_right _ _)
        (room_of_slots becomes dials dials' conserved kept waits isOpen)

theorem bounded_of_move {actor : Option TaskId} (move : Move id depot actor next)
    (conserved : Conserved id depot) (kept : SlotsKept id depot) (within : Bounded id depot) :
    Bounded id next := by
  intro bounded
  cases touch_of_move move with
  | missing outside outside' =>
      rw [next.pool_of_length_le outside']
      exact Nat.zero_le _
  | fresh outside fresh resting tasks =>
      have unused : (next.pool id).active = 0 := congrArg Figures.active (figures_fresh fresh)
      rw [unused]
      exact Nat.zero_le _
  | still same tasks =>
      rw [same] at bounded ⊢
      exact within bounded
  | other who same =>
      rw [same] at bounded ⊢
      exact within bounded
  | own who inside becomes effect =>
      rename_i task request phase phase'
      rw [(fixed_of_effect effect).limits] at bounded ⊢
      cases dials : phase'.isDialing id with
      | true =>
          have begins := dials_of_effect effect dials
          have room := room_of_dials becomes begins dials conserved kept bounded
          rw [begins.reserves]
          exact room
      | false =>
          have entry := entry_of_effect effect
          rw [dials] at entry
          exact Nat.le_trans entry.active_le (within bounded)

theorem bounded_turns {actions : List Action}
    (own : ({} : Depot).returnsOwn id actions = true) :
    (Admitting id (({} : Depot).run actions) ∧ Balanced id (({} : Depot).run actions) ∧
        Bounded id (({} : Depot).run actions)) ∧
      ∀ turn ∈ ({} : Depot).turns actions,
        (Admitting id turn.before ∧ Balanced id turn.before ∧ Bounded id turn.before) ∧
          Admitting id turn.after ∧ Balanced id turn.after ∧ Bounded id turn.after := by
  refine turns_keep (fun depot => Admitting id depot ∧ Balanced id depot ∧ Bounded id depot)
    ⟨admitting_empty id, balanced_empty id, fun _ => Nat.zero_le _⟩ ?_ own
  rintro depot actor next move ⟨admitting, balanced, within⟩
  have kept := slotsKept_of_admission admitting.custody admitting.admission
  have conserved := conserved_of_balanced admitting.custody balanced
  exact ⟨admitting_of_move move admitting, (balanced_of_move move admitting.custody balanced).1,
    bounded_of_move move conserved kept within⟩

/-- The idle handles, those that are away and the dials in progress are together no more than the
pool's limit, if it has one. -/
def WithinLimit (id : PoolId) (depot : Depot) : Prop :=
  (depot.pool id).limits.bounded = true →
    (depot.pool id).active ≤ (depot.pool id).limits.maxActive.toNat ∧
      (depot.pool id).idle.size + (depot.away id).length + depot.dialing id ≤
        (depot.pool id).limits.maxActive.toNat

theorem withinLimit_of_bounded (custody : Custody id depot) (balanced : Balanced id depot)
    (within : Bounded id depot) : WithinLimit id depot := by
  intro bounded
  have conserved := conserved_of_balanced custody balanced
  refine ⟨within bounded, ?_⟩
  rw [← conserved]
  exact within bounded

/-- In every run in which what goes back to a pool was checked out of it, the pool stays within its
limit, be it one that makes checkouts wait or one that refuses at once. -/
theorem within_capacity {actions : List Action}
    (own : ({} : Depot).returnsOwn id actions = true) :
    WithinLimit id (({} : Depot).run actions) ∧
      ∀ turn ∈ ({} : Depot).turns actions,
        WithinLimit id turn.before ∧ WithinLimit id turn.after := by
  obtain ⟨⟨admitting, balanced, within⟩, all⟩ := bounded_turns own
  refine ⟨withinLimit_of_bounded admitting.custody balanced within, ?_⟩
  intro turn member
  obtain ⟨⟨before, balanced, within⟩, after, balanced', within'⟩ := all turn member
  exact ⟨withinLimit_of_bounded before.custody balanced within,
    withinLimit_of_bounded after.custody balanced' within'⟩

theorem within_capacity_crowded :
    ({} : Depot).returnsOwn 0 crowded = true ∧ WithinLimit 0 (({} : Depot).run crowded) ∧
      ((({} : Depot).run crowded).pool 0).active = 1 :=
  ⟨by decide, (within_capacity (by decide)).1, by decide⟩

end Depot

end HandlePool
