import HandlePool.Proofs.Shutdown
import HandlePool.Proofs.Trace

/-!
How many handles of a pool exist, those included that are being closed. A pool gives the room of a
handle that was returned to it away before it closes what it does not keep, and one that refuses at
once does so too before it closes what a checkout cannot use. All other handles stay within its
limit.
-/
namespace HandlePool

/-- Whether a pool gives the room of a handle away that it closes in the course of the errand. A
checkout keeps the slot that it waited for. -/
def Errand.vacates (wait : Bool) : Errand → Bool
  | .rescan _ => !wait
  | .conclude => true
  | .drain _ _ => false

def Phase.errand? (id : PoolId) : Phase → Option Errand
  | .closing pool _ _ errand => if pool = id then some errand else none
  | _ => none

namespace Depot

def closingFor (depot : Depot) (id : PoolId) : Nat :=
  depot.census fun phase => (phase.errand? id).isSome

def vacating (depot : Depot) (id : PoolId) : Nat :=
  depot.census fun phase => (phase.errand? id).any (Errand.vacates (depot.pool id).limits.wait)

def drained (depot : Depot) (id : PoolId) : Nat :=
  (depot.tasks.map (·.phase.drained id)).sum

def sheltered (depot : Depot) (id : PoolId) : Nat :=
  if (depot.pool id).limits.wait then depot.rescanning id else 0

variable {id view : PoolId} {depot next : Depot} {task : TaskId} {actor : Option TaskId}
  {request : Request} {phase phase' : Phase} {pool : Pool}

theorem closing_of_phase (id : PoolId) (wait : Bool) (phase : Phase) :
    (phase.errand? id).isSome.toNat ≤ ((phase.errand? id).any (Errand.vacates wait)).toNat +
      phase.drained id + (wait && phase.isRescanning id).toNat := by
  cases phase with
  | closing pool handle due errand =>
      by_cases here : pool = id
      · subst here
        cases errand with
        | rescan => cases wait <;> simp [Phase.errand?, Errand.vacates, Phase.isRescanning]
        | conclude =>
            simp only [Phase.errand?, if_true, Option.isSome_some, Option.any_some, Errand.vacates,
              Bool.toNat_true]
            omega
        | drain rest later =>
            simp only [Phase.errand?, if_true, Option.isSome_some, Phase.drained, Bool.toNat_true]
            omega
      · simp [Phase.errand?, here]
  | _ => exact Nat.zero_le _

theorem closing_le (id : PoolId) (depot : Depot) :
    depot.closingFor id ≤ depot.vacating id + depot.drained id + depot.sheltered id := by
  have sheltered : depot.sheltered id = (depot.tasks.map fun task =>
      ((depot.pool id).limits.wait && task.phase.isRescanning id).toNat).sum := by
    unfold Depot.sheltered
    cases (depot.pool id).limits.wait with
    | true => exact depot.census_eq_sum _
    | false => simp
  rw [closingFor, vacating, Depot.drained, sheltered, census_eq_sum, census_eq_sum,
    ← List.sum_map_add, ← List.sum_map_add]
  exact List.sum_le_sum fun task _ => closing_of_phase id _ task.phase

theorem drained_of_shut (pool : Pool) (later : List PoolId) :
    (Phase.draining id pool.shut.2 later).drained id = pool.idle.size := by
  rw [Phase.drained, if_pos rfl, Pool.drained_shut, Pool.size_idle]
  rfl

theorem drained_of_leg (id : PoolId) (leg : Leg depot request next phase phase') :
    phase'.drained id ≤ phase.drained id ∨
      (depot.pool id).closed = false ∧ phase.drained id = 0 ∧
        (∃ later, phase' = .draining id (depot.pool id).shut.2 later) ∧
        next.pools = depot.pools.set id (depot.pool id).shut.1 := by
  cases leg with
  | apart before after =>
      left
      rw [(nothing_of_apart id after).2.2]
      exact Nat.zero_le _
  | shuts isOpen pools =>
      rename_i site later
      by_cases here : site = id
      · subst here
        exact Or.inr ⟨isOpen, rfl, ⟨later, rfl⟩, pools⟩
      · left
        rw [Phase.drained, if_neg here]
        exact Nat.zero_le _
  | ends =>
      left
      simp only [Phase.drained]
      split
      · exact Nat.le_succ _
      · exact Nat.le_refl _
  | setsOut | passes | drained | arrives | dropped => exact Or.inl (Nat.zero_le _)
  | begins => exact Or.inl (Nat.le_refl _)

theorem drained_of_becomes (id : PoolId)
    (becomes : Becomes depot.tasks request task phase phase' next.tasks) :
    next.drained id + phase.drained id = depot.drained id + phase'.drained id :=
  sum_of_becomes becomes (Phase.drained id) rfl

theorem drained_of_tasks (tasks : next.tasks = depot.tasks) :
    next.drained id = depot.drained id := by
  rw [drained, drained, tasks]

theorem rescanning_of_tasks (tasks : next.tasks = depot.tasks) :
    next.rescanning id = depot.rescanning id := by
  rw [rescanning, rescanning, census, census, tasks]

theorem open_before (move : Move view depot actor next) (isOpen : (next.pool id).closed = false) :
    (depot.pool id).closed = false := by
  cases closed : (depot.pool id).closed with
  | false => rfl
  | true =>
      rw [closed_lasts move closed] at isOpen
      cases isOpen

def Undrained (id : PoolId) (depot : Depot) : Prop :=
  (depot.pool id).closed = false → depot.drained id = 0

theorem undrained_of_move (move : Move view depot actor next) (kept : Undrained id depot) :
    Undrained id next := by
  intro isOpen
  have before := kept (open_before move isOpen)
  cases actor with
  | none =>
      cases move with
      | outside resting tasks =>
          rw [drained_of_tasks tasks]
          exact before
  | some task =>
      obtain ⟨request, phase, phase', site, pool, held, effect, pools, tasks, -⟩ :=
        shift_of_move move
      have sum := drained_of_becomes id tasks
      rcases drained_of_leg id (leg_of_move move tasks) with
        fewer | ⟨-, nothing, ⟨later, rfl⟩, shut⟩
      · omega
      · by_cases inside : id < depot.pools.length
        · rw [pool_set_same shut inside] at isOpen
          cases isOpen
        · have missing := depot.pool_of_length_le (Nat.le_of_not_lt inside)
          have empty : (default : Pool).idle.size = 0 := rfl
          rw [missing, drained_of_shut] at sum
          omega

theorem isRescanning_of_apart (apart : phase.stake? ≠ some id) :
    phase.isRescanning id = false := by
  cases rescans : phase.isRescanning id with
  | false => rfl
  | true =>
      obtain ⟨handle, due, slot, rfl⟩ := rescanning_cases rescans
      exact absurd rfl apart

theorem room_of_effect (effect : Effect depot task request id phase phase' pool)
    (there : (depot.pool id).idleList.length ≤ (depot.pool id).active)
    (dials : phase'.isDialing id = false) :
    pool.active + (phase'.isRescanning id).toNat ≤
      (depot.pool id).active + (phase.isRescanning id).toNat := by
  cases rescans : phase'.isRescanning id with
  | false =>
      have entry := entry_of_effect effect
      rw [dials] at entry
      exact Nat.le_trans entry.active_le (Nat.le_add_right _ _)
  | true =>
      obtain ⟨handle, due, slot, rfl⟩ := rescanning_cases rescans
      cases effect with
      | aside apart apart' => cases apart'
      | reject taken =>
          obtain ⟨entries, same⟩ := Pool.takeNewest_eq_some taken
          rw [entries, List.length_cons] at there
          rw [Pool.active_forget, same]
          simp only [Bool.toNat_true]
          omega
      | giveBack asks goes =>
          rcases goes with ⟨-, goes⟩ | ⟨-, goes⟩ | ⟨oldest, due, -, goes⟩ <;> cases goes
      | discard asks goes => rcases goes with ⟨-, goes⟩ | goes | ⟨due, goes⟩ <;> cases goes

def Packed (id : PoolId) (depot : Depot) : Prop :=
  (depot.pool id).limits.bounded = true →
    (depot.pool id).active + depot.drained id + depot.sheltered id ≤
      (depot.pool id).limits.maxActive.toNat

theorem sheltered_of_becomes {count count' : Nat}
    (becomes : Becomes depot.tasks request task phase phase' next.tasks)
    (limits : (next.pool id).limits = (depot.pool id).limits) (less : count' ≤ count)
    (room : count' + (phase'.isRescanning id).toNat ≤ count + (phase.isRescanning id).toNat) :
    count' + next.sheltered id ≤ count + depot.sheltered id := by
  have rescans := countP_of_becomes becomes (Phase.isRescanning id) rfl
  simp only [sheltered, limits, rescanning, census]
  split <;> omega

theorem packed_of_dial (becomes : Becomes depot.tasks request task phase phase' next.tasks)
    (dials : Dials id depot phase (next.pool id)) (dials' : phase'.isDialing id = true)
    (conserved : Conserved id depot) (kept : SlotsKept id depot) (shuts : Undrained id depot)
    (limits : (next.pool id).limits = (depot.pool id).limits)
    (bounded : (depot.pool id).limits.bounded = true) :
    (next.pool id).active + next.drained id + next.sheltered id ≤
      (depot.pool id).limits.maxActive.toNat := by
  obtain ⟨isOpen, compared⟩ := allowed_of_refusal? dials.allowed
  have drains := drained_of_becomes id becomes
  have nothing := shuts isOpen
  have apart : phase'.drained id = 0 := by
    cases phase' with
    | dialing => rfl
    | _ => cases dials'
  have rescans := countP_of_becomes becomes (Phase.isRescanning id) rfl
  rw [dials.still, isRescanning_of_isDialing dials'] at rescans
  rw [dials.reserves, sheltered, limits]
  cases waits : (depot.pool id).limits.wait with
  | false =>
      have room := compared waits bounded
      simp only [Bool.false_eq_true, if_false]
      omega
  | true =>
      have bounds : (depot.pool id).limits.boundedWait = true := by
        rw [Limits.boundedWait, waits, bounded]
        rfl
      have room := room_of_slots becomes dials dials' conserved kept bounds isOpen
      simp only [if_true, rescanning, census] at room ⊢
      simp only [Bool.toNat_false] at rescans
      omega

theorem packed_of_move (move : Move id depot actor next) (custody : Custody id depot)
    (conserved : Conserved id depot) (kept : SlotsKept id depot) (shuts : Undrained id depot)
    (packed : Packed id depot) : Packed id next := by
  intro bounded
  cases touch_of_move move with
  | missing outside outside' =>
      rw [next.pool_of_length_le outside'] at bounded
      cases bounded
  | fresh outside fresh resting tasks =>
      have unused : (next.pool id).active = 0 := congrArg Figures.active (figures_fresh fresh)
      have nothing := shuts (by rw [depot.pool_of_length_le outside]; rfl)
      have nobody : depot.rescanning id = 0 :=
        census_missing custody outside (fun _ => isRescanning_of_apart) rfl
      rw [unused, drained_of_tasks tasks, nothing, sheltered, rescanning_of_tasks tasks, nobody]
      simp
  | still same tasks =>
      rw [same] at bounded
      rw [same, drained_of_tasks tasks, sheltered, same, rescanning_of_tasks tasks]
      exact packed bounded
  | other who same becomes apart apart' plain =>
      rename_i task request phase phase'
      subst who
      rw [same] at bounded
      have within := packed bounded
      have there : id < depot.pools.length := by
        apply Nat.lt_of_not_le
        intro outside
        rw [depot.pool_of_length_le outside] at bounded
        cases bounded
      have drains := drained_of_becomes id becomes
      have shelters := sheltered_of_becomes becomes (congrArg Pool.limits same)
        (Nat.le_refl (depot.pool id).active)
        (by rw [isRescanning_of_apart apart, isRescanning_of_apart apart'])
      rw [same]
      rcases drained_of_leg id (leg_of_move move becomes) with fewer | ⟨isOpen, -, -, shut⟩
      · omega
      · rw [← same, pool_set_same shut there] at isOpen
        cases isOpen
  | own who inside becomes effect =>
      rename_i task request phase phase'
      subst who
      have limits := (fixed_of_effect effect).limits
      rw [limits] at bounded ⊢
      have within := packed bounded
      have drains := drained_of_becomes id becomes
      cases dials : phase'.isDialing id with
      | true =>
          exact packed_of_dial becomes (dials_of_effect effect dials) dials conserved kept shuts
            limits bounded
      | false =>
          have there : (depot.pool id).idle.size ≤ (depot.pool id).active := by
            rw [conserved]
            omega
          -- A shutdown drains as many as the books give up, and any other move drains no more.
          rcases drained_of_leg id (leg_of_move move becomes) with
            fewer | ⟨-, nothing, ⟨later, rfl⟩, shut⟩
          · have entry := entry_of_effect effect
            rw [dials] at entry
            have shelters := sheltered_of_becomes becomes limits entry.active_le
              (room_of_effect effect (Pool.size_idle _ ▸ there) dials)
            dsimp only [figures] at shelters
            omega
          · have gone : (next.pool id).active + (depot.pool id).idle.size =
                (depot.pool id).active := by
              rw [Pool.size_idle] at there ⊢
              rw [pool_set_same shut inside, Pool.shut_books]
              exact Nat.sub_add_cancel there
            have shelters := sheltered_of_becomes becomes limits (Nat.le_of_eq gone)
              (Nat.le_trans (Nat.le_of_eq gone) (Nat.le_add_right _ _))
            rw [drained_of_shut] at drains
            omega

/-- The handles of a pool that are idle, away, being dialed or being closed are within its limit,
but for those that it closes when it has given their room away. -/
def Crowded (id : PoolId) (depot : Depot) : Prop :=
  (depot.pool id).limits.bounded = true →
    (depot.pool id).idle.size + (depot.away id).length + depot.dialing id + depot.closingFor id ≤
      (depot.pool id).limits.maxActive.toNat + depot.vacating id

structure Crowding (id : PoolId) (depot : Depot) : Prop where
  admitting : Admitting id depot
  balanced : Balanced id depot
  shuts : Undrained id depot
  packed : Packed id depot

theorem crowding_empty (id : PoolId) : Crowding id {} :=
  ⟨admitting_empty id, balanced_empty id, fun _ => rfl, fun bounded => by cases bounded⟩

theorem Crowding.keeps (move : Move id depot actor next) (kept : Crowding id depot) :
    Crowding id next := by
  obtain ⟨admitting, balanced, shuts, packed⟩ := kept
  exact ⟨admitting_of_move move admitting,
    (balanced_of_move move admitting.custody balanced).1, undrained_of_move move shuts,
    packed_of_move move admitting.custody (conserved_of_balanced admitting.custody balanced)
      (slotsKept_of_admission admitting.custody admitting.admission) shuts packed⟩

theorem Crowding.crowded (kept : Crowding id depot) : Crowded id depot := by
  intro bounded
  have packed := kept.packed bounded
  have closes := closing_le id depot
  have conserved := conserved_of_balanced kept.admitting.custody kept.balanced
  unfold Conserved at conserved
  omega

/-- In every run in which what goes back to a pool was checked out of it, no more handles of the
pool exist than its limit allows and it closes of those whose room it has given away: what was
returned to it, and, if it refuses at once, what checkouts cannot use. -/
theorem crowded_by_closes {actions : List Action}
    (own : ({} : Depot).returnsOwn id actions = true) :
    Crowded id (({} : Depot).run actions) ∧
      ∀ turn ∈ ({} : Depot).turns actions, Crowded id turn.before ∧ Crowded id turn.after := by
  obtain ⟨last, all⟩ := turns_keep (Crowding id) (crowding_empty id) Crowding.keeps own
  refine ⟨last.crowded, fun turn member => ?_⟩
  obtain ⟨before, after⟩ := all turn member
  exact ⟨before.crowded, after.crowded⟩

def slowEviction : List Action :=
  [.makeDialer "dialer" (.counted {}),
   .makePool "pool" (some 0) "" { maxIdle := 0, maxActive := 1, wait := true },
   .checkout 0 {}, .mark 0 { closeDelay := some 1000 }, .giveBack 0 0, .checkout 0 {}]

theorem crowded_by_closes_slowEviction :
    ({} : Depot).returnsOwn 0 slowEviction = true ∧ Crowded 0 (({} : Depot).run slowEviction) ∧
      (({} : Depot).run slowEviction).vacating 0 = 1 :=
  ⟨by decide, (crowded_by_closes (by decide)).1, by decide⟩

def WithinBound (id : PoolId) (depot : Depot) : Prop :=
  (depot.pool id).limits.bounded = true →
    (depot.pool id).idle.size + (depot.away id).length + depot.dialing id + depot.closingFor id ≤
      (depot.pool id).limits.maxActive.toNat

theorem slowEviction_crowds : ({} : Depot).returnsOwn 0 slowEviction = true ∧
    ¬ WithinBound 0 (({} : Depot).run slowEviction) := by
  refine ⟨by decide, fun within => ?_⟩
  have within := within (by decide)
  revert within
  decide

end Depot

end HandlePool
