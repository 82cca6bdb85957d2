import HandlePool.Depot.Lookup
import HandlePool.Depot.Step

namespace HandlePool.Depot

def idleSize (depot : Depot) (id : PoolId) : Nat := (depot.pool id).idle.size

theorem idleSize_of_pools {depot next : Depot} (same : next.pools = depot.pools) (id : PoolId) :
    next.idleSize id = depot.idleSize id := by
  simp [idleSize, pool, same]

theorem idleSize_setPool_le {depot : Depot} {id : PoolId} {pool : Pool}
    (smaller : pool.idle.size ≤ depot.idleSize id) (other : PoolId) :
    (depot.setPool id pool).idleSize other ≤ depot.idleSize other := by
  rw [idleSize, pool_setPool]
  split
  · rename_i same
    exact same.1 ▸ smaller
  · exact Nat.le_refl _

theorem idleSize_setPool_lt {depot : Depot} {id : PoolId} {pool : Pool}
    (smaller : pool.idle.size < depot.idleSize id) :
    (depot.setPool id pool).idleSize id < depot.idleSize id := by
  have inside : id < depot.pools.length := by
    apply Nat.lt_of_not_le
    intro outside
    rw [idleSize, depot.pool_of_length_le outside] at smaller
    exact absurd smaller (Nat.not_lt_zero _)
  rw [idleSize, pool_setPool, if_pos ⟨rfl, inside⟩]
  exact smaller

theorem shutLoad_mono {depot next : Depot}
    (smaller : ∀ id, next.idleSize id ≤ depot.idleSize id) (pools : List PoolId) :
    next.shutLoad pools ≤ depot.shutLoad pools := by
  induction pools with
  | nil => exact Nat.le_refl _
  | cons id later ih =>
      have here := smaller id
      simp only [idleSize] at here
      simp only [shutLoad]
      omega

def Descends (depot next : Depot) (task : TaskId) (request : Request) (bound : Nat) : Prop :=
  ∃ phase, next.tasks = depot.tasks.modify task ({ · with phase }) ∧
    next.load request phase < bound

variable {depot : Depot} {task : TaskId} {request : Request}

theorem descends_finish {next : Depot} (same : next.tasks = depot.tasks) (outcome : Outcome)
    {bound : Nat} (positive : 0 < bound) :
    Descends depot (next.finish task outcome) task request bound :=
  ⟨.finished outcome, by simp [same], positive⟩

theorem tasks_handBack (depot : Depot) (id : PoolId) (slot reserved : Bool) :
    (depot.handBack id slot reserved).tasks = depot.tasks := by
  unfold handBack
  cases slot <;> cases reserved <;> rfl

theorem descends_fail {next : Depot} (same : next.tasks = depot.tasks) (id : PoolId)
    (slot reserved : Bool) (outcome : Outcome) {bound : Nat} (positive : 0 < bound) :
    Descends depot (next.fail task id slot reserved outcome) task request bound :=
  descends_finish ((tasks_handBack next id slot reserved).trans same) _ positive

theorem descends_beginClose {next : Depot} (same : next.tasks = depot.tasks) (id : PoolId)
    (handle : HandleId) (errand : Errand) {bound : Nat}
    (lighter : ∀ due, (next.beginClose task id handle errand).load request
      (.closing id handle due errand) < bound) :
    Descends depot (next.beginClose task id handle errand) task request bound :=
  ⟨.closing id handle (next.timer (next.handle handle).closeDelay) errand,
    by simp [beginClose, same], lighter _⟩

theorem idle_recordWait (waited : Option Nat) (pool : Pool) :
    (pool.recordWait waited).idle = pool.idle := by
  cases waited <;> rfl

theorem pools_admitted (depot : Depot) (id : PoolId) (slot : Bool) (waited : Option Nat) :
    (depot.admitted task id slot waited).pools =
      (depot.setPool id (((depot.pool id).recordWait waited).prune depot.isClosed).1).pools := by
  unfold admitted
  split
  split <;> simp_all

theorem descends_admitted {next : Depot} (same : next.tasks = depot.tasks) (id : PoolId)
    (slot : Bool) (waited : Option Nat) {bound : Nat}
    (room : 2 * next.idleSize id + 3 < bound) :
    Descends depot (next.admitted task id slot waited) task request bound := by
  have counted := Pool.size_prune next.isClosed ((next.pool id).recordWait waited)
  rw [idle_recordWait] at counted
  have smaller : ∀ other, (next.setPool id (((next.pool id).recordWait waited).prune
      next.isClosed).1).idleSize other ≤ next.idleSize other :=
    idleSize_setPool_le (by simp only [idleSize]; omega)
  refine ⟨.scanning id slot, ?_, ?_⟩
  · unfold admitted
    split
    split <;> simp [same]
  · have sizes : (next.admitted task id slot waited).idleSize id = _ :=
      idleSize_of_pools (pools_admitted next id slot waited) id
    have fewer := smaller id
    simp only [idleSize] at sizes fewer room
    simp only [load, scanLoad]
    omega

theorem idle_changeGate (change : Gate → Gate) (pool : Pool) :
    (pool.changeGate change).idle = pool.idle := rfl

theorem idleSize_changeGate (depot : Depot) (id : PoolId) (change : Gate → Gate) (other : PoolId) :
    (depot.changePool id (Pool.changeGate change)).idleSize other = depot.idleSize other := by
  simp only [idleSize, changePool, pool_setPool]
  split
  · rename_i same
    rw [idle_changeGate, same.1]
  · rfl

theorem descends_passGate {next : Depot} (same : next.tasks = depot.tasks) (id : PoolId)
    (context : Context) (waited : Option Nat) {bound : Nat}
    (room : 2 * next.idleSize id + 3 < bound) :
    Descends depot (next.passGate task id context waited) task request bound := by
  unfold passGate
  split
  · exact descends_admitted same id true waited room
  · exact descends_finish (by simp [same]) _ (by omega)

theorem descends_checkout (depot : Depot) (id : PoolId) (context : Context) :
    Descends depot (depot.checkout task id context) task request (depot.scanLoad id + 2) := by
  unfold checkout
  cases depot.pool id |>.gate with
  | none => exact descends_admitted rfl id false none (by simp [idleSize, scanLoad])
  | some gate =>
      dsimp only
      split
      · exact descends_finish rfl _ (by omega)
      · split
        · exact descends_finish rfl _ (by omega)
        · split
          · refine ⟨.queued id context (some depot.now), by simp [*], ?_⟩
            have sizes := idleSize_changeGate depot id (·.enqueue task) id
            simp only [idleSize] at sizes
            simp only [load, scanLoad, pool_enter]
            omega
          · refine descends_passGate (by simp) id context _ ?_
            rw [idleSize_changeGate]
            simp only [idleSize, scanLoad]
            omega

theorem descends_quit (depot : Depot) (id : PoolId) (refusal : Refusal) {bound : Nat}
    (positive : 0 < bound) :
    Descends depot (depot.quit task id refusal) task request bound :=
  descends_finish (by simp) _ positive

theorem descends_look {next : Depot} {id : PoolId} {context : Context} {since : Option Nat}
    (looked : depot.look task id context since = some next) :
    Descends depot next task request (depot.scanLoad id + 1) := by
  unfold look at looked
  split at looked
  · cases looked
    exact descends_quit depot id _ (by omega)
  · cases looked
  · split at looked
    · cases looked
      exact descends_quit depot id _ (by omega)
    · split at looked
      · cases looked
        refine descends_passGate (by simp) id context _ ?_
        rw [idleSize_changeGate]
        simp only [idleSize, scanLoad]
        omega
      · cases looked

theorem descends_reserve (depot : Depot) (id : PoolId) (slot : Bool) {bound : Nat}
    (room : 1 < bound) :
    Descends depot (depot.reserve task id slot) task request bound := by
  unfold reserve
  dsimp only
  split
  · refine descends_fail ?_ id slot false _ (by omega)
    split <;> rfl
  · split
    · exact descends_fail rfl id slot true _ (by omega)
    · exact ⟨.dialing id slot _, rfl, room⟩

theorem descends_scan (depot : Depot) (id : PoolId) (slot : Bool) :
    Descends depot (depot.scan task id slot) task request (depot.scanLoad id) := by
  unfold scan
  cases taken : (depot.pool id).takeNewest with
  | none => exact descends_reserve depot id slot (by simp only [scanLoad]; omega)
  | some entry =>
      obtain ⟨handle, pool⟩ := entry
      have shorter := Pool.size_takeNewest taken
      have sizes : (depot.setPool id (pool.forget 1)).idleSize id < depot.idleSize id :=
        idleSize_setPool_lt (by simp only [idleSize]; change pool.idle.size < _; omega)
      simp only [idleSize] at sizes
      dsimp only
      split
      · exact descends_finish (by simp) _ (by simp only [scanLoad]; omega)
      · split
        · refine ⟨.scanning id slot, by simp, ?_⟩
          simp only [load, scanLoad, pool_enter]
          omega
        · refine descends_beginClose (by simp) id handle _ fun due => ?_
          simp only [beginClose, load, scanLoad, pool_enter, pool_record]
          omega

theorem tasks_endDial (depot : Depot) (call : Call) :
    (depot.endDial call).2.tasks = depot.tasks := by
  unfold endDial
  split
  rename_i ending dialer _
  cases ending <;> rfl

theorem descends_endCheckoutDial (depot : Depot) (id : PoolId) (slot : Bool) (call : Call) :
    Descends depot (depot.endCheckoutDial task id slot call) task request 1 := by
  have kept := tasks_endDial depot call
  have started (other : Depot) (handle : HandleId) :
      (other.startMonitor handle).tasks = other.tasks := by
    unfold startMonitor
    split <;> rfl
  unfold endCheckoutDial
  split
  all_goals
    rename_i ended
    rw [ended] at kept
    dsimp only at kept
    first
      | exact descends_finish (by simp [started, kept]) _ Nat.one_pos
      | exact descends_fail (by simp [kept]) id slot true _ Nat.one_pos

theorem descends_closing {next : Depot} (same : next.tasks = depot.tasks) (id : PoolId)
    (handle : HandleId) :
    Descends depot (next.beginClose task id handle .conclude) task request 2 :=
  descends_beginClose same id handle _ fun _ => Nat.one_lt_two

theorem descends_giveBack (depot : Depot) (id : PoolId) (handle : HandleId) :
    Descends depot (depot.giveBack task id handle) task request 2 := by
  unfold giveBack
  dsimp only
  split
  · exact descends_finish rfl _ Nat.two_pos
  · split
    · exact descends_finish rfl _ Nat.two_pos
    · exact descends_closing rfl id _

theorem descends_discard (depot : Depot) (id : PoolId) (handle : HandleId) :
    Descends depot (depot.discard task id handle) task request 2 := by
  unfold discard
  dsimp only
  split
  · exact descends_finish rfl _ Nat.two_pos
  · split
    · exact descends_finish rfl _ Nat.two_pos
    · exact descends_closing rfl id handle

theorem descends_endCall (depot : Depot) (call : Call) :
    Descends depot (depot.endCall task call) task request 1 := by
  have kept := tasks_endDial depot call
  unfold endCall
  split
  all_goals
    rename_i ended
    rw [ended] at kept
    exact descends_finish kept _ Nat.one_pos

theorem shutLoad_of_pools {next : Depot} (same : next.pools = depot.pools)
    (pools : List PoolId) : next.shutLoad pools = depot.shutLoad pools := by
  induction pools with
  | nil => rfl
  | cons id later ih => simp only [shutLoad, pool, same, ih]

theorem descends_shutNext (depot : Depot) (pools : List PoolId) :
    Descends depot (depot.shutNext task pools) task request (depot.shutLoad pools) := by
  cases pools with
  | nil => exact descends_finish rfl _ Nat.one_pos
  | cons id later =>
      rw [shutNext]
      split
      · refine ⟨.shutting later, rfl, ?_⟩
        have same : (depot.enter task (.shutting later)).shutLoad later = depot.shutLoad later :=
          shutLoad_of_pools (by rfl) later
        simp only [load, shutLoad]
        omega
      · refine ⟨.draining id (depot.pool id).shut.2 later, rfl, ?_⟩
        have emptied : (depot.pool id).shut.1.idle.size ≤ depot.idleSize id := by
          simp [Idle.Shelf.size_eq]
        have fewer := shutLoad_mono (idleSize_setPool_le emptied) later
        have drained : (depot.pool id).shut.2.length = (depot.pool id).idle.size := by
          simp [Idle.Shelf.size_eq]
        have same (note : Note) (phase : Phase) (depot : Depot) :
            ((depot.note note).enter task phase).shutLoad later = depot.shutLoad later :=
          shutLoad_of_pools (by rfl) later
        simp only [load, shutLoad, drained, same]
        omega

theorem descends_drainNext (depot : Depot) (id : PoolId) (later : List PoolId)
    (handles : List HandleId) :
    Descends depot (depot.drainNext task id later handles) task request
      (depot.load request (.draining id handles later)) := by
  cases handles with
  | nil =>
      refine ⟨.shutting later, rfl, ?_⟩
      have same : (depot.enter task (.shutting later)).shutLoad later = depot.shutLoad later :=
        shutLoad_of_pools (by rfl) later
      simp only [drainNext, load]
      omega
  | cons handle rest =>
      refine descends_beginClose rfl id handle _ fun due => ?_
      have same : (depot.beginClose task id handle (.drain rest later)).shutLoad later =
        depot.shutLoad later := shutLoad_of_pools (by rfl) later
      simp only [load, List.length_cons]
      omega

theorem descends_answer (depot : Depot) :
    Descends depot (depot.answer task request) task request (depot.requestLoad request) := by
  cases request with
  | checkout id context => exact descends_checkout depot id context
  | giveBack id handle => exact descends_giveBack depot id handle
  | discard id handle => exact descends_discard depot id handle
  | closeHandle => exact ⟨_, rfl, Nat.one_lt_two⟩
  | dial dialer parameter =>
      exact ⟨.calling (depot.beginDial dialer parameter).1, rfl, Nat.one_lt_two⟩
  | shut id =>
      refine ⟨.shutting [id], rfl, ?_⟩
      simp only [load, requestLoad, answer]
      exact Nat.lt_succ_of_le (Nat.le_of_eq (shutLoad_of_pools (by rfl) [id]))
  | shutAll directory order =>
      refine ⟨.shutting ((depot.directory directory).poolsBy order), rfl, ?_⟩
      simp only [load, requestLoad, answer]
      exact Nat.lt_succ_of_le (Nat.le_of_eq (shutLoad_of_pools (by rfl) _))

theorem descends_resume (depot : Depot) (id : PoolId) (handle : HandleId) (due : Option Nat)
    (errand : Errand) :
    Descends depot ((depot.endPoolClose id handle).resume task id errand) task request
      (depot.load request (.closing id handle due errand)) := by
  have kept : (depot.endPoolClose id handle).tasks = depot.tasks := by
    unfold endPoolClose
    dsimp only
    split <;> rfl
  have pools : (depot.endPoolClose id handle).pools = depot.pools := by
    unfold endPoolClose
    dsimp only
    split <;> rfl
  cases errand with
  | rescan slot =>
      refine ⟨.scanning id slot, by simp [resume, kept], ?_⟩
      simp [load, scanLoad, resume, pool, pools]
  | conclude => exact descends_finish kept _ Nat.one_pos
  | drain rest later =>
      refine ⟨.draining id rest later, by simp [resume, kept], ?_⟩
      have same : ((depot.endPoolClose id handle).enter task
        (.draining id rest later)).shutLoad later = depot.shutLoad later :=
          shutLoad_of_pools (by simp [pools]) later
      simp only [load, resume]
      omega

theorem descends_stepFrom {next : Depot} {phase : Phase}
    (step : depot.stepFrom task request phase = some next) :
    Descends depot next task request (depot.load request phase) := by
  unfold stepFrom at step
  split at step
  · cases step
    exact descends_answer depot
  · exact descends_look step
  · cases step
    exact descends_scan depot _ _
  · split at step <;> cases step
    exact descends_endCheckoutDial depot _ _ _
  · split at step <;> cases step
    exact descends_resume depot _ _ _ _
  · cases step
    exact descends_drainNext depot _ _ _
  · cases step
    exact descends_shutNext depot _
  · split at step <;> cases step
    exact descends_endCall depot _
  · split at step <;> cases step
    exact descends_finish rfl _ Nat.one_pos
  · cases step
  · cases step

theorem step?_advance (turns : Nat) (depot : Depot) (task : TaskId)
    (enough : ∀ found, depot.tasks[task]? = some found →
      depot.load found.request found.phase ≤ turns) :
    (advance turns depot task).step? task = none := by
  induction turns generalizing depot with
  | zero =>
      unfold advance
      cases stepped : depot.step? task with
      | none => rfl
      | some next =>
          obtain ⟨found, here, step⟩ := Option.bind_eq_some_iff.mp stepped
          obtain ⟨phase, -, less⟩ := descends_stepFrom step
          exact absurd (enough found here) (by omega)
  | succ turns ih =>
      unfold advance
      split
      · assumption
      · rename_i next stepped
        obtain ⟨found, here, step⟩ := Option.bind_eq_some_iff.mp stepped
        obtain ⟨phase, tasks, less⟩ := descends_stepFrom step
        refine ih next fun later there => ?_
        have bound := enough found here
        rw [tasks, List.getElem?_modify] at there
        simp only [here] at there
        cases there
        simp only [if_true]
        omega

theorem step?_poll (depot : Depot) (task : TaskId) : (depot.poll task).step? task = none := by
  unfold poll
  split
  · rename_i missing
    simp [step?, missing]
  · rename_i found here
    refine step?_advance _ depot task fun other there => ?_
    rw [here] at there
    cases there
    exact Nat.le_refl _

end HandlePool.Depot
