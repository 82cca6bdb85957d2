import HandlePool.Proofs.Closed

/-!
A depot without its signals and contexts. What it does without them is what it does with them,
except where a checkout is still before the gate of its pool.
-/
namespace HandlePool

def Request.plain : Request → Request
  | .checkout pool _ => .checkout pool {}
  | request => request

def Phase.plain : Phase → Phase
  | .queued pool _ since => .queued pool {} since
  | phase => phase

def Task.plain (task : Task) : Task := ⟨task.request.plain, task.phase.plain⟩

theorem Phase.isOver_plain (phase : Phase) : phase.plain.isOver = phase.isOver := by
  cases phase <;> rfl

namespace Depot

/-- Without what signals and contexts there are. -/
def plain (depot : Depot) : Depot :=
  { depot with signals := [], tasks := depot.tasks.map Task.plain }

section

variable (depot : Depot)

@[simp] theorem now_plain : depot.plain.now = depot.now := rfl

@[simp] theorem pools_plain : depot.plain.pools = depot.pools := rfl

@[simp] theorem held_plain : depot.plain.held = depot.held := rfl

@[simp] theorem trace_plain : depot.plain.trace = depot.trace := rfl

@[simp] theorem handles_plain : depot.plain.handles = depot.handles := rfl

@[simp] theorem length_tasks_plain : depot.plain.tasks.length = depot.tasks.length :=
  List.length_map _

@[simp] theorem pool_plain (id : PoolId) : depot.plain.pool id = depot.pool id := rfl

@[simp] theorem handle_plain (id : HandleId) : depot.plain.handle id = depot.handle id := rfl

@[simp] theorem dialer_plain (id : DialerId) : depot.plain.dialer id = depot.dialer id := rfl

@[simp] theorem directory_plain (id : DirectoryId) :
    depot.plain.directory id = depot.directory id := rfl

@[simp] theorem isClosed_plain : depot.plain.isClosed = depot.isClosed := rfl

@[simp] theorem timer_plain (delay : Option Nat) : depot.plain.timer delay = depot.timer delay :=
  rfl

@[simp] theorem elapsed_plain (due : Option Nat) : depot.plain.elapsed due = depot.elapsed due :=
  rfl

theorem getElem?_tasks_plain (task : TaskId) :
    depot.plain.tasks[task]? = depot.tasks[task]?.map Task.plain :=
  List.getElem?_map

theorem phase?_plain (task : TaskId) :
    depot.plain.phase? task = (depot.phase? task).map Phase.plain := by
  rw [phase?, phase?, getElem?_tasks_plain, Option.map_map, Option.map_map]
  rfl

@[simp] theorem plain_setPool (id : PoolId) (pool : Pool) :
    (depot.setPool id pool).plain = depot.plain.setPool id pool := rfl

@[simp] theorem plain_changePool (id : PoolId) (change : Pool → Pool) :
    (depot.changePool id change).plain = depot.plain.changePool id change := rfl

@[simp] theorem plain_changeHandle (id : HandleId) (change : Handle → Handle) :
    (depot.changeHandle id change).plain = depot.plain.changeHandle id change := rfl

@[simp] theorem plain_setDialer (id : DialerId) (dialer : Dialer) :
    (depot.setDialer id dialer).plain = depot.plain.setDialer id dialer := rfl

@[simp] theorem plain_changeDialer (id : DialerId) (change : Dialer → Dialer) :
    (depot.changeDialer id change).plain = depot.plain.changeDialer id change := rfl

@[simp] theorem plain_setDirectory (id : DirectoryId) (directory : Directory) :
    (depot.setDirectory id directory).plain = depot.plain.setDirectory id directory := rfl

@[simp] theorem plain_record (event : Event) :
    (depot.record event).plain = depot.plain.record event := rfl

@[simp] theorem plain_note (note : Note) : (depot.note note).plain = depot.plain.note note := rfl

@[simp] theorem plain_endClose (handle : HandleId) :
    (depot.endClose handle).plain = depot.plain.endClose handle := rfl

@[simp] theorem plain_addHandle (id : DialerId) (fitting : Fitting) :
    (depot.addHandle id fitting).plain = depot.plain.addHandle id fitting := rfl

@[simp] theorem plain_beginDial (id : DialerId) (parameter : String) :
    (depot.beginDial id parameter).2.plain = (depot.plain.beginDial id parameter).2 := rfl

@[simp] theorem beginDial_plain (id : DialerId) (parameter : String) :
    (depot.plain.beginDial id parameter).1 = (depot.beginDial id parameter).1 := rfl

@[simp] theorem plain_enter (task : TaskId) (phase : Phase) :
    (depot.enter task phase).plain = depot.plain.enter task phase.plain := by
  have tasks : (depot.tasks.modify task ({ · with phase })).map Task.plain =
      (depot.tasks.map Task.plain).modify task ({ · with phase := phase.plain }) := by
    apply List.ext_getElem?
    intro other
    simp only [List.getElem?_map, List.getElem?_modify, Option.map_eq_map, Option.map_map]
    congr 1
    funext found
    by_cases same : task = other <;> simp [same, Task.plain]
  unfold plain enter
  rw [tasks]

@[simp] theorem plain_finish (task : TaskId) (outcome : Outcome) :
    (depot.finish task outcome).plain = depot.plain.finish task outcome := by
  have entered := depot.plain_enter task (.finished outcome)
  have recorded : ((depot.enter task (.finished outcome)).record (.done task outcome)).plain =
      (depot.plain.enter task (.finished outcome)).record (.done task outcome) := by
    rw [plain_record, entered]
    rfl
  exact congrArg (fun next : Depot =>
    { next with held := depot.held ++ (Holding.ofOutcome? task outcome).toList }) recorded

@[simp] theorem plain_handBack (id : PoolId) (slot reserved : Bool) :
    (depot.handBack id slot reserved).plain = depot.plain.handBack id slot reserved := by
  cases slot <;> cases reserved <;> rfl

@[simp] theorem plain_fail (task : TaskId) (id : PoolId) (slot reserved : Bool)
    (outcome : Outcome) :
    (depot.fail task id slot reserved outcome).plain =
      depot.plain.fail task id slot reserved outcome := by
  simp [fail]

@[simp] theorem plain_beginClose (task : TaskId) (id : PoolId) (handle : HandleId)
    (errand : Errand) :
    (depot.beginClose task id handle errand).plain =
      depot.plain.beginClose task id handle errand := by
  simp [beginClose, Phase.plain]

@[simp] theorem plain_endPoolClose (id : PoolId) (handle : HandleId) :
    (depot.endPoolClose id handle).plain = depot.plain.endPoolClose id handle := by
  unfold endPoolClose
  dsimp only [handle_plain]
  split <;> rfl

@[simp] theorem plain_startMonitor (handle : HandleId) :
    (depot.startMonitor handle).plain = depot.plain.startMonitor handle := by
  unfold startMonitor
  dsimp only [handle_plain]
  split <;> rfl

theorem plain_runMonitors : depot.runMonitors.plain = depot.plain.runMonitors := by
  have ran (handles : List HandleId) (start : Depot) :
      (handles.foldl runMonitor start).plain = handles.foldl runMonitor start.plain := by
    induction handles generalizing start with
    | nil => rfl
    | cons handle rest ih => exact ih (start.runMonitor handle)
  exact ran depot.monitors _

theorem plain_endDial (call : Call) :
    (depot.plain.endDial call) = ((depot.endDial call).1, (depot.endDial call).2.plain) := by
  unfold endDial
  dsimp only [dialer_plain]
  split <;> rfl

@[simp] theorem plain_admitted (task : TaskId) (id : PoolId) (slot : Bool) (waited : Option Nat) :
    (depot.admitted task id slot waited).plain = depot.plain.admitted task id slot waited := by
  unfold admitted
  dsimp only [pool_plain, isClosed_plain]
  split <;> simp [Phase.plain]

@[simp] theorem plain_quit (task : TaskId) (id : PoolId) (refusal : Refusal) :
    (depot.quit task id refusal).plain = depot.plain.quit task id refusal :=
  plain_finish _ task _

@[simp] theorem plain_reserve (task : TaskId) (id : PoolId) (slot : Bool) :
    (depot.reserve task id slot).plain = depot.plain.reserve task id slot := by
  unfold reserve
  dsimp only [pool_plain]
  cases (depot.pool id).refusal? with
  | some refusal => cases refusal <;> simp
  | none =>
      cases (depot.pool id).dialer with
      | none => simp
      | some dialer => exact plain_enter _ task _

theorem plain_scan (task : TaskId) (id : PoolId) (slot : Bool) :
    (depot.scan task id slot).plain = depot.plain.scan task id slot := by
  unfold scan
  dsimp only [pool_plain]
  cases (depot.pool id).takeNewest with
  | none => exact depot.plain_reserve task id slot
  | some entry =>
      obtain ⟨handle, rest⟩ := entry
      dsimp only [handle_plain]
      rw [apply_ite plain, apply_ite plain]
      exact congrArg₂ _ (plain_finish _ task _)
        (congrArg₂ _ (plain_enter _ task _) (plain_beginClose _ task id handle _))

theorem plain_endCheckoutDial (task : TaskId) (id : PoolId) (slot : Bool) (call : Call) :
    (depot.endCheckoutDial task id slot call).plain =
      depot.plain.endCheckoutDial task id slot call := by
  unfold endCheckoutDial
  rw [plain_endDial]
  cases depot.endDial call with
  | mk answer next =>
      cases answer with
      | connected handle =>
          have started := plain_startMonitor (next.changePool id Pool.recordDial) handle
          dsimp only
          rw [plain_finish, plain_note, started]
          exact congrArg (fun pool : Pool => Depot.finish (Depot.note _ (.dialed id pool.active))
            task (.checkedOut id handle)) (congrArg (·.pool id) started)
      | refused reason => simp
      | panicked message => simp

theorem plain_giveBack (task : TaskId) (id : PoolId) (handle : HandleId) :
    (depot.giveBack task id handle).plain = depot.plain.giveBack task id handle := by
  unfold giveBack
  dsimp only [pool_plain]
  cases (depot.pool id).slotOverflows <;> cases ((depot.pool id).shelve handle).2 <;> simp

theorem plain_discard (task : TaskId) (id : PoolId) (handle : HandleId) :
    (depot.discard task id handle).plain = depot.plain.discard task id handle := by
  unfold discard
  rw [apply_ite plain, apply_ite plain]
  exact congrArg₂ _ (plain_finish _ task _)
    (congrArg₂ _ (plain_finish _ task _) (plain_beginClose _ task id handle _))

theorem plain_closeAlone (task : TaskId) (handle : HandleId) :
    (depot.closeAlone task handle).plain = depot.plain.closeAlone task handle :=
  plain_enter _ task _

theorem plain_endCloseAlone (task : TaskId) (handle : HandleId) :
    (depot.endCloseAlone task handle).plain = depot.plain.endCloseAlone task handle :=
  plain_finish _ task _

theorem plain_call (task : TaskId) (dialer : DialerId) (parameter : String) :
    (depot.call task dialer parameter).plain = depot.plain.call task dialer parameter :=
  plain_enter _ task _

theorem plain_endCall (task : TaskId) (call : Call) :
    (depot.endCall task call).plain = depot.plain.endCall task call := by
  unfold endCall
  rw [plain_endDial]
  cases depot.endDial call with
  | mk answer next => cases answer <;> exact plain_finish _ task _

theorem plain_shutNext (task : TaskId) (pools : List PoolId) :
    (depot.shutNext task pools).plain = depot.plain.shutNext task pools := by
  cases pools with
  | nil => exact plain_finish _ task _
  | cons id later =>
      unfold shutNext
      rw [apply_ite plain]
      exact congrArg₂ _ (plain_enter _ task _) (plain_enter _ task _)

theorem plain_drainNext (task : TaskId) (id : PoolId) (later : List PoolId)
    (handles : List HandleId) :
    (depot.drainNext task id later handles).plain =
      depot.plain.drainNext task id later handles := by
  cases handles with
  | nil => exact plain_enter _ task _
  | cons handle rest => exact plain_beginClose _ task id handle _

theorem plain_resume (task : TaskId) (id : PoolId) (errand : Errand) :
    (depot.resume task id errand).plain = depot.plain.resume task id errand := by
  cases errand with
  | conclude => exact plain_finish _ task _
  | _ => exact plain_enter _ task _

theorem plain_undo (task : TaskId) (phase : Phase) :
    (depot.undo task phase).plain = depot.plain.undo task phase.plain := by
  cases phase with
  | closing id handle due errand =>
      cases errand with
      | rescan slot => exact plain_handBack _ id slot false
      | _ => rfl
  | scanning id slot => exact plain_handBack _ id slot false
  | dialing id slot call => exact plain_handBack _ id slot true
  | _ => rfl

theorem plain_drop (task : TaskId) :
    (depot.drop task).plain = depot.plain.drop task := by
  unfold drop
  rw [phase?_plain]
  cases depot.phase? task with
  | none => rfl
  | some phase =>
      dsimp only [Option.map_some]
      rw [Phase.isOver_plain, ← plain_undo, apply_ite plain, plain_enter]
      rfl

theorem load_plain (request : Request) (phase : Phase) :
    depot.plain.load request.plain phase.plain = depot.load request phase := by
  have shut (pools : List PoolId) : depot.plain.shutLoad pools = depot.shutLoad pools :=
    shutLoad_of_pools depot.pools_plain pools
  cases phase with
  | asked =>
      cases request with
      | shut id => exact congrArg (· + 1) (shut [id])
      | shutAll directory order => exact congrArg (· + 1) (shut _)
      | _ => rfl
  | closing id handle due errand =>
      cases errand with
      | drain rest later => exact congrArg (2 * rest.length + 3 + ·) (shut later)
      | _ => rfl
  | draining id handles later => exact congrArg (2 * handles.length + 2 + ·) (shut later)
  | shutting pools => exact shut pools
  | _ => rfl

end

def verdict (depot : Depot) (context : Context) : Option Abort × Option Abort :=
  (context.interrupt depot.signals depot.now, context.check depot.signals depot.now)

def hears? (depot : Depot) (task : Task) : Option (Option Abort × Option Abort) :=
  match task.phase, task.request with
  | .asked, .checkout pool context =>
      if (depot.pool pool).gate.isSome then some (depot.verdict context) else none
  | .queued _ context _, _ => some (depot.verdict context)
  | _, _ => none

def hearing? (depot : Depot) (task : TaskId) : Option (Option Abort × Option Abort) :=
  depot.tasks[task]?.bind depot.hears?

variable {one two depot : Depot} {task : TaskId} {id : PoolId} {request : Request} {phase : Phase}
  {context context' : Context} {said : Option Abort × Option Abort}

theorem isSome_hearing?_plain (depot : Depot) (task : TaskId) :
    (depot.plain.hearing? task).isSome = (depot.hearing? task).isSome := by
  rw [hearing?, hearing?, getElem?_tasks_plain]
  cases depot.tasks[task]? with
  | none => rfl
  | some found =>
      obtain ⟨request, phase⟩ := found
      cases phase with
      | asked =>
          cases request with
          | checkout id context =>
              have hears (said : Option Abort × Option Abort) :
                  (if (depot.pool id).gate.isSome then some said else none).isSome =
                    (depot.pool id).gate.isSome := by
                split <;> simp_all
              exact (hears _).trans (hears _).symm
          | _ => rfl
      | _ => rfl

inductive Hearing (depot : Depot) (said : Option Abort × Option Abort) : Task → Prop where
  | called {id : PoolId} {context : Context} (gated : (depot.pool id).gate.isSome = true)
      (tells : depot.verdict context = said) : Hearing depot said ⟨.checkout id context, .asked⟩
  | queued {request : Request} {id : PoolId} {context : Context} {since : Option Nat}
      (tells : depot.verdict context = said) :
      Hearing depot said ⟨request, .queued id context since⟩

theorem hearing_of_hears? {found : Task} (hears : depot.hears? found = some said) :
    Hearing depot said found := by
  obtain ⟨request, phase⟩ := found
  cases phase with
  | asked =>
      cases request with
      | checkout id context =>
          simp only [hears?] at hears
          split at hears
          · rename_i gated
            exact .called gated (Option.some.inj hears)
          · cases hears
      | _ => cases hears
  | queued id context since => exact .queued (Option.some.inj hears)
  | _ => cases hears

theorem view_of_plain {View : Type} (view : Depot → View)
    (sees : ∀ depot, view depot.plain = view depot) (same : one.plain = two.plain) :
    view one = view two := by
  rw [← sees, same, sees]

theorem now_of_plain (same : one.plain = two.plain) : one.now = two.now :=
  view_of_plain Depot.now now_plain same

theorem held_of_plain (same : one.plain = two.plain) : one.held = two.held :=
  view_of_plain Depot.held held_plain same

theorem pool_of_plain (same : one.plain = two.plain) (id : PoolId) : one.pool id = two.pool id :=
  congrArg (·.pool id) same

theorem tasks_of_plain (same : one.plain = two.plain) (task : TaskId) :
    one.tasks[task]?.map Task.plain = two.tasks[task]?.map Task.plain := by
  rw [← getElem?_tasks_plain, ← getElem?_tasks_plain, same]

theorem plain_passGate {waited : Option Nat} (same : one.plain = two.plain)
    (check : context.check one.signals one.now = context'.check two.signals two.now) :
    (one.passGate task id context waited).plain = (two.passGate task id context' waited).plain := by
  have pool := pool_of_plain same id
  unfold passGate
  rw [check, pool]
  cases context'.check two.signals two.now with
  | none =>
      dsimp only
      rw [plain_admitted, plain_admitted, same]
  | some abort =>
      dsimp only
      rw [plain_finish, plain_finish, plain_changePool, plain_changePool, same]

theorem plain_checkout (same : one.plain = two.plain)
    (tells : (one.pool id).gate = none ∨ one.verdict context = two.verdict context') :
    (one.checkout task id context).plain = (two.checkout task id context').plain := by
  have pool := pool_of_plain same id
  have now := now_of_plain same
  unfold checkout
  rw [pool] at tells ⊢
  cases gated : (two.pool id).gate with
  | none =>
      dsimp only
      rw [plain_admitted, plain_admitted, same]
  | some gate =>
      obtain ⟨interrupt, check⟩ := Prod.mk.inj
        (tells.resolve_left fun ungated => by rw [gated] at ungated; cases ungated)
      have changed (change : Gate → Gate) :
          (one.changePool id (Pool.changeGate change)).plain =
            (two.changePool id (Pool.changeGate change)).plain :=
        congrArg (·.changePool id (Pool.changeGate change)) same
      dsimp only
      rw [interrupt, now]
      cases context'.interrupt two.signals two.now with
      | some abort =>
          dsimp only
          rw [plain_finish, plain_finish, same]
      | none =>
          dsimp only
          split
          · rw [plain_finish, plain_finish, same]
          · split
            · rw [plain_enter, plain_enter, changed]
              rfl
            · exact plain_passGate (changed Gate.take) check

theorem plain_look {since : Option Nat} (same : one.plain = two.plain)
    (tells : one.verdict context = two.verdict context') :
    (one.look task id context since).map plain = (two.look task id context' since).map plain := by
  have pool := pool_of_plain same id
  have now := now_of_plain same
  obtain ⟨interrupt, check⟩ := Prod.mk.inj tells
  unfold look
  rw [interrupt, pool, now]
  cases context'.interrupt two.signals two.now with
  | some abort =>
      dsimp only
      rw [Option.map_some, Option.map_some, plain_quit, plain_quit, same]
  | none =>
      cases (two.pool id).gate with
      | none => rfl
      | some gate =>
          dsimp only
          split
          · rw [Option.map_some, Option.map_some, plain_quit, plain_quit, same]
          · split
            · have collected : (one.changePool id (Pool.changeGate (·.collect task))).plain =
                  (two.changePool id (Pool.changeGate (·.collect task))).plain :=
                congrArg (·.changePool id (Pool.changeGate (·.collect task))) same
              exact congrArg some (plain_passGate collected check)
            · rfl

theorem plain_stepFrom (silent : depot.hears? ⟨request, phase⟩ = none) :
    (depot.stepFrom task request phase).map plain =
      depot.plain.stepFrom task request.plain phase.plain := by
  have whenElapsed {due : Option Nat} {goes goes' : Depot} (same : goes.plain = goes') :
      (if depot.elapsed due then some goes else none).map plain =
        if depot.plain.elapsed due then some goes' else none := by
    rw [elapsed_plain, ← same]
    split <;> rfl
  cases phase with
  | asked =>
      refine congrArg some ?_
      cases request with
      | checkout id context =>
          simp only [hears?] at silent
          split at silent
          · cases silent
          · rename_i ungated
            have ungated := Option.not_isSome_iff_eq_none.mp ungated
            have ungated' : (depot.plain.pool id).gate = none := ungated
            simp only [answer, checkout, Request.plain, ungated, ungated']
            exact depot.plain_admitted task id false none
      | giveBack id handle => exact depot.plain_giveBack task id handle
      | discard id handle => exact depot.plain_discard task id handle
      | closeHandle handle => exact depot.plain_closeAlone task handle
      | dial dialer parameter => exact depot.plain_call task dialer parameter
      | shut id => exact depot.plain_enter task _
      | shutAll directory order => exact plain_enter _ task _
  | queued id context since => cases silent
  | scanning id slot => exact congrArg some (depot.plain_scan task id slot)
  | dialing id slot call => exact whenElapsed (depot.plain_endCheckoutDial task id slot call)
  | closing id handle due errand =>
      refine whenElapsed ?_
      rw [plain_resume, plain_endPoolClose]
  | draining id handles later => exact congrArg some (depot.plain_drainNext task id later handles)
  | shutting pools => exact congrArg some (depot.plain_shutNext task pools)
  | calling call => exact whenElapsed (depot.plain_endCall task call)
  | closingAlone handle due => exact whenElapsed (depot.plain_endCloseAlone task handle)
  | finished outcome => rfl
  | dropped => rfl

theorem plain_step? (same : one.plain = two.plain)
    (hears : one.hearing? task = two.hearing? task) :
    (one.step? task).map plain = (two.step? task).map plain := by
  have tasks := tasks_of_plain same task
  unfold step? hearing? at *
  cases here : one.tasks[task]? with
  | none =>
      rw [here] at tasks
      rw [Option.map_eq_none_iff.mp tasks.symm]
      rfl
  | some first =>
      rw [here] at tasks hears
      obtain ⟨second, there, alike⟩ := Option.map_eq_some_iff.mp tasks.symm
      rw [there] at hears
      obtain ⟨requests, phases⟩ := Task.mk.inj alike
      rw [there]
      simp only [Option.bind_some] at hears ⊢
      -- Either both tasks are silent, or they are before the same gate and hear the same.
      cases said : one.hears? first with
      | none =>
          rw [plain_stepFrom said, plain_stepFrom (hears.symm.trans said), same, requests, phases]
      | some verdict =>
          have heard := hearing_of_hears? said
          have heard' := hearing_of_hears? (hears.symm.trans said)
          cases heard with
          | called gated tells =>
              cases heard' with
              | called gated' tells' =>
                  cases requests
                  exact congrArg some (plain_checkout same (Or.inr (tells.trans tells'.symm)))
              | queued => cases phases
          | queued tells =>
              cases heard' with
              | called => cases phases
              | queued tells' =>
                  cases phases
                  exact plain_look same (tells.trans tells'.symm)

end Depot

end HandlePool
