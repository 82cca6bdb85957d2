import HandlePool.Depot.Rows
import HandlePool.Proofs.Turns

/-!
What goes on behind the pools: time, signals, directories and warnings. A task that moves leaves
them alone, unless it shuts all pools of a directory or has to warn of a close that failed.
-/
namespace HandlePool

def Event.warning? : Event → Option Note
  | .noted note => if note.level = .warn then some note else none
  | _ => none

structure Backdrop where
  now : Nat
  signals : Signals
  directories : List Directory
  warnings : List Note

def Backdrop.warn (backdrop : Backdrop) (notes : List Note) : Backdrop :=
  { backdrop with warnings := backdrop.warnings ++ notes }

theorem Backdrop.warn_nil (backdrop : Backdrop) : backdrop.warn [] = backdrop := by
  rw [warn, List.append_nil]

namespace Depot

def warnings (depot : Depot) : List Note := depot.trace.filterMap Event.warning?

def backdrop (depot : Depot) : Backdrop :=
  ⟨depot.now, depot.signals, depot.directories, depot.warnings⟩

/-- What there is to warn of when a task leaves the phase, other than by being dropped. -/
def failedClose (depot : Depot) : Phase → List Note
  | .closing pool handle _ _ => (depot.handle handle).closeFailure.toList.map (.closeFailed pool)
  | _ => []

def unfiled (depot : Depot) : Request → List Directory
  | .shutAll directory _ => depot.directories.set directory {}
  | _ => depot.directories

variable {depot next : Depot} {task : TaskId} {request : Request} {phase : Phase}
  {id view : PoolId} {handle : HandleId} {slot : Bool} {context : Context}

section Parts

variable (depot)

@[grind =] theorem backdrop_setPool (pool : Pool) :
    (depot.setPool id pool).backdrop = depot.backdrop := rfl

@[grind =] theorem backdrop_changePool (change : Pool → Pool) :
    (depot.changePool id change).backdrop = depot.backdrop := rfl

@[grind =] theorem backdrop_enter (phase : Phase) :
    (depot.enter task phase).backdrop = depot.backdrop := rfl

@[grind =] theorem backdrop_record (event : Event) :
    (depot.record event).backdrop = depot.backdrop.warn event.warning?.toList := by
  cases said : event.warning? <;> simp [backdrop, Backdrop.warn, warnings, record, said]

theorem backdrop_silent {event : Event} (silent : event.warning? = none) :
    (depot.record event).backdrop = depot.backdrop := by
  rw [backdrop_record, silent, Option.toList_none, Backdrop.warn_nil]

@[grind =] theorem backdrop_note (note : Note) (quiet : note.level ≠ .warn) :
    (depot.note note).backdrop = depot.backdrop :=
  depot.backdrop_silent (if_neg quiet)

@[grind =] theorem backdrop_finish (outcome : Outcome) :
    (depot.finish task outcome).backdrop = depot.backdrop :=
  (depot.enter task (.finished outcome)).backdrop_silent rfl

@[grind =] theorem backdrop_beginClose (errand : Errand) :
    (depot.beginClose task id handle errand).backdrop = depot.backdrop :=
  depot.backdrop_silent rfl

@[grind =] theorem backdrop_handBack (reserved : Bool) :
    (depot.handBack id slot reserved).backdrop = depot.backdrop := by
  cases slot <;> cases reserved <;> rfl

@[grind =] theorem backdrop_fail (reserved : Bool) (outcome : Outcome) :
    (depot.fail task id slot reserved outcome).backdrop = depot.backdrop := by
  rw [fail, backdrop_finish, backdrop_handBack]

@[grind =] theorem backdrop_admitted (waited : Option Nat) :
    (depot.admitted task id slot waited).backdrop = depot.backdrop := by
  unfold admitted
  dsimp only
  split
  · rfl
  · exact backdrop_note _ _ (by simp [Note.level])

@[grind =] theorem backdrop_passGate (waited : Option Nat) :
    (depot.passGate task id context waited).backdrop = depot.backdrop := by
  grind [passGate]

@[grind =] theorem backdrop_checkout :
    (depot.checkout task id context).backdrop = depot.backdrop := by
  grind [checkout]

@[grind =] theorem backdrop_beginDial (dialer : DialerId) (parameter : String) :
    (depot.beginDial dialer parameter).2.backdrop = depot.backdrop :=
  depot.backdrop_silent rfl

@[grind =] theorem backdrop_reserve :
    (depot.reserve task id slot).backdrop = depot.backdrop := by
  grind [reserve, Note.level]

@[grind =] theorem backdrop_scan : (depot.scan task id slot).backdrop = depot.backdrop := by
  grind [scan, Note.level]

@[grind =] theorem backdrop_endDial (call : Call) :
    (depot.endDial call).2.backdrop = depot.backdrop := by
  unfold endDial
  split
  rename_i ending dialer _
  cases ending <;> rfl

@[grind =] theorem backdrop_startMonitor :
    (depot.startMonitor handle).backdrop = depot.backdrop := by
  unfold startMonitor
  split <;> rfl

@[grind =] theorem backdrop_endCheckoutDial (call : Call) :
    (depot.endCheckoutDial task id slot call).backdrop = depot.backdrop := by
  have ended := depot.backdrop_endDial call
  unfold endCheckoutDial
  split <;> grind [Note.level]

@[grind =] theorem backdrop_endClose (handle : HandleId) :
    (depot.endClose handle).backdrop = depot.backdrop :=
  (depot.changeHandle handle Handle.closeOnce).backdrop_silent rfl

@[grind =] theorem backdrop_endCall (call : Call) :
    (depot.endCall task call).backdrop = depot.backdrop := by
  grind [endCall]

@[grind =] theorem backdrop_giveBack : (depot.giveBack task id handle).backdrop = depot.backdrop := by
  grind [giveBack, Note.level]

@[grind =] theorem backdrop_discard : (depot.discard task id handle).backdrop = depot.backdrop := by
  grind [discard]

@[grind =] theorem backdrop_resume (errand : Errand) :
    (depot.resume task id errand).backdrop = depot.backdrop := by
  cases errand <;> grind [resume]

theorem backdrop_drainNext (later : List PoolId) (handles : List HandleId) :
    (depot.drainNext task id later handles).backdrop = depot.backdrop := by
  cases handles <;> grind [drainNext]

theorem backdrop_shutNext (pools : List PoolId) :
    (depot.shutNext task pools).backdrop = depot.backdrop := by
  cases pools <;> grind [shutNext, Note.level]

theorem backdrop_undo (task : TaskId) (phase : Phase) :
    (depot.undo task phase).backdrop = depot.backdrop := by
  unfold undo
  split <;> grind

/-- A pool warns of a close that failed, once, and of nothing else. -/
theorem backdrop_endPoolClose (due : Option Nat) (errand : Errand) :
    (depot.endPoolClose id handle).backdrop =
      depot.backdrop.warn (depot.failedClose (.closing id handle due errand)) := by
  have ended := depot.backdrop_endClose handle
  unfold endPoolClose
  cases fails : (depot.handle handle).closeFailure with
  | none => simp [failedClose, fails, ended, Backdrop.warn_nil]
  | some reason => simp [failedClose, fails, note, backdrop_record, ended, Event.warning?, Note.level]

end Parts

theorem backdrop_look {since : Option Nat} (looked : depot.look task id context since = some next) :
    next.backdrop = depot.backdrop := by
  grind [look, quit]

theorem backdrop_answer (depot : Depot) (task : TaskId) (request : Request) :
    (depot.answer task request).backdrop =
      { depot.backdrop with directories := depot.unfiled request } := by
  cases request with
  | checkout id context => exact depot.backdrop_checkout
  | giveBack id handle => exact depot.backdrop_giveBack
  | discard id handle => exact depot.backdrop_discard
  | closeHandle handle => exact depot.backdrop_silent rfl
  | dial dialer parameter => exact depot.backdrop_beginDial dialer parameter
  | shut | shutAll => rfl

theorem backdrop_stepFrom (step : depot.stepFrom task request phase = some next)
    (begun : phase ≠ .asked) :
    next.backdrop = depot.backdrop.warn (depot.failedClose phase) := by
  have silent (same : next.backdrop = depot.backdrop) (nothing : depot.failedClose phase = []) :
      next.backdrop = depot.backdrop.warn (depot.failedClose phase) := by
    rw [same, nothing, Backdrop.warn_nil]
  cases phase with
  | asked => exact absurd rfl begun
  | queued id context since => exact silent (backdrop_look step) rfl
  | scanning id slot => exact silent (by grind [stepFrom]) rfl
  | dialing id slot call => exact silent (by grind [stepFrom]) rfl
  | closing id handle due errand =>
      simp only [stepFrom] at step
      split at step <;> cases step
      rw [backdrop_resume, backdrop_endPoolClose]
  | draining id handles later =>
      cases step
      exact silent (depot.backdrop_drainNext later handles) rfl
  | shutting pools =>
      cases step
      exact silent (depot.backdrop_shutNext pools) rfl
  | calling call => exact silent (by grind [stepFrom]) rfl
  | closingAlone handle due => exact silent (by grind [stepFrom, endCloseAlone]) rfl
  | finished outcome => cases step
  | dropped => cases step

theorem backdrop_runMonitors (depot : Depot) : depot.runMonitors.backdrop = depot.backdrop := by
  have each (handles : List HandleId) (start : Depot) :
      (handles.foldl runMonitor start).backdrop = start.backdrop := by
    induction handles generalizing start with
    | nil => rfl
    | cons handle rest ih =>
        have ran : (start.runMonitor handle).backdrop = start.backdrop :=
          (start.changeHandle handle Handle.monitored).backdrop_silent rfl
        exact (ih (start.runMonitor handle)).trans ran
  exact each depot.monitors _

theorem backdrop_makePool (depot : Depot) (name : String) (dialer : Option DialerId)
    (parameter : String) (limits : Limits) :
    (depot.act (.makePool name dialer parameter limits)).backdrop = depot.backdrop := by
  simp only [act]
  cases made : depot.addPool? name dialer parameter limits with
  | none => rfl
  | some added =>
      obtain ⟨pool, -, rfl⟩ := Option.map_eq_some_iff.mp made
      rfl

theorem warnings_outside {action : Action} (isOutside : action.isOutside = true) :
    (depot.act action).warnings = depot.warnings := by
  cases action with
  | runMonitors => exact congrArg Backdrop.warnings depot.backdrop_runMonitors
  | makePool name dialer parameter limits =>
      exact congrArg Backdrop.warnings (depot.backdrop_makePool name dialer parameter limits)
  | register directory key dialer parameter limits =>
      have noted := depot.backdrop_note (.registered key) (by simp [Note.level])
      have registers := depot.registering directory key dialer parameter limits
      simp only [act]
      generalize depot.register directory key dialer parameter limits = answered at registers ⊢
      cases registers with
      | found => rfl
      | failed | made => exact congrArg Backdrop.warnings noted
  | checkout | giveBack | discard | closeHeld | dial | shut | shutAll | poll | drop =>
      cases isOutside
  | _ => rfl

end Depot

end HandlePool
