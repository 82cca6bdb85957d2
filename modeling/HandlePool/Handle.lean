import HandlePool.Json.Value
import HandlePool.Text.Quoted

namespace HandlePool

abbrev HandleId := Nat

abbrev DialerId := Nat

/-- A numbered handle shows its state and always closes without error. A plain one has no notion of
being reusable or of a monitor. -/
inductive Make where
  | numbered
  | full
  | plain
deriving DecidableEq, Repr

inductive Monitor where
  | watch
  | close
  | spoil
deriving DecidableEq, Repr

structure Fitting where
  make : Make := .full
  closed : Bool := false
  reusable : Bool := true
  closeFailure : Option String := none
  closeDelay : Option Nat := none
  monitor : Option Monitor := none
deriving DecidableEq, Repr, Inhabited

structure Handle where
  dialer : DialerId
  serial : Nat
  make : Make
  closed : Bool
  reusable : Bool
  closeCalls : Nat
  closeFailure : Option String
  closeDelay : Option Nat
  monitor : Option Monitor
deriving DecidableEq, Repr

instance : Inhabited Handle := ⟨⟨0, 0, .full, false, true, 0, none, none, none⟩⟩

namespace Handle

def ofFitting (dialer : DialerId) (serial : Nat) (fitting : Fitting) : Handle where
  dialer := dialer
  serial := serial
  make := fitting.make
  closed := fitting.closed
  reusable := fitting.reusable
  closeCalls := 0
  closeFailure := if fitting.make = .numbered then none else fitting.closeFailure
  closeDelay := fitting.closeDelay
  monitor := if fitting.make = .plain then none else fitting.monitor

def isReusable (handle : Handle) : Bool := handle.make == .plain || handle.reusable

def usable (handle : Handle) : Bool := handle.isReusable && !handle.closed

/-- The end of a close: a failing one leaves the handle as open as it was. -/
def closeOnce (handle : Handle) : Handle :=
  { handle with
    closeCalls := handle.closeCalls + 1
    closed := handle.closed || handle.closeFailure.isNone }

def monitored (handle : Handle) : Handle :=
  match handle.monitor with
  | some .close => { handle with closed := true }
  | some .spoil => { handle with reusable := false }
  | _ => handle

def stateText (id : Nat) (closed : Bool) (closeCalls : Nat) : String :=
  Text.record "MockState" [
    ("id", Nat.repr id),
    ("closed", Json.boolText closed),
    ("close_calls", Nat.repr closeCalls)]

def stateText? (handle : Handle) : Option String :=
  if handle.make = .numbered then
    some (stateText handle.serial handle.closed handle.closeCalls)
  else none

def freshText (id : Nat) : String :=
  Text.record "MockHandle" [("state", stateText id false 0)]

end Handle

structure Mark where
  closes : Bool := false
  reusable : Option Bool := none
  closeDelay : Option Nat := none
deriving DecidableEq, Repr

def Handle.marked (handle : Handle) (mark : Mark) : Handle :=
  { handle with
    closed := handle.closed || mark.closes
    reusable := mark.reusable.getD handle.reusable
    closeDelay := mark.closeDelay.or handle.closeDelay }

end HandlePool
