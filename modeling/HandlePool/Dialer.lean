import HandlePool.Handle

namespace HandlePool

inductive DialEnd where
  | connect (fitting : Fitting)
  | refuse (reason : String)
  | panic (message : String)
deriving DecidableEq, Repr

structure DialPlan where
  delay : Option Nat := none
  ending : DialEnd := .connect {}
deriving DecidableEq, Repr, Inhabited

/-- A counted dialer keeps the next number, the count of its successes and the handles themselves
side by side. -/
structure Counter where
  delay : Option Nat := none
  failures : Nat := 0
  nextSerial : Nat := 0
  created : Nat := 0
  handles : List HandleId := []
deriving DecidableEq, Repr, Inhabited

structure Script where
  plans : List DialPlan := []
  made : Nat := 0
deriving DecidableEq, Repr, Inhabited

inductive Conduct where
  | counted (counter : Counter)
  | scripted (script : Script)
deriving DecidableEq, Repr

structure Dialer where
  name : String
  conduct : Conduct
deriving DecidableEq, Repr

instance : Inhabited Dialer := ⟨⟨"", .counted {}⟩⟩

structure Call where
  dialer : DialerId
  due : Option Nat
  ending : Option DialEnd
deriving DecidableEq, Repr

namespace Counter

def refusalText : String := "mock dial refused"

def conclude (counter : Counter) : DialEnd × Counter :=
  if 0 < counter.failures then
    (.refuse refusalText, { counter with failures := counter.failures - 1 })
  else (.connect { make := .numbered }, counter)

def enroll (handle : HandleId) (counter : Counter) : Counter :=
  { counter with
    nextSerial := counter.nextSerial + 1
    created := counter.created + 1
    handles := counter.handles ++ [handle] }

def recordText (counter : Counter) : String :=
  Text.record "MockFactory" [("created", Nat.repr counter.created)]

end Counter

namespace Dialer

def isCounted (dialer : Dialer) : Bool :=
  match dialer.conduct with
  | .counted _ => true
  | .scripted _ => false

def changeCounter (change : Counter → Counter) (dialer : Dialer) : Dialer :=
  match dialer.conduct with
  | .counted counter => { dialer with conduct := .counted (change counter) }
  | .scripted _ => dialer

def changeScript (change : Script → Script) (dialer : Dialer) : Dialer :=
  match dialer.conduct with
  | .counted _ => dialer
  | .scripted script => { dialer with conduct := .scripted (change script) }

def failNext (count : Nat) : Dialer → Dialer :=
  changeCounter fun counter => { counter with failures := count }

def setDelay (delay : Nat) : Dialer → Dialer :=
  changeCounter fun counter => { counter with delay := some delay }

def extend (plans : List DialPlan) : Dialer → Dialer :=
  changeScript fun script => { script with plans := script.plans ++ plans }

def shownParameter (dialer : Dialer) (parameter : String) : Option String :=
  if dialer.isCounted then none else some parameter

def next (dialer : Dialer) : Option Nat × Option DialEnd :=
  match dialer.conduct with
  | .counted counter => (counter.delay, none)
  | .scripted script =>
      let plan := script.plans.head?.getD {}
      (plan.delay, some plan.ending)

def advance : Dialer → Dialer :=
  changeScript fun script => { script with plans := script.plans.tail }

def conclude (ending : Option DialEnd) (dialer : Dialer) : DialEnd × Dialer :=
  match dialer.conduct with
  | .counted counter =>
      let (ending, counter) := counter.conclude
      (ending, { dialer with conduct := .counted counter })
  | .scripted _ => (ending.getD (.connect {}), dialer)

def serial (dialer : Dialer) : Nat :=
  match dialer.conduct with
  | .counted counter => counter.nextSerial
  | .scripted script => script.made

def enroll (handle : HandleId) (dialer : Dialer) : Dialer :=
  match dialer.conduct with
  | .counted counter => { dialer with conduct := .counted (counter.enroll handle) }
  | .scripted script => { dialer with conduct := .scripted { script with made := script.made + 1 } }

end Dialer

end HandlePool
