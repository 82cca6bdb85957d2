import HandlePool.Clock

/-!
What may call off a checkout that waits for a slot: a signal, or a deadline. Signals form a tree,
and one that fires takes its descendants with it.
-/
namespace HandlePool

abbrev SignalId := Nat

structure Signal where
  parent : Option SignalId
  fired : Bool
deriving DecidableEq, Repr

abbrev Signals := List Signal

namespace Signals

def fired (signals : Signals) (id : SignalId) : Bool := (signals[id]?).any (·.fired)

/-- A child of a signal that has fired has fired too. -/
def make (signals : Signals) (parent : Option SignalId) : Signals :=
  signals ++ [⟨parent, parent.any signals.fired⟩]

def fireOnto (id : SignalId) (before : Signals) : Signals → Signals
  | [] => before
  | signal :: rest =>
      let fires := signal.fired || before.length == id || signal.parent.any (fired before)
      fireOnto id (before ++ [{ signal with fired := fires }]) rest

def fire (signals : Signals) (id : SignalId) : Signals := fireOnto id [] signals

end Signals

inductive Abort where
  | cancelled
  | expired
deriving DecidableEq, Repr

structure Context where
  signal : Option SignalId := none
  deadline : Option Nat := none
deriving DecidableEq, Repr, Inhabited

namespace Context

def abortWhen (context : Context) (signals : Signals) (passed : Nat → Bool) : Option Abort :=
  if context.signal.any signals.fired then some .cancelled
  else if context.deadline.any passed then some .expired
  else none

def check (context : Context) (signals : Signals) (now : Nat) : Option Abort :=
  context.abortWhen signals fun deadline => deadline ≤ now

def interrupt (context : Context) (signals : Signals) (now : Nat) : Option Abort :=
  context.abortWhen signals (Clock.reached now)

theorem check_of_interrupt {context : Context} {signals : Signals} {now : Nat} {abort : Abort}
    (interrupted : context.interrupt signals now = some abort) :
    context.check signals now = some abort := by
  obtain ⟨signal, deadline⟩ := context
  unfold interrupt check abortWhen at *
  split at interrupted
  · simp_all
  · rename_i quiet
    rw [if_neg quiet]
    split at interrupted
    · rename_i passed
      cases deadline with
      | none => simp at passed
      | some deadline =>
          have early := Clock.le_of_reached (by simpa using passed)
          simpa [early] using interrupted
    · simp at interrupted

end Context

end HandlePool
