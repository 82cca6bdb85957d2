namespace HandlePool.Clock

def tick : Nat := 1000

def ticks (now : Nat) : Nat := now / tick

def ticksUntil (due : Nat) : Nat := (due + (tick - 1)) / tick

/-- A timer goes off at the first tick that is not before the instant it is set to. -/
def reached (now due : Nat) : Bool := ticksUntil due ≤ ticks now

theorem le_of_reached {now due : Nat} (passed : reached now due = true) : due ≤ now := by
  simp only [reached, decide_eq_true_eq] at passed
  simp only [ticksUntil, ticks, tick] at passed
  omega

end HandlePool.Clock
