/-!
Idle entries kept in recycled slots. An entry lives in a slot of an array and links to its
neighbours by index. A vacated slot goes on a stack of free slots, from where the next entry takes
it. The front holds the newest entry and the back the oldest.
-/
namespace HandlePool.Idle

universe u

structure Slot (α : Type u) where
  value : Option α := none
  newer : Option Nat := none
  older : Option Nat := none

structure Arena (α : Type u) where
  slots : Array (Slot α) := #[]
  free : List Nat := []
  front : Option Nat := none
  back : Option Nat := none
  size : Nat := 0

inductive Fault where
  | outOfRange (index : Nat)
  | vacant (index : Nat)
  | uncounted
  | looping
deriving DecidableEq, Repr

namespace Arena

variable {α : Type u}

def isEmpty (arena : Arena α) : Bool := arena.size == 0

def slotAt (slots : Array (Slot α)) (index : Nat) : Except Fault (Slot α) :=
  match slots[index]? with
  | some slot => .ok slot
  | none => .error (.outOfRange index)

def amend (slots : Array (Slot α)) (index : Nat) (change : Slot α → Slot α) :
    Except Fault (Array (Slot α)) :=
  (slotAt slots index).map fun slot => slots.setIfInBounds index (change slot)

def entryAt (arena : Arena α) : Option Nat → Except Fault (Option α)
  | none => .ok none
  | some index => (slotAt arena.slots index).map (·.value)

def newest (arena : Arena α) : Except Fault (Option α) := arena.entryAt arena.front

def oldest (arena : Arena α) : Except Fault (Option α) := arena.entryAt arena.back

def occupy (arena : Arena α) (slot : Slot α) :
    Except Fault (Nat × Array (Slot α) × List Nat) :=
  match arena.free with
  | index :: free => (amend arena.slots index fun _ => slot).map (index, ·, free)
  | [] => .ok (arena.slots.size, arena.slots.push slot, [])

def pushFront (arena : Arena α) (value : α) : Except Fault (Arena α) := do
  let (index, slots, free) ← arena.occupy { value := some value, older := arena.front }
  match arena.front with
  | some old => do
      let slots ← amend slots old ({ · with newer := some index })
      .ok { slots, free, front := some index, back := arena.back, size := arena.size + 1 }
  | none => .ok { slots, free, front := some index, back := some index, size := arena.size + 1 }

def vacate (arena : Arena α) (index : Nat) : Except Fault (α × Arena α) := do
  let slot ← slotAt arena.slots index
  match arena.size, slot.value with
  | 0, _ => .error .uncounted
  | _ + 1, none => .error (.vacant index)
  | size + 1, some value =>
      .ok (value, { arena with
        slots := arena.slots.setIfInBounds index {}, free := index :: arena.free, size })

def popFront (arena : Arena α) : Except Fault (Option (α × Arena α)) :=
  match arena.front with
  | none => .ok none
  | some index => do
      let slot ← slotAt arena.slots index
      match slot.older with
      | some next => do
          let slots ← amend arena.slots next ({ · with newer := none })
          (vacate { arena with slots, front := some next } index).map some
      | none => (vacate { arena with front := none, back := none } index).map some

def popBack (arena : Arena α) : Except Fault (Option (α × Arena α)) :=
  match arena.back with
  | none => .ok none
  | some index => do
      let slot ← slotAt arena.slots index
      match slot.newer with
      | some next => do
          let slots ← amend arena.slots next ({ · with older := none })
          (vacate { arena with slots, back := some next } index).map some
      | none => (vacate { arena with front := none, back := none } index).map some

def popAll : Nat → Arena α → Except Fault (List α × Arena α)
  | 0, arena => if arena.front.isSome then .error .looping else .ok ([], arena)
  | limit + 1, arena => do
      match ← arena.popFront with
      | none => .ok ([], arena)
      | some (value, arena) => do
          let (values, arena) ← popAll limit arena
          .ok (value :: values, arena)

def drain (arena : Arena α) : Except Fault (List α × Arena α) := do
  let (values, arena) ← arena.popAll arena.slots.size
  .ok (values, { arena with slots := #[], free := [] })

/-- The entries met from a slot on, at most `limit` of them. A vacant slot ends the walk. -/
def walk (slots : Array (Slot α)) : Nat → Option Nat → Except Fault (List α)
  | _, none => .ok []
  | 0, some _ => .error .looping
  | limit + 1, some index => do
      let slot ← slotAt slots index
      match slot.value with
      | none => .ok []
      | some value => (walk slots limit slot.older).map (value :: ·)

def entries (arena : Arena α) : Except Fault (List α) :=
  walk arena.slots arena.slots.size arena.front

end Arena

end HandlePool.Idle
