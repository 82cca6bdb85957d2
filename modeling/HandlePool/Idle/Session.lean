import HandlePool.Idle.Shelf
import HandlePool.Text.Quoted

namespace HandlePool.Idle

universe u

inductive Operation (α : Type u) where
  | pushFront (value : α)
  | popFront
  | popBack
  | drain
  | take (count : Nat)
  | show
deriving DecidableEq, Repr

inductive Result (α : Type u) where
  | nothing
  | popped (value : α)
  | listed (values : List α)
  | text (text : String)
deriving DecidableEq, Repr

namespace Shelf

variable {α : Type u}

def popResult (shelf : Shelf α) : Option (α × Shelf α) → Result α × Shelf α
  | none => (.nothing, shelf)
  | some (value, rest) => (.popped value, rest)

def apply (item : α → String) (shelf : Shelf α) : Operation α → Result α × Shelf α
  | .pushFront value => (.nothing, shelf.pushFront value)
  | .popFront => shelf.popResult shelf.popFront
  | .popBack => shelf.popResult shelf.popBack
  | .drain => (.listed shelf.drain.1, shelf.drain.2)
  | .take count => (.listed (shelf.toList.take count), shelf)
  | .show => (.text (Text.listing (shelf.toList.map item)), shelf)

def session (item : α → String) (shelf : Shelf α) : List (Operation α) → List (Result α × Shelf α)
  | [] => []
  | operation :: operations =>
      let (result, shelf) := shelf.apply item operation
      (result, shelf) :: shelf.session item operations

end Shelf

end HandlePool.Idle
