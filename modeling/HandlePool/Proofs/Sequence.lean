import HandlePool.Idle.Session
import Mathlib.Data.List.Forall2
import Mathlib.Data.List.Induction

namespace HandlePool.Idle

universe u

variable {α : Type u}

def plainStep (item : α → String) (values : List α) : Operation α → Result α × List α
  | .pushFront value => (.nothing, value :: values)
  | .popFront =>
      match values with
      | [] => (.nothing, [])
      | newest :: older => (.popped newest, older)
  | .popBack =>
      match values.getLast? with
      | none => (.nothing, [])
      | some oldest => (.popped oldest, values.dropLast)
  | .drain => (.listed values, [])
  | .take count => (.listed (values.take count), values)
  | .show => (.text (Text.listing (values.map item)), values)

def plainSession (item : α → String) (values : List α) :
    List (Operation α) → List (Result α × List α)
  | [] => []
  | operation :: operations =>
      let step := plainStep item values operation
      step :: plainSession item step.2 operations

namespace Arena

def popResult (arena : Arena α) : Option (α × Arena α) → Result α × Arena α
  | none => (.nothing, arena)
  | some (value, rest) => (.popped value, rest)

def perform (item : α → String) (arena : Arena α) :
    Operation α → Except Fault (Result α × Arena α)
  | .pushFront value => arena.pushFront value |>.map (.nothing, ·)
  | .popFront => arena.popFront.map arena.popResult
  | .popBack => arena.popBack.map arena.popResult
  | .drain => arena.drain.map fun drained => (.listed drained.1, drained.2)
  | .take count => arena.entries.map fun values => (.listed (values.take count), arena)
  | .show => arena.entries.map fun values => (.text (Text.listing (values.map item)), arena)

def session (item : α → String) (arena : Arena α) :
    List (Operation α) → Except Fault (List (Result α × Arena α))
  | [] => .ok []
  | operation :: operations => do
      let step ← arena.perform item operation
      let later ← session item step.2 operations
      .ok (step :: later)

def path (link : Slot α → Option Nat) (slots : Array (Slot α)) :
    Nat → Option Nat → Option (List Nat)
  | _, none => some []
  | 0, some _ => none
  | limit + 1, some index =>
      slots[index]?.bind fun slot => (path link slots limit (link slot)).map (index :: ·)

/-- Everything that can be read off an arena is as it is for the list. -/
structure Shows (arena : Arena α) (values : List α) : Prop where
  size : arena.size = values.length
  isEmpty : arena.isEmpty = values.isEmpty
  newest : arena.newest = .ok values.head?
  oldest : arena.oldest = .ok values.getLast?
  entries : arena.entries = .ok values

/-- The two directions of links go through the same slots, all of which are occupied, and all other
slots are vacant and free once. -/
structure Sound (arena : Arena α) (indices : List Nat) : Prop where
  older : path (·.older) arena.slots arena.slots.size arena.front = some indices
  newer : path (·.newer) arena.slots arena.slots.size arena.back = some indices.reverse
  size : arena.size = indices.length
  back : arena.back = indices.getLast?
  distinct : indices.Nodup
  occupied : ∀ index ∈ indices, (arena.slots[index]?.bind (·.value)).isSome
  vacant : ∀ index ∈ arena.free, arena.slots[index]?.map (·.value.isNone) = some true
  once : arena.free.Nodup
  all : (indices ++ arena.free).Perm (List.range arena.slots.size)

structure Agrees (step : Result α × Arena α) (plain : Result α × List α) : Prop where
  result : step.1 = plain.1
  shows : step.2.Shows plain.2
  sound : ∃ indices, step.2.Sound indices

end Arena

section Linking

variable {slots : Array (Slot α)} {newer older : Option Nat} {indices : List Nat} {values : List α}
  {limit : Nat}

theorem Linked.path_older (linked : Linked slots newer indices values none)
    (enough : indices.length ≤ limit) :
    Arena.path (·.older) slots limit indices.head? = some indices := by
  induction indices generalizing newer values limit with
  | nil => cases limit <;> rfl
  | cons index indices ih =>
      cases values with
      | nil => simp [Linked] at linked
      | cons value values =>
          cases limit with
          | zero => simp at enough
          | succ limit =>
              have rest := ih linked.2 (by simpa using enough)
              simp [Arena.path, linked.1, rest]

theorem Linked.path_newer (linked : Linked slots none indices values older)
    (enough : indices.length ≤ limit) :
    Arena.path (·.newer) slots limit indices.getLast? = some indices.reverse := by
  -- From the back: what comes before the last slot ends with the slot that it links to.
  induction indices using List.reverseRecOn generalizing values older limit with
  | nil => cases limit <;> rfl
  | append_singleton indices index ih =>
      have lengths := linked.length_eq
      rcases List.eq_nil_or_concat' values with rfl | ⟨values, value, rfl⟩
      · simp at lengths
      · obtain ⟨front, last, -⟩ := (append_iff (by simpa using lengths)).mp linked
        cases limit with
        | zero => simp at enough
        | succ limit =>
            have rest := ih front (by simpa using enough)
            simp [Arena.path, last, rest]

theorem Linked.occupied (linked : Linked slots newer indices values older) {index : Nat}
    (member : index ∈ indices) : (slots[index]?.bind (·.value)).isSome := by
  induction indices generalizing newer values with
  | nil => cases member
  | cons head indices ih =>
      cases values with
      | nil => simp [Linked] at linked
      | cons value values =>
          rcases List.mem_cons.mp member with rfl | later
          · simp [linked.1]
          · exact ih linked.2 later

end Linking

namespace Arena

section Holding

variable {arena : Arena α} {indices : List Nat} {values : List α}

theorem Holds.shows (holds : arena.Holds indices values) : arena.Shows values where
  size := holds.size_eq
  isEmpty := by cases values <;> simp [isEmpty, holds.size_eq]
  newest := holds.newest
  oldest := holds.oldest
  entries := holds.entries

theorem Holds.sound (holds : arena.Holds indices values) : arena.Sound indices where
  older := by
    rw [holds.front]
    exact holds.linked.path_older
      (Nat.le_trans (Nat.le_of_eq holds.linked.length_eq) holds.length_le)
  newer := by
    rw [holds.back]
    exact holds.linked.path_newer
      (Nat.le_trans (Nat.le_of_eq holds.linked.length_eq) holds.length_le)
  size := holds.size
  back := holds.back
  distinct := (List.nodup_append.mp holds.nodup).1
  occupied := fun _ => holds.linked.occupied
  vacant := by
    intro index free
    rw [holds.vacant index free]
    rfl
  once := (List.nodup_append.mp holds.nodup).2.1
  all := holds.slots

theorem Holds.indices_cons {value : α} (holds : arena.Holds indices (value :: values)) :
    ∃ index rest, indices = index :: rest := by
  cases indices with
  | nil => exact absurd holds.linked (by simp [Linked])
  | cons index rest => exact ⟨index, rest, rfl⟩

theorem Holds.indices_append {value : α} (holds : arena.Holds indices (values ++ [value])) :
    ∃ rest index, indices = rest ++ [index] := by
  have lengths := holds.linked.length_eq
  rcases List.eq_nil_or_concat' indices with rfl | split
  · simp at lengths
  · exact split

theorem Holds.perform (holds : arena.Holds indices values) (item : α → String)
    (operation : Operation α) :
    ∃ arena' indices', arena.perform item operation =
        .ok ((plainStep item values operation).1, arena') ∧
      arena'.Holds indices' (plainStep item values operation).2 := by
  cases operation with
  | pushFront value =>
      obtain ⟨pushed, index, result, keeps⟩ := holds.pushFront value
      exact ⟨pushed, _, by simp [Arena.perform, result, Except.map, plainStep], keeps⟩
  | popFront =>
      cases values with
      | nil =>
          exact ⟨arena, _, by simp [Arena.perform, holds.popFront_nil, Except.map, popResult,
            plainStep], holds⟩
      | cons value values =>
          obtain ⟨index, rest, rfl⟩ := holds.indices_cons
          obtain ⟨popped, result, keeps⟩ := holds.popFront_cons
          exact ⟨popped, _, by simp [Arena.perform, result, Except.map, popResult, plainStep],
            keeps⟩
  | popBack =>
      rcases List.eq_nil_or_concat' values with rfl | ⟨values, value, rfl⟩
      · exact ⟨arena, _, by simp [Arena.perform, holds.popBack_nil, Except.map, popResult,
          plainStep], holds⟩
      · obtain ⟨rest, index, rfl⟩ := holds.indices_append
        obtain ⟨popped, result, keeps⟩ := holds.popBack_append
        exact ⟨popped, rest, by simp [Arena.perform, result, Except.map, popResult, plainStep],
          by simpa [plainStep] using keeps⟩
  | drain =>
      exact ⟨{}, _, by simp [Arena.perform, holds.drain, Except.map, plainStep], .empty⟩
  | take count =>
      exact ⟨arena, _, by simp [Arena.perform, holds.entries, Except.map, plainStep], holds⟩
  | «show» =>
      exact ⟨arena, _, by simp [Arena.perform, holds.entries, Except.map, plainStep], holds⟩

theorem Holds.session (holds : arena.Holds indices values) (item : α → String)
    (operations : List (Operation α)) :
    ∃ steps, arena.session item operations = .ok steps ∧
      List.Forall₂ Agrees steps (plainSession item values operations) := by
  induction operations generalizing arena indices values with
  | nil => exact ⟨[], rfl, .nil⟩
  | cons operation operations ih =>
      obtain ⟨arena', indices', performed, keeps⟩ := holds.perform item operation
      obtain ⟨later, rest, agree⟩ := ih keeps
      refine ⟨((plainStep item values operation).1, arena') :: later, ?_, ?_⟩
      · simp [Arena.session, performed, rest, bind, Except.bind]
      · exact .cons ⟨rfl, keeps.shows, indices', keeps.sound⟩ agree

end Holding

end Arena

namespace Shelf

theorem perform_arena (shelf : Shelf α) (item : α → String) (operation : Operation α) :
    shelf.arena.perform item operation =
      .ok ((shelf.apply item operation).1, (shelf.apply item operation).2.arena) := by
  obtain ⟨indices, holds⟩ := shelf.holds_toList
  obtain ⟨arena', -, performed, -⟩ := holds.perform item operation
  cases operation with
  | pushFront value =>
      simp only [Arena.perform, apply, pushFront] at performed ⊢
      split
      · rename_i result
        simp [result, Except.map]
      · rename_i result
        simp [result, Except.map] at performed
  | popFront =>
      simp only [Arena.perform, apply, popFront] at performed ⊢
      split
      · rename_i result
        simp [result, Except.map, Arena.popResult, popResult]
      · rename_i result
        simp [result, Except.map, Arena.popResult, popResult]
      · rename_i result
        simp [result, Except.map] at performed
  | popBack =>
      simp only [Arena.perform, apply, popBack] at performed ⊢
      split
      · rename_i result
        simp [result, Except.map, Arena.popResult, popResult]
      · rename_i result
        simp [result, Except.map, Arena.popResult, popResult]
      · rename_i result
        simp [result, Except.map] at performed
  | drain => simp [Arena.perform, apply, holds.drain, Except.map, empty]
  | take count => simp [Arena.perform, apply, holds.entries, Except.map]
  | «show» => simp [Arena.perform, apply, holds.entries, Except.map]

theorem session_arena (shelf : Shelf α) (item : α → String) (operations : List (Operation α)) :
    shelf.arena.session item operations =
      .ok ((shelf.session item operations).map fun step => (step.1, step.2.arena)) := by
  induction operations generalizing shelf with
  | nil => rfl
  | cons operation operations ih =>
      simp only [Arena.session, perform_arena, bind, Except.bind, ih, session, List.map_cons]

end Shelf

/-- In every session that starts with an empty arena no operation faults. Each result is the one
that a plain list gives, and after each operation the arena shows that list and has sound links. The
session of shelves goes through the same results and arenas. -/
theorem session_refines_list (item : α → String) (operations : List (Operation α)) :
    ∃ steps, Arena.session item {} operations = .ok steps ∧
      List.Forall₂ Arena.Agrees steps (plainSession item [] operations) ∧
      (Shelf.session item .empty operations).map (fun step => (step.1, step.2.arena)) = steps := by
  obtain ⟨steps, performed, agree⟩ :=
    (Arena.Holds.empty : ({} : Arena α).Holds [] []).session item operations
  refine ⟨steps, performed, agree, ?_⟩
  have alike := (Shelf.empty : Shelf α).session_arena item operations
  exact Except.ok.inj (alike.symm.trans performed)

end HandlePool.Idle
