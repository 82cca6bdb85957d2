import HandlePool.Idle.Linked

namespace HandlePool.Idle

universe u

structure Shelf (α : Type u) where
  arena : Arena α
  sound : ∃ indices values, arena.Holds indices values

namespace Shelf

variable {α : Type u}

def empty : Shelf α := ⟨{}, [], [], .empty⟩

instance : Inhabited (Shelf α) := ⟨empty⟩

def toList (shelf : Shelf α) : List α :=
  match shelf.arena.entries with
  | .ok values => values
  | .error _ => []

def size (shelf : Shelf α) : Nat := shelf.arena.size

def isEmpty (shelf : Shelf α) : Bool := shelf.arena.isEmpty

def newest? (shelf : Shelf α) : Option α :=
  match shelf.arena.newest with
  | .ok value => value
  | .error _ => none

def oldest? (shelf : Shelf α) : Option α :=
  match shelf.arena.oldest with
  | .ok value => value
  | .error _ => none

theorem holds_toList (shelf : Shelf α) : ∃ indices, shelf.arena.Holds indices shelf.toList := by
  obtain ⟨arena, indices, values, holds⟩ := shelf
  exact ⟨indices, by simpa [toList, holds.entries] using holds⟩

theorem toList_eq {shelf : Shelf α} {indices : List Nat} {values : List α}
    (holds : shelf.arena.Holds indices values) : shelf.toList = values := by
  simp [toList, holds.entries]

theorem size_eq (shelf : Shelf α) : shelf.size = shelf.toList.length := by
  obtain ⟨_, holds⟩ := shelf.holds_toList
  exact holds.size_eq

theorem isEmpty_iff (shelf : Shelf α) : shelf.isEmpty = true ↔ shelf.toList = [] := by
  simp [isEmpty, Arena.isEmpty, ← List.length_eq_zero_iff, ← size_eq, size]

theorem newest?_eq (shelf : Shelf α) : shelf.newest? = shelf.toList.head? := by
  obtain ⟨_, holds⟩ := shelf.holds_toList
  simp [newest?, holds.newest]

theorem oldest?_eq (shelf : Shelf α) : shelf.oldest? = shelf.toList.getLast? := by
  obtain ⟨_, holds⟩ := shelf.holds_toList
  simp [oldest?, holds.oldest]

@[simp] theorem toList_empty : (empty : Shelf α).toList = [] := rfl

theorem sound_pushFront {arena pushed : Arena α} {value : α}
    (sound : ∃ indices values, arena.Holds indices values)
    (result : arena.pushFront value = .ok pushed) :
    ∃ indices values, pushed.Holds indices values := by
  obtain ⟨indices, values, holds⟩ := sound
  obtain ⟨pushed', index, same, keeps⟩ := holds.pushFront value
  rw [same] at result
  cases result
  exact ⟨_, _, keeps⟩

theorem sound_popFront {arena popped : Arena α} {value : α}
    (sound : ∃ indices values, arena.Holds indices values)
    (result : arena.popFront = .ok (some (value, popped))) :
    ∃ indices values, popped.Holds indices values := by
  obtain ⟨indices, values, holds⟩ := sound
  cases values with
  | nil => simp [holds.popFront_nil] at result
  | cons newest values =>
      cases indices with
      | nil => exact absurd holds.linked (by simp [Linked])
      | cons index indices =>
          obtain ⟨popped', same, keeps⟩ := holds.popFront_cons
          rw [same] at result
          cases result
          exact ⟨_, _, keeps⟩

theorem sound_popBack {arena popped : Arena α} {value : α}
    (sound : ∃ indices values, arena.Holds indices values)
    (result : arena.popBack = .ok (some (value, popped))) :
    ∃ indices values, popped.Holds indices values := by
  obtain ⟨indices, values, holds⟩ := sound
  have lengths := holds.linked.length_eq
  rcases List.eq_nil_or_concat values with rfl | ⟨values, oldest, rfl⟩
  · simp [holds.popBack_nil] at result
  · rcases List.eq_nil_or_concat indices with rfl | ⟨indices, index, rfl⟩
    · simp at lengths
    · simp only [List.concat_eq_append] at *
      obtain ⟨popped', same, keeps⟩ := holds.popBack_append
      rw [same] at result
      cases result
      exact ⟨_, _, keeps⟩

def pushFront (shelf : Shelf α) (value : α) : Shelf α :=
  match result : shelf.arena.pushFront value with
  | .ok arena => ⟨arena, sound_pushFront shelf.sound result⟩
  | .error _ => shelf

def popFront (shelf : Shelf α) : Option (α × Shelf α) :=
  match result : shelf.arena.popFront with
  | .ok (some (value, arena)) => some (value, ⟨arena, sound_popFront shelf.sound result⟩)
  | .ok none | .error _ => none

def popBack (shelf : Shelf α) : Option (α × Shelf α) :=
  match result : shelf.arena.popBack with
  | .ok (some (value, arena)) => some (value, ⟨arena, sound_popBack shelf.sound result⟩)
  | .ok none | .error _ => none

def drain (shelf : Shelf α) : List α × Shelf α :=
  match shelf.arena.drain with
  | .ok (values, _) => (values, empty)
  | .error _ => ([], shelf)

@[simp] theorem toList_pushFront (shelf : Shelf α) (value : α) :
    (shelf.pushFront value).toList = value :: shelf.toList := by
  obtain ⟨indices, holds⟩ := shelf.holds_toList
  obtain ⟨pushed, index, same, keeps⟩ := holds.pushFront value
  unfold pushFront
  split
  · rename_i arena result
    rw [same] at result
    cases result
    exact toList_eq keeps
  · rename_i result
    simp [same] at result

theorem popFront_of_nil {shelf : Shelf α} (none_left : shelf.toList = []) :
    shelf.popFront = none := by
  obtain ⟨indices, holds⟩ := shelf.holds_toList
  rw [none_left] at holds
  have same := holds.popFront_nil
  unfold popFront
  split <;> simp_all

theorem popFront_of_cons {shelf : Shelf α} {value : α} {values : List α}
    (front : shelf.toList = value :: values) :
    ∃ rest, shelf.popFront = some (value, rest) ∧ rest.toList = values := by
  obtain ⟨indices, holds⟩ := shelf.holds_toList
  rw [front] at holds
  cases indices with
  | nil => exact absurd holds.linked (by simp [Linked])
  | cons index indices =>
      obtain ⟨popped, same, keeps⟩ := holds.popFront_cons
      unfold popFront
      split
      · rename_i newest arena result
        rw [same] at result
        cases result
        exact ⟨_, rfl, toList_eq keeps⟩
      · rename_i result
        simp [same] at result
      · rename_i result
        simp [same] at result

theorem popBack_of_nil {shelf : Shelf α} (none_left : shelf.toList = []) :
    shelf.popBack = none := by
  obtain ⟨indices, holds⟩ := shelf.holds_toList
  rw [none_left] at holds
  have same := holds.popBack_nil
  unfold popBack
  split <;> simp_all

theorem popBack_of_append {shelf : Shelf α} {value : α} {values : List α}
    (back : shelf.toList = values ++ [value]) :
    ∃ rest, shelf.popBack = some (value, rest) ∧ rest.toList = values := by
  obtain ⟨indices, holds⟩ := shelf.holds_toList
  rw [back] at holds
  have lengths := holds.linked.length_eq
  rcases List.eq_nil_or_concat indices with rfl | ⟨indices, index, rfl⟩
  · simp at lengths
  · simp only [List.concat_eq_append] at *
    obtain ⟨popped, same, keeps⟩ := holds.popBack_append
    unfold popBack
    split
    · rename_i oldest arena result
      rw [same] at result
      cases result
      exact ⟨_, rfl, toList_eq keeps⟩
    · rename_i result
      simp [same] at result
    · rename_i result
      simp [same] at result

theorem popFront_size {shelf rest : Shelf α} {value : α}
    (popped : shelf.popFront = some (value, rest)) : rest.size + 1 = shelf.size := by
  cases values : shelf.toList with
  | nil => simp [popFront_of_nil values] at popped
  | cons newest older =>
      obtain ⟨rest', same, keeps⟩ := popFront_of_cons values
      rw [same] at popped
      cases popped
      simp [size_eq, values, keeps]

theorem popBack_size {shelf rest : Shelf α} {value : α}
    (popped : shelf.popBack = some (value, rest)) : rest.size + 1 = shelf.size := by
  rcases List.eq_nil_or_concat shelf.toList with values | ⟨newer, oldest, values⟩
  · simp [popBack_of_nil values] at popped
  · simp only [List.concat_eq_append] at values
    obtain ⟨rest', same, keeps⟩ := popBack_of_append values
    rw [same] at popped
    cases popped
    simp [size_eq, values, keeps]

@[simp] theorem drain_eq (shelf : Shelf α) : shelf.drain = (shelf.toList, empty) := by
  obtain ⟨indices, holds⟩ := shelf.holds_toList
  simp [drain, holds.drain]

end Shelf

end HandlePool.Idle
