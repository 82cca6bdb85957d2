import HandlePool.Proofs.Sequence
import Mathlib.Data.List.DropRight

namespace HandlePool.Idle

universe u

variable {α : Type u}

def Operation.isDrain : Operation α → Bool
  | .drain => true
  | _ => false

/-- The most entries that an arena held at once since it was new or last drained, where the history
has each operation with the arena that it left. -/
def highWater (history : List (Operation α × Arena α)) : Nat :=
  ((history.rtakeWhile fun entry => !entry.1.isDrain).map (·.2.size)).foldl max 0

theorem highWater_concat (history : List (Operation α × Arena α)) (operation : Operation α)
    (left : Arena α) :
    highWater (history ++ [(operation, left)]) =
      if operation.isDrain then 0 else max (highWater history) left.size := by
  unfold highWater
  rw [List.rtakeWhile_concat]
  cases operation.isDrain with
  | true => rfl
  | false => simp [List.foldl_append]

namespace Arena

structure Tight (history : List (Operation α × Arena α)) (operation : Operation α)
    (left : Arena α) : Prop where
  slots : left.slots.size = highWater (history ++ [(operation, left)])
  free : left.size + left.free.length = left.slots.size
  drained : operation = .drain → left = {}

variable {arena left : Arena α} {indices : List Nat} {values : List α} {value : α}
  {operation : Operation α} {result : Result α} {history : List (Operation α × Arena α)}

section Faultless

variable {β γ : Type u} {first : Except Fault β} {later : β → Except Fault γ} {change : β → γ}
  {outcome : γ}

theorem ok_of_bind (done : first >>= later = .ok outcome) :
    ∃ middle, first = .ok middle ∧ later middle = .ok outcome := by
  cases first with
  | error fault => cases done
  | ok middle => exact ⟨middle, rfl, done⟩

theorem ok_of_map (done : first.map change = .ok outcome) :
    ∃ middle, first = .ok middle ∧ change middle = outcome := by
  cases first with
  | error fault => cases done
  | ok middle => exact ⟨middle, rfl, Except.ok.inj done⟩

end Faultless

theorem size_of_amend {slots amended : Array (Slot α)} {index : Nat} {change : Slot α → Slot α}
    (done : amend slots index change = .ok amended) : amended.size = slots.size := by
  obtain ⟨slot, -, rfl⟩ := ok_of_map done
  exact Array.size_setIfInBounds

theorem slots_of_vacate {index : Nat} (vacated : arena.vacate index = .ok (value, left)) :
    left.slots.size = arena.slots.size := by
  obtain ⟨slot, -, freed⟩ := ok_of_bind vacated
  split at freed <;> cases freed
  exact Array.size_setIfInBounds

theorem slots_of_taken {index : Nat}
    (taken : (arena.vacate index).map some = .ok (some (value, left))) :
    left.slots.size = arena.slots.size := by
  obtain ⟨⟨given, freed⟩, vacated, same⟩ := ok_of_map taken
  cases same
  exact slots_of_vacate vacated

theorem slots_of_unlinked {index next : Nat} {change : Slot α → Slot α}
    {rest : Array (Slot α) → Arena α} (kept : ∀ slots, (rest slots).slots = slots)
    (unlinked : (amend arena.slots next change >>= fun slots =>
      ((rest slots).vacate index).map some) = .ok (some (value, left))) :
    left.slots.size = arena.slots.size := by
  obtain ⟨amended, done, taken⟩ := ok_of_bind unlinked
  rw [slots_of_taken taken, kept]
  exact size_of_amend done

theorem slots_of_occupy {slot : Slot α} {index : Nat} {slots : Array (Slot α)} {free : List Nat}
    (occupied : arena.occupy slot = .ok (index, slots, free)) :
    slots.size = if arena.free = [] then arena.slots.size + 1 else arena.slots.size := by
  unfold occupy at occupied
  split at occupied
  · rename_i stack
    obtain ⟨amended, done, same⟩ := ok_of_map occupied
    cases same
    rw [size_of_amend done, stack, if_neg (List.cons_ne_nil _ _)]
  · rename_i stack
    cases occupied
    rw [stack, if_pos rfl, Array.size_push]

theorem slots_of_pushFront (pushed : arena.pushFront value = .ok left) :
    left.slots.size = if arena.free = [] then arena.slots.size + 1 else arena.slots.size := by
  obtain ⟨⟨index, slots, free⟩, occupied, linked⟩ := ok_of_bind pushed
  rw [← slots_of_occupy occupied]
  dsimp only at linked
  split at linked
  · obtain ⟨amended, done, same⟩ := ok_of_bind linked
    cases same
    exact size_of_amend done
  · cases linked
    rfl

theorem slots_of_popFront (popped : arena.popFront = .ok (some (value, left))) :
    left.slots.size = arena.slots.size := by
  unfold popFront at popped
  split at popped
  · cases popped
  · obtain ⟨slot, -, unlinked⟩ := ok_of_bind popped
    split at unlinked
    · exact slots_of_unlinked (fun _ => rfl) unlinked
    · exact (slots_of_taken unlinked).trans rfl

theorem slots_of_popBack (popped : arena.popBack = .ok (some (value, left))) :
    left.slots.size = arena.slots.size := by
  unfold popBack at popped
  split at popped
  · cases popped
  · obtain ⟨slot, -, unlinked⟩ := ok_of_bind popped
    split at unlinked
    · exact slots_of_unlinked (fun _ => rfl) unlinked
    · exact (slots_of_taken unlinked).trans rfl

theorem slots_of_popResult {taken : Option (α × Arena α)}
    (same : arena.popResult taken = (result, left))
    (kept : ∀ value rest, taken = some (value, rest) → rest.slots.size = arena.slots.size) :
    left.slots.size = arena.slots.size := by
  cases taken with
  | none =>
      cases same
      rfl
  | some entry =>
      cases same
      exact kept entry.1 entry.2 rfl

section Holding

variable (holds : arena.Holds indices values)

include holds

theorem Holds.size_add_free : arena.size + arena.free.length = arena.slots.size := by
  have same := holds.slots.length_eq
  rwa [List.length_append, List.length_range, ← holds.size] at same

theorem Holds.slots_of_perform {item : α → String} {indices' : List Nat}
    (performed : arena.perform item operation = .ok (result, left))
    (keeps : left.Holds indices' (plainStep item values operation).2) :
    left.slots.size = if operation.isDrain then 0 else max arena.slots.size left.size := by
  have before := holds.size_add_free
  have after := keeps.size_add_free
  -- Where no slot is made there are enough for what is left.
  have still (kept : left.slots.size = arena.slots.size) :
      left.slots.size = max arena.slots.size left.size := by
    omega
  cases operation with
  | pushFront value =>
      obtain ⟨pushed, done, same⟩ := ok_of_map performed
      cases same
      have made := slots_of_pushFront done
      have one : left.size = arena.size + 1 := by
        rw [keeps.size_eq, holds.size_eq]
        rfl
      show left.slots.size = max arena.slots.size left.size
      split at made
      · rename_i full
        rw [full, List.length_nil] at before
        omega
      · exact still made
  | popFront =>
      obtain ⟨taken, done, same⟩ := ok_of_map performed
      apply still
      apply slots_of_popResult same
      rintro value rest rfl
      exact slots_of_popFront done
  | popBack =>
      obtain ⟨taken, done, same⟩ := ok_of_map performed
      apply still
      apply slots_of_popResult same
      rintro value rest rfl
      exact slots_of_popBack done
  | drain =>
      obtain ⟨drained, done, same⟩ := ok_of_map performed
      rw [holds.drain] at done
      cases done
      cases same
      rfl
  | take count =>
      obtain ⟨entries, -, same⟩ := ok_of_map performed
      cases same
      exact still rfl
  | «show» =>
      obtain ⟨entries, -, same⟩ := ok_of_map performed
      cases same
      exact still rfl

theorem Holds.tight {item : α → String} {indices' : List Nat}
    (full : arena.slots.size = highWater history)
    (performed : arena.perform item operation = .ok (result, left))
    (keeps : left.Holds indices' (plainStep item values operation).2) :
    Tight history operation left := by
  refine ⟨?_, keeps.size_add_free, ?_⟩
  · rw [highWater_concat, ← full]
    exact holds.slots_of_perform performed keeps
  · rintro rfl
    obtain ⟨drained, done, same⟩ := ok_of_map performed
    rw [holds.drain] at done
    cases done
    exact (congrArg Prod.snd same).symm

theorem Holds.tight_session (full : arena.slots.size = highWater history) (item : α → String)
    (operations : List (Operation α)) :
    ∃ steps, arena.session item operations = .ok steps ∧ steps.length = operations.length ∧
      ∀ past operation left, past ++ [(operation, left)] <+: operations.zip (steps.map (·.2)) →
        Tight (history ++ past) operation left := by
  induction operations generalizing arena indices values history with
  | nil => exact ⟨[], rfl, rfl, by simp⟩
  | cons operation operations ih =>
      obtain ⟨next, indices', performed, keeps⟩ := holds.perform item operation
      have tight := holds.tight full performed keeps
      obtain ⟨later, rest, length, tights⟩ := ih keeps tight.slots
      refine ⟨((plainStep item values operation).1, next) :: later, ?_, by simp [length], ?_⟩
      · simp [Arena.session, performed, rest, bind, Except.bind]
      · intro past done left begins
        cases past with
        | nil =>
            obtain ⟨same, -⟩ := List.cons_prefix_cons.mp begins
            cases same
            rw [List.append_nil]
            exact tight
        | cons first past =>
            obtain ⟨rfl, follows⟩ := List.cons_prefix_cons.mp begins
            have held := tights past done left follows
            rwa [List.append_assoc] at held

end Holding

end Arena

/-- In every session that starts with an empty arena, the session of shelves among them, each
operation leaves just as many slots as the arena held entries at once since it was new or last
drained. All that are not in use are free, and a drained arena is as good as new. -/
theorem slots_at_highWater (item : α → String) (operations : List (Operation α)) :
    ∃ steps, Arena.session item {} operations = .ok steps ∧
      (Shelf.session item .empty operations).map (fun step => (step.1, step.2.arena)) = steps ∧
      steps.length = operations.length ∧
      ∀ past operation left, past ++ [(operation, left)] <+: operations.zip (steps.map (·.2)) →
        Arena.Tight past operation left := by
  have full : ({} : Arena α).slots.size =
      highWater ([] : List (Operation α × Arena α)) := rfl
  obtain ⟨steps, performed, length, tight⟩ := Arena.Holds.empty.tight_session full item operations
  have alike := (Shelf.empty : Shelf α).session_arena item operations
  exact ⟨steps, performed, Except.ok.inj (alike.symm.trans performed), length, tight⟩

def reused : List (Operation Nat) :=
  [.pushFront 1, .pushFront 2, .popBack, .pushFront 3, .popFront, .popFront, .pushFront 4, .drain,
   .pushFront 5]

def reusing : List (Operation Nat × Arena Nat) :=
  reused.zip ((Shelf.session toString .empty reused).map (·.2.arena))

theorem slots_at_highWater_reused :
    ∃ past left, past ++ [(.pushFront 4, left)] <+: reusing ∧
      past.map (·.2.size) = [1, 2, 1, 2, 1, 0] ∧ left.slots.size = 2 ∧ left.free = [0] ∧
      Arena.Tight past (.pushFront 4) left := by
  obtain ⟨steps, -, same, -, tight⟩ := slots_at_highWater toString reused
  have history : reused.zip (steps.map (·.2)) = reusing := by
    rw [← same, List.map_map]
    rfl
  rw [history] at tight
  refine ⟨reusing.take 6, (reusing.map (·.2)).getD 6 {}, ?begins, rfl, rfl, rfl, tight _ _ _ ?begins⟩
  exact ⟨reusing.drop 7, rfl⟩

end HandlePool.Idle
