import HandlePool.Idle.Arena

namespace HandlePool.Idle

universe u

variable {α : Type u}

/-- The slots at the given indices hold the given values and link to each other in this order,
between two outer neighbours. -/
def Linked (slots : Array (Slot α)) :
    Option Nat → List Nat → List α → Option Nat → Prop
  | _, [], [], _ => True
  | newer, index :: indices, value :: values, older =>
      slots[index]? = some ⟨some value, newer, indices.head?.or older⟩ ∧
        Linked slots (some index) indices values older
  | _, _, _, _ => False

namespace Linked

variable {slots : Array (Slot α)} {newer older : Option Nat} {indices : List Nat} {values : List α}

theorem length_eq (linked : Linked slots newer indices values older) :
    indices.length = values.length := by
  induction indices generalizing newer values with
  | nil => cases values <;> simp_all [Linked]
  | cons index indices ih =>
      cases values with
      | nil => simp [Linked] at linked
      | cons value values => simpa using ih linked.2

theorem setIfInBounds (linked : Linked slots newer indices values older) {index : Nat}
    (outside : index ∉ indices) (slot : Slot α) :
    Linked (slots.setIfInBounds index slot) newer indices values older := by
  induction indices generalizing newer values with
  | nil => cases values <;> simp_all [Linked]
  | cons head indices ih =>
      cases values with
      | nil => simp [Linked] at linked
      | cons value values =>
          rw [List.mem_cons, not_or] at outside
          refine ⟨?_, ih linked.2 outside.2⟩
          rw [Array.getElem?_setIfInBounds_ne outside.1]
          exact linked.1

theorem push (linked : Linked slots newer indices values older) (slot : Slot α) :
    Linked (slots.push slot) newer indices values older := by
  induction indices generalizing newer values with
  | nil => cases values <;> simp_all [Linked]
  | cons head indices ih =>
      cases values with
      | nil => simp [Linked] at linked
      | cons value values =>
          refine ⟨?_, ih linked.2⟩
          have inside := (Array.getElem?_eq_some_iff.mp linked.1).1
          rw [Array.getElem?_push_lt inside, ← Array.getElem?_eq_getElem inside]
          exact linked.1

theorem append_iff {front back : List Nat} {newest oldest : List α}
    (sameLength : front.length = newest.length) :
    Linked slots newer (front ++ back) (newest ++ oldest) older ↔
      Linked slots newer front newest (back.head?.or older) ∧
        Linked slots (front.getLast?.or newer) back oldest older := by
  induction front generalizing newer newest with
  | nil =>
      cases newest with
      | nil => simp [Linked]
      | cons => simp at sameLength
  | cons index front ih =>
      cases newest with
      | nil => simp at sameLength
      | cons value newest =>
          have lengths : front.length = newest.length := by simpa using sameLength
          simp only [List.cons_append, Linked, ih lengths, and_assoc]
          cases front with
          | nil => simp
          | cons next front => simp [List.getLast?_cons]

end Linked

/-- The arena holds the values in the slots at the indices, front to back, and every other slot is
vacant and free exactly once. -/
structure Arena.Holds (arena : Arena α) (indices : List Nat) (values : List α) : Prop where
  linked : Linked arena.slots none indices values none
  front : arena.front = indices.head?
  back : arena.back = indices.getLast?
  size : arena.size = indices.length
  vacant : ∀ index ∈ arena.free, arena.slots[index]? = some {}
  slots : (indices ++ arena.free).Perm (List.range arena.slots.size)

theorem Arena.slotAt_eq {slots : Array (Slot α)} {index : Nat} {slot : Slot α}
    (found : slots[index]? = some slot) : Arena.slotAt slots index = .ok slot := by
  simp [slotAt, found]

theorem Arena.amend_eq {slots : Array (Slot α)} {index : Nat} {slot : Slot α}
    (found : slots[index]? = some slot) (change : Slot α → Slot α) :
    amend slots index change = .ok (slots.setIfInBounds index (change slot)) := by
  simp [amend, slotAt_eq found, Except.map]

theorem Arena.vacate_eq {arena : Arena α} {index : Nat} {slot : Slot α} {value : α} {size : Nat}
    (found : arena.slots[index]? = some slot) (held : slot.value = some value)
    (counted : arena.size = size + 1) :
    arena.vacate index = .ok (value, { arena with
      slots := arena.slots.setIfInBounds index {}, free := index :: arena.free, size }) := by
  simp [vacate, slotAt_eq found, bind, Except.bind, held, counted]

namespace Arena.Holds

variable {arena : Arena α} {indices : List Nat} {values : List α}

theorem size_eq (holds : arena.Holds indices values) : arena.size = values.length :=
  holds.size.trans holds.linked.length_eq

theorem nodup (holds : arena.Holds indices values) : (indices ++ arena.free).Nodup :=
  holds.slots.nodup_iff.mpr List.nodup_range

theorem inside (holds : arena.Holds indices values) {index : Nat}
    (member : index ∈ indices ++ arena.free) : index < arena.slots.size := by
  simpa using holds.slots.mem_iff.mp member

theorem empty : Holds ({} : Arena α) [] [] where
  linked := trivial
  front := rfl
  back := rfl
  size := rfl
  vacant := by simp
  slots := .refl _

theorem occupy (holds : arena.Holds indices values) (slot : Slot α) :
    ∃ index slots free, arena.occupy slot = .ok (index, slots, free) ∧
      slots[index]? = some slot ∧ Linked slots none indices values none ∧
      (∀ other ∈ free, slots[other]? = some {}) ∧
      (index :: indices ++ free).Perm (List.range slots.size) := by
  have distinct := holds.nodup
  unfold Arena.occupy
  cases stack : arena.free with
  | nil =>
      refine ⟨_, _, _, rfl, by simp, holds.linked.push slot, by simp, ?_⟩
      rw [Array.size_push, List.range_succ]
      have same := holds.slots
      rw [stack, List.append_nil] at same
      simpa using (same.cons arena.slots.size).trans (List.perm_append_singleton _ _).symm
  | cons index free =>
      rw [stack] at distinct
      have unused : index ∉ indices := fun member =>
        (List.nodup_append.mp distinct).2.2 _ member _ List.mem_cons_self rfl
      have unlisted : index ∉ free :=
        (List.nodup_cons.mp (List.nodup_append.mp distinct).2.1).1
      have inside : index < arena.slots.size := holds.inside (by simp [stack])
      refine ⟨index, arena.slots.setIfInBounds index slot, free, ?_, ?_, ?_, ?_, ?_⟩
      · simp [amend_eq (holds.vacant index (by simp [stack])), Except.map]
      · simp [inside]
      · exact holds.linked.setIfInBounds unused slot
      · intro other member
        have different : index ≠ other := fun same => unlisted (same ▸ member)
        rw [Array.getElem?_setIfInBounds_ne different]
        exact holds.vacant other (by simp [stack, member])
      · rw [Array.size_setIfInBounds]
        have same := holds.slots
        rw [stack] at same
        exact List.perm_middle.symm.trans same

theorem pushFront (holds : arena.Holds indices values) (value : α) :
    ∃ arena' index, arena.pushFront value = .ok arena' ∧
      arena'.Holds (index :: indices) (value :: values) := by
  obtain ⟨index, slots, free, occupied, placed, linked, vacant, perm⟩ :=
    holds.occupy { value := some value, older := arena.front }
  have distinct : (index :: indices ++ free).Nodup := perm.nodup_iff.mpr List.nodup_range
  have unused : index ∉ indices := by
    intro member
    simp [member] at distinct
  simp only [Arena.pushFront, occupied, bind, Except.bind]
  cases indices with
  | nil =>
      cases values with
      | cons => simp [Linked] at linked
      | nil =>
          have absent : arena.front = none := holds.front
          rw [absent] at placed ⊢
          refine ⟨_, index, rfl, ⟨⟨by simpa using placed, trivial⟩, rfl, rfl, ?_, vacant, perm⟩⟩
          simp [holds.size]
  | cons head indices =>
      cases values with
      | nil => simp [Linked] at linked
      | cons newest values =>
          have present : arena.front = some head := holds.front
          rw [present] at placed ⊢
          rw [List.mem_cons, not_or] at unused
          have headUnlisted : head ∉ indices ∧ head ∉ free := by
            simp only [List.cons_append, List.nodup_cons, List.mem_cons, List.mem_append,
              not_or] at distinct
            exact distinct.2.1
          simp only [amend_eq linked.1]
          refine ⟨_, index, rfl, ?_, rfl, ?_, ?_, ?_, ?_⟩
          · refine ⟨?_, ?_, linked.2.setIfInBounds headUnlisted.1 _⟩
            · rw [Array.getElem?_setIfInBounds_ne (Ne.symm unused.1)]
              simpa using placed
            · have inside := (Array.getElem?_eq_some_iff.mp linked.1).1
              simp [inside]
          · rw [holds.back, List.getLast?_cons_cons]
          · simp [holds.size]
          · intro other member
            have different : head ≠ other := fun same => headUnlisted.2 (same ▸ member)
            rw [Array.getElem?_setIfInBounds_ne different]
            exact vacant other member
          · simpa using perm

theorem vacate (arena : Arena α) (indices : List Nat) (values : List α) {index : Nat}
    {slot : Slot α} {value : α} (linked : Linked arena.slots none indices values none)
    (front : arena.front = indices.head?) (back : arena.back = indices.getLast?)
    (counted : arena.size = indices.length + 1)
    (found : arena.slots[index]? = some slot) (held : slot.value = some value)
    (vacant : ∀ other ∈ arena.free, arena.slots[other]? = some {})
    (slots : (indices ++ index :: arena.free).Perm (List.range arena.slots.size)) :
    ∃ arena', arena.vacate index = .ok (value, arena') ∧ arena'.Holds indices values := by
  have distinct : (indices ++ index :: arena.free).Nodup :=
    slots.nodup_iff.mpr List.nodup_range
  have unused : index ∉ indices := fun member =>
    (List.nodup_append.mp distinct).2.2 _ member _ List.mem_cons_self rfl
  have inside : index < arena.slots.size := (Array.getElem?_eq_some_iff.mp found).1
  refine ⟨_, vacate_eq found held counted,
    ⟨linked.setIfInBounds unused _, front, back, rfl, ?_, by simpa using slots⟩⟩
  intro other member
  by_cases same : index = other
  · simp [← same, inside]
  · rw [Array.getElem?_setIfInBounds_ne same]
    exact vacant other ((List.mem_cons.mp member).resolve_left (Ne.symm same))

theorem popFront_nil (holds : arena.Holds indices []) : arena.popFront = .ok none := by
  have unlinked : indices = [] := List.eq_nil_of_length_eq_zero holds.linked.length_eq
  have absent : arena.front = none := by rw [holds.front, unlinked]; rfl
  simp [Arena.popFront, absent]

theorem popFront_cons {index : Nat} {value : α}
    (holds : arena.Holds (index :: indices) (value :: values)) :
    ∃ arena', arena.popFront = .ok (some (value, arena')) ∧ arena'.Holds indices values := by
  have present : arena.front = some index := holds.front
  have counted : arena.size = indices.length + 1 := by simpa using holds.size
  have moved : (indices ++ index :: arena.free).Perm (List.range arena.slots.size) :=
    List.perm_middle.trans (by simpa using holds.slots)
  have linked := holds.linked.2
  simp only [Arena.popFront, present, slotAt_eq holds.linked.1, bind, Except.bind]
  cases indices with
  | nil =>
      cases values with
      | cons => simp [Linked] at linked
      | nil =>
          obtain ⟨arena', vacated, rest⟩ := vacate { arena with front := none, back := none } [] []
            trivial rfl rfl counted holds.linked.1 rfl holds.vacant moved
          exact ⟨arena', by simp [vacated, Except.map], rest⟩
  | cons next indices =>
      cases values with
      | nil => simp [Linked] at linked
      | cons newest values =>
          have distinct : (next :: indices ++ index :: arena.free).Nodup :=
            moved.nodup_iff.mpr List.nodup_range
          simp only [List.cons_append, List.nodup_cons, List.mem_append, List.mem_cons,
            not_or] at distinct
          have inside : next < arena.slots.size := (Array.getElem?_eq_some_iff.mp linked.1).1
          obtain ⟨arena', vacated, rest⟩ := vacate
            { arena with
              slots := arena.slots.setIfInBounds next ⟨some newest, none, indices.head?.or none⟩
              front := some next }
            (next :: indices) (newest :: values)
            ⟨by simp [inside], linked.2.setIfInBounds distinct.1.1 _⟩ rfl
            (by rw [holds.back, List.getLast?_cons_cons]) counted
            (by rw [Array.getElem?_setIfInBounds_ne distinct.1.2.1]; exact holds.linked.1) rfl
            (fun other member => by
              have different : next ≠ other := fun same =>
                distinct.1.2.2 (by simpa [same] using member)
              rw [Array.getElem?_setIfInBounds_ne different]
              exact holds.vacant other member)
            (by simpa using moved)
          refine ⟨arena', ?_, rest⟩
          simp only [List.head?_cons, Option.some_or, amend_eq linked.1, vacated, Except.map]

theorem popBack_nil (holds : arena.Holds indices []) : arena.popBack = .ok none := by
  have unlinked : indices = [] := List.eq_nil_of_length_eq_zero holds.linked.length_eq
  have absent : arena.back = none := by rw [holds.back, unlinked]; rfl
  simp [Arena.popBack, absent]

theorem popBack_append {index : Nat} {value : α}
    (holds : arena.Holds (indices ++ [index]) (values ++ [value])) :
    ∃ arena', arena.popBack = .ok (some (value, arena')) ∧ arena'.Holds indices values := by
  have present : arena.back = some index := by simpa using holds.back
  have counted : arena.size = indices.length + 1 := by simpa using holds.size
  have moved : (indices ++ index :: arena.free).Perm (List.range arena.slots.size) := by
    simpa using holds.slots
  have lengths : indices.length = values.length := by simpa using holds.linked.length_eq
  obtain ⟨linked, last, -⟩ := (Linked.append_iff lengths).mp holds.linked
  simp only [List.head?_cons, List.head?_nil, Option.or_none] at linked last
  simp only [Arena.popBack, present, slotAt_eq last, bind, Except.bind]
  rcases List.eq_nil_or_concat indices with rfl | ⟨indices, next, rfl⟩
  · have lone : values = [] := List.eq_nil_of_length_eq_zero lengths.symm
    subst lone
    obtain ⟨arena', vacated, rest⟩ := vacate { arena with front := none, back := none } [] []
      trivial rfl rfl counted last rfl holds.vacant moved
    exact ⟨arena', by simp [vacated, Except.map], rest⟩
  · rcases List.eq_nil_or_concat values with rfl | ⟨values, oldest, rfl⟩
    · simp at lengths
    · simp only [List.concat_eq_append] at *
      have distinct : (indices ++ [next] ++ index :: arena.free).Nodup :=
        moved.nodup_iff.mpr List.nodup_range
      simp only [List.append_assoc, List.cons_append, List.nil_append, List.nodup_append,
        List.nodup_cons, List.mem_cons, not_or] at distinct
      have shorter : indices.length = values.length := by simpa using lengths
      obtain ⟨kept, nextFound, -⟩ := (Linked.append_iff shorter).mp linked
      simp only [List.head?_cons, List.head?_nil, Option.some_or, Option.none_or,
        Option.or_none] at kept nextFound
      have unused : next ∉ indices := fun member => distinct.2.2 next member next (.inl rfl) rfl
      have inside : next < arena.slots.size := (Array.getElem?_eq_some_iff.mp nextFound).1
      obtain ⟨arena', vacated, rest⟩ := vacate
        { arena with
          slots := arena.slots.setIfInBounds next ⟨some oldest, indices.getLast?, none⟩
          back := some next }
        (indices ++ [next]) (values ++ [oldest])
        ((Linked.append_iff shorter).mpr
          ⟨by simpa using kept.setIfInBounds unused _, by simp [Linked, inside]⟩)
        (by rw [holds.front]; cases indices <;> rfl) (by simp) counted
        (by
          rw [Array.getElem?_setIfInBounds_ne distinct.2.1.1.1]
          exact last) rfl
        (fun other member => by
          have different : next ≠ other := fun same =>
            distinct.2.1.1.2 (by simpa [same] using member)
          rw [Array.getElem?_setIfInBounds_ne different]
          exact holds.vacant other member)
        (by simpa using moved)
      refine ⟨arena', ?_, rest⟩
      simp only [List.getLast?_concat, amend_eq nextFound, vacated, Except.map]

theorem popAll {limit : Nat} (holds : arena.Holds indices values)
    (enough : values.length ≤ limit) :
    ∃ arena', arena.popAll limit = .ok (values, arena') ∧ arena'.Holds [] [] := by
  induction limit generalizing arena indices values with
  | zero =>
      have done : values = [] := List.eq_nil_of_length_eq_zero (Nat.le_zero.mp enough)
      subst done
      have unlinked : indices = [] := List.eq_nil_of_length_eq_zero holds.linked.length_eq
      subst unlinked
      exact ⟨arena, by simp [Arena.popAll, holds.front], holds⟩
  | succ limit ih =>
      cases values with
      | nil =>
          have unlinked : indices = [] := List.eq_nil_of_length_eq_zero holds.linked.length_eq
          subst unlinked
          exact ⟨arena, by simp [Arena.popAll, holds.popFront_nil, bind, Except.bind], holds⟩
      | cons value values =>
          cases indices with
          | nil => exact absurd holds.linked (by simp [Linked])
          | cons index indices =>
              obtain ⟨shorter, popped, keeps⟩ := holds.popFront_cons
              obtain ⟨arena', drained, rest⟩ := ih keeps (by simpa using enough)
              exact ⟨arena', by simp [Arena.popAll, popped, drained, bind, Except.bind], rest⟩

theorem length_le (holds : arena.Holds indices values) : values.length ≤ arena.slots.size := by
  have same := holds.slots.length_eq
  rw [List.length_append, List.length_range, holds.linked.length_eq] at same
  omega

theorem drain (holds : arena.Holds indices values) :
    arena.drain = .ok (values, {}) := by
  obtain ⟨arena', drained, rest⟩ := holds.popAll holds.length_le
  obtain ⟨slots, free, front, back, size⟩ := arena'
  have noFront : front = none := rest.front
  have noBack : back = none := rest.back
  have noSize : size = 0 := rest.size
  simp [Arena.drain, drained, bind, Except.bind, noFront, noBack, noSize]

end Arena.Holds

theorem Linked.walk {slots : Array (Slot α)} {newer : Option Nat} {indices : List Nat}
    {values : List α} {limit : Nat} (linked : Linked slots newer indices values none)
    (enough : values.length ≤ limit) :
    Arena.walk slots limit indices.head? = .ok values := by
  induction indices generalizing newer values limit with
  | nil =>
      cases values with
      | nil => cases limit <;> rfl
      | cons => simp [Linked] at linked
  | cons index indices ih =>
      cases values with
      | nil => simp [Linked] at linked
      | cons value values =>
          cases limit with
          | zero => simp at enough
          | succ limit =>
              have rest := ih linked.2 (by simpa using enough)
              simp only [List.head?_cons, Arena.walk, Arena.slotAt_eq linked.1, bind, Except.bind,
                Option.or_none, rest, Except.map]

namespace Arena.Holds

variable {arena : Arena α} {indices : List Nat} {values : List α}

theorem entries (holds : arena.Holds indices values) : arena.entries = .ok values := by
  rw [Arena.entries, holds.front]
  exact holds.linked.walk holds.length_le

theorem newest (holds : arena.Holds indices values) : arena.newest = .ok values.head? := by
  have linked := holds.linked
  rw [Arena.newest, holds.front]
  cases indices with
  | nil => cases values <;> simp_all [Linked, entryAt]
  | cons index indices =>
      cases values with
      | nil => simp [Linked] at linked
      | cons value values => simp [entryAt, slotAt_eq linked.1, Except.map]

theorem oldest (holds : arena.Holds indices values) : arena.oldest = .ok values.getLast? := by
  have linked := holds.linked
  have lengths := linked.length_eq
  rw [Arena.oldest, holds.back]
  rcases List.eq_nil_or_concat indices with rfl | ⟨indices, index, rfl⟩
  · cases values <;> simp_all [entryAt]
  · rcases List.eq_nil_or_concat values with rfl | ⟨values, value, rfl⟩
    · simp at lengths
    · simp only [List.concat_eq_append] at *
      have last := ((Linked.append_iff (by simpa using lengths)).mp linked).2.1
      simp [entryAt, slotAt_eq last, Except.map]

end Arena.Holds

end HandlePool.Idle
