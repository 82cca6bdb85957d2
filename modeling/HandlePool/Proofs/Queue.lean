import HandlePool.Gate
import Mathlib.Data.List.Nodup

namespace HandlePool.Gate

def members (gate : Gate) : List TaskId := gate.waiting ++ gate.granted

def slots (gate : Gate) : Nat := gate.free + gate.granted.length

structure Orderly (gate : Gate) : Prop where
  busy : gate.waiting ≠ [] → gate.free = 0
  distinct : gate.members.Nodup

variable {gate : Gate} {task : TaskId}

theorem waiting_of_free (orderly : gate.Orderly) (left : gate.free ≠ 0) : gate.waiting = [] := by
  by_contra waits
  exact left (orderly.busy waits)

section Releasing

variable (gate)

@[simp] theorem closed_release : gate.release.closed = gate.closed := by
  unfold release
  split <;> rfl

theorem slots_release : gate.release.slots = gate.slots + 1 := by
  cases waits : gate.waiting with
  | nil => simp [release, waits, slots, Nat.add_right_comm]
  | cons first rest => simp [release, waits, slots, Nat.add_assoc]

theorem members_release : gate.release.members.Perm gate.members := by
  cases waits : gate.waiting with
  | nil => simp [release, waits, members]
  | cons first rest =>
      simp only [release, waits, members, List.cons_append, ← List.append_assoc]
      exact List.perm_append_comm

end Releasing

theorem orderly_release (orderly : gate.Orderly) : gate.release.Orderly := by
  constructor
  · intro waits
    cases waiting : gate.waiting with
    | nil => simp [release, waiting] at waits
    | cons first rest => simpa [release, waiting] using orderly.busy (by simp [waiting])
  · exact (members_release gate).nodup_iff.mpr orderly.distinct

theorem slots_take (left : gate.free ≠ 0) : gate.take.slots + 1 = gate.slots := by
  simp only [take, slots]
  omega

theorem orderly_take (orderly : gate.Orderly) : gate.take.Orderly := by
  constructor
  · intro waits
    have empty := orderly.busy waits
    simp [take, empty]
  · exact orderly.distinct

theorem release_take (orderly : gate.Orderly) (left : gate.free ≠ 0) :
    gate.take.release = gate := by
  -- Nobody waits while a slot is free, so the one that is put back goes to no task.
  have quiet := waiting_of_free orderly left
  have restored := Nat.sub_add_cancel (Nat.one_le_iff_ne_zero.mpr left)
  obtain ⟨free, closed, waiting, granted⟩ := gate
  dsimp only at quiet restored
  simp only [take, release, quiet, restored]

theorem members_enqueue (gate : Gate) (task : TaskId) :
    (gate.enqueue task).members.Perm (task :: gate.members) := by
  simp only [enqueue, members, List.append_assoc]
  exact List.perm_middle

theorem orderly_enqueue (orderly : gate.Orderly) (full : gate.free = 0)
    (absent : task ∉ gate.members) : (gate.enqueue task).Orderly := by
  constructor
  · intro
    exact full
  · exact (gate.members_enqueue task).nodup_iff.mpr (List.nodup_cons.mpr ⟨absent, orderly.distinct⟩)

theorem slots_collect (handed : task ∈ gate.granted) :
    (gate.collect task).slots + 1 = gate.slots := by
  have shorter := List.length_erase_add_one handed
  simp only [collect, slots]
  omega

theorem members_collect (handed : task ∈ gate.granted) :
    (task :: (gate.collect task).members).Perm gate.members := by
  simp only [collect, members]
  exact List.perm_middle.symm.trans ((List.perm_cons_erase handed).symm.append_left gate.waiting)

theorem orderly_collect (orderly : gate.Orderly) (handed : task ∈ gate.granted) :
    (gate.collect task).Orderly := by
  constructor
  · exact orderly.busy
  · exact (List.nodup_cons.mp ((members_collect handed).nodup_iff.mpr orderly.distinct)).2

section Leaving

theorem closed_leave : (gate.leave task).closed = gate.closed := by
  unfold leave
  split
  · exact closed_release _
  · rfl

theorem slots_leave : (gate.leave task).slots = gate.slots := by
  unfold leave
  split
  · rename_i handed
    rw [slots_release, slots_collect handed]
  · rfl

theorem members_leave (known : task ∈ gate.members) :
    (task :: (gate.leave task).members).Perm gate.members := by
  unfold leave
  split
  · rename_i handed
    exact ((members_release _).cons task).trans (members_collect handed)
  · rename_i unhanded
    have waits := (List.mem_append.mp known).resolve_right unhanded
    exact (List.perm_cons_erase waits).symm.append_right gate.granted

theorem leave_of_unknown (unknown : task ∉ gate.members) : gate.leave task = gate := by
  rw [members, List.mem_append, not_or] at unknown
  rw [leave, if_neg unknown.2, List.erase_of_not_mem unknown.1]

theorem orderly_leave (orderly : gate.Orderly) : (gate.leave task).Orderly := by
  by_cases handed : task ∈ gate.granted
  · rw [leave, if_pos handed]
    exact orderly_release (orderly_collect orderly handed)
  · rw [leave, if_neg handed]
    constructor
    · intro waits
      apply orderly.busy
      intro none_waits
      rw [none_waits] at waits
      exact waits rfl
    · exact orderly.distinct.sublist (List.erase_sublist.append_right gate.granted)

end Leaving

theorem orderly_close (orderly : gate.Orderly) : gate.close.Orderly := by
  constructor
  · intro waits
    exact absurd rfl waits
  · exact (List.nodup_append.mp orderly.distinct).2.1

theorem orderly_new (slots : Nat) : Orderly { free := slots } :=
  ⟨fun waits => absurd rfl waits, List.nodup_nil⟩

end HandlePool.Gate
