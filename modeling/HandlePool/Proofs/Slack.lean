import HandlePool.Proofs.Admission

namespace HandlePool

namespace Gate

structure Eases (gate gate' : Gate) : Prop where
  free : gate'.free ≤ gate.free + 1
  members : gate'.members ⊆ gate.members

variable {gate gate' : Gate}

theorem eases_refl (gate : Gate) : gate.Eases gate := ⟨Nat.le_succ _, List.Subset.refl _⟩

theorem eases_release (gate : Gate) : gate.Eases gate.release := by
  refine ⟨?_, gate.members_release.subset⟩
  unfold release
  split
  · exact Nat.le_refl _
  · exact Nat.le_succ _

theorem Eases.before {mid : Gate} (eases : mid.Eases gate') (free : mid.free ≤ gate.free)
    (members : mid.members ⊆ gate.members) : gate.Eases gate' :=
  ⟨Nat.le_trans eases.free (Nat.succ_le_succ free), List.Subset.trans eases.members members⟩

theorem eases_take (gate : Gate) : gate.Eases gate.take :=
  gate.take.eases_refl.before (Nat.sub_le _ _) (List.Subset.refl _)

theorem eases_take_release (gate : Gate) : gate.Eases gate.take.release :=
  gate.take.eases_release.before (Nat.sub_le _ _) (List.Subset.refl _)

theorem collect_subset (gate : Gate) (task : TaskId) :
    (gate.collect task).members ⊆ gate.members :=
  (List.erase_sublist.append_left gate.waiting).subset

theorem eases_collect (gate : Gate) (task : TaskId) : gate.Eases (gate.collect task) :=
  (gate.collect task).eases_refl.before (Nat.le_refl _) (gate.collect_subset task)

theorem eases_leave (gate : Gate) (task : TaskId) : gate.Eases (gate.leave task) := by
  unfold leave
  split
  · exact (gate.collect task).eases_release.before (Nat.le_refl _) (gate.collect_subset task)
  · exact ⟨Nat.le_succ _, (List.erase_sublist.append_right gate.granted).subset⟩

theorem eases_close (gate : Gate) : gate.Eases gate.close :=
  ⟨Nat.le_succ _, List.subset_append_right gate.waiting gate.granted⟩

end Gate

namespace Depot

/-- A gate that knows a task has as many free slots at most. -/
def Slack (id : PoolId) (count : Nat) (depot : Depot) : Prop :=
  ∀ gate, (depot.pool id).gate = some gate → gate.members ≠ [] → gate.free ≤ count

variable {id view : PoolId} {depot next last : Depot} {task : TaskId} {actor : Option TaskId}
  {request : Request} {phase phase' : Phase} {pool : Pool} {gate' : Gate} {count : Nat}

theorem eases_of_effect (effect : Effect depot task request id phase phase' pool)
    (gated' : pool.gate = some gate') :
    gate'.free = 0 ∨ ∃ gate, (depot.pool id).gate = some gate ∧ gate.Eases gate' := by
  have same (gated : (depot.pool id).gate = some gate') :
      gate'.free = 0 ∨ ∃ gate, (depot.pool id).gate = some gate ∧ gate.Eases gate' :=
    Or.inr ⟨gate', gated, gate'.eases_refl⟩
  have changed {change : Gate → Gate} (eases : ∀ gate : Gate, gate.Eases (change gate))
      (gated' : (depot.pool id).gate.map change = some gate') :
      gate'.free = 0 ∨ ∃ gate, (depot.pool id).gate = some gate ∧ gate.Eases gate' := by
    obtain ⟨gate, gated, rfl⟩ := Option.map_eq_some_iff.mp gated'
    exact Or.inr ⟨gate, gated, eases gate⟩
  have released (given : Bool) (gate : Gate) :
      gate.Eases (if given then gate.release else gate) := by
    cases given with
    | true => exact gate.eases_release
    | false => exact gate.eases_refl
  have kept (given : Bool) (gate : Gate) :
      gate.Eases (if given then gate else gate.release) := by
    cases given with
    | true => exact gate.eases_refl
    | false => exact gate.eases_release
  cases effect with
  | aside | turnedAway | dial | connect | rescan => exact same gated'
  | queue asks gated isOpen full =>
      left
      rw [Pool.gate_changeGate, gated] at gated'
      cases gated'
      exact full
  | pass grant =>
      rw [Pool.gate_prune, Pool.gate_recordWait] at gated'
      cases grant with
      | free => exact same gated'
      | taken => exact changed Gate.eases_take gated'
      | collected => exact changed (fun gate => gate.eases_collect task) gated'
  | bounce => exact changed Gate.eases_take_release gated'
  | quit | leave => exact changed (fun gate => gate.eases_leave task) gated'
  | reuse taken =>
      rw [(Pool.takeNewest_eq_some taken).2] at gated'
      exact same gated'
  | reject taken =>
      rw [Pool.gate_forget, (Pool.takeNewest_eq_some taken).2] at gated'
      exact same gated'
  | deny | unconfigured | refuse | panic | letGo | abandon =>
      rw [Pool.handBack_eq] at gated'
      exact changed (released _) gated'
  | giveBack asks goes =>
      rename_i handle
      rw [Pool.releaseSlot_eq, ((depot.pool id).shelve_books handle).2] at gated'
      exact changed (kept _) gated'
  | discard =>
      rw [Pool.releaseSlot_eq] at gated'
      exact changed (kept _) gated'
  | shut =>
      rw [Pool.shut_books] at gated'
      exact changed Gate.eases_close gated'

theorem slack_of_move (move : Move view depot actor next) (slack : Slack id count depot) :
    Slack id (count + 1) next := by
  intro gate' gated' waits
  cases (touch_of_move move : Touch id depot actor next) with
  | missing outside outside' =>
      rw [next.pool_of_length_le outside'] at gated'
      cases gated'
  | fresh outside fresh =>
      -- Nobody waits at a new gate.
      obtain ⟨-, -, rfl⟩ := (gate_fresh fresh).2 gate' gated'
      exact absurd rfl waits
  | still same =>
      rw [same] at gated'
      exact Nat.le_succ_of_le (slack gate' gated' waits)
  | other who same =>
      rw [same] at gated'
      exact Nat.le_succ_of_le (slack gate' gated' waits)
  | own who inside becomes effect =>
      -- A task queues only where no slot is free; all other moves free one at most.
      rcases eases_of_effect effect gated' with none_free | ⟨gate, gated, eases⟩
      · rw [none_free]
        exact Nat.zero_le _
      · have before : gate.members ≠ [] := fun nobody =>
          waits (List.subset_nil.mp (nobody ▸ eases.members))
        exact Nat.le_trans eases.free (Nat.succ_le_succ (slack gate gated before))

theorem slack_empty (id : PoolId) : Slack id 0 {} := by
  intro gate gated
  cases gated

theorem Chain.slack {turns : List Turn} (chain : Chain view depot turns last)
    (slack : Slack id count depot) :
    Slack id (count + turns.length) last ∧
      ∀ turn ∈ turns, Slack id (count + turns.length) turn.before := by
  induction chain generalizing count with
  | nil => exact ⟨slack, by simp⟩
  | cons move rest ih =>
      obtain ⟨ended, later⟩ := ih (slack_of_move move slack)
      rw [List.length_cons, Nat.add_comm _ 1, ← Nat.add_assoc]
      refine ⟨ended, fun turn member => ?_⟩
      rcases List.mem_cons.mp member with rfl | member
      · intro gate gated waits
        exact Nat.le_trans (slack gate gated waits) (by omega)
      · exact later turn member

theorem not_overflows_of_slack {gate : Gate} (slack : Slack id count depot)
    (short : count < Gate.capacity) (gated : (depot.pool id).gate = some gate)
    (handed : task ∈ gate.granted) (full : Gate.capacity ≤ gate.free) : False := by
  have known : task ∈ gate.members := List.mem_append_right gate.waiting handed
  have few := slack gate gated (List.ne_nil_of_mem known)
  omega

end Depot

end HandlePool
