import HandlePool.Proofs.Backdrop

namespace HandlePool.Depot

variable {depot next last : Depot} {task : TaskId} {actor : Option TaskId} {request : Request}
  {phase : Phase} {id view : PoolId} {slot : Bool} {handle : HandleId}

theorem now_of_task (move : Move view depot (some task) next) : next.now = depot.now := by
  cases move with
  | begins called moves answers =>
      rw [answers]
      exact congrArg Backdrop.now (backdrop_answer _ _ _)
  | steps here begun unfinished moves goes =>
      rcases goes with step | dropped
      · exact congrArg Backdrop.now (backdrop_stepFrom step begun)
      · rw [dropped]
        exact congrArg Backdrop.now (depot.backdrop_undo task _)

theorem now_outside {action : Action} (isOutside : action.isOutside = true) :
    depot.now ≤ (depot.act action).now := by
  cases action with
  | elapse time => exact Nat.le_add_right _ _
  | runMonitors => exact Nat.le_of_eq (congrArg Backdrop.now depot.backdrop_runMonitors).symm
  | makePool name dialer parameter limits =>
      exact Nat.le_of_eq
        (congrArg Backdrop.now (depot.backdrop_makePool name dialer parameter limits)).symm
  | register directory key dialer parameter limits =>
      have registers := depot.registering directory key dialer parameter limits
      simp only [act]
      generalize depot.register directory key dialer parameter limits = answered at registers ⊢
      cases registers <;> exact Nat.le_refl _
  | checkout | giveBack | discard | closeHeld | dial | shut | shutAll | poll | drop =>
      cases isOutside
  | _ => exact Nat.le_refl _

theorem now_of_move (move : Move view depot actor next) : depot.now ≤ next.now := by
  cases actor with
  | some task => exact Nat.le_of_eq (now_of_task move).symm
  | none =>
      cases move with
      | outside resting tasks held pools acts =>
          obtain ⟨action, isOutside, rfl⟩ := acts
          exact now_outside isOutside

end HandlePool.Depot
