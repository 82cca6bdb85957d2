import HandlePool.Proofs.Capacity

namespace HandlePool

def Turn.Ends (task : TaskId) (turn : Turn) : Prop :=
  turn.actor = some task ∧ (turn.after.phase? task).any Phase.isOver = true

namespace Depot

def ownTurns (task : TaskId) (turns : List Turn) : List Turn :=
  turns.filter (·.actor == some task)

def totalChange (measure : Depot → Int) : List Turn → Int
  | [] => 0
  | turn :: rest => (measure turn.after - measure turn.before) + totalChange measure rest

def ownChange (measure : Depot → Int) (task : TaskId) (turns : List Turn) : Int :=
  totalChange measure (ownTurns task turns)

variable {id : PoolId} {depot next last : Depot} {task : TaskId} {actor : Option TaskId}
  {turns : List Turn} {turn ending : Turn} {measure part rest : Depot → Int}

theorem mem_ownTurns : turn ∈ ownTurns task turns ↔ turn ∈ turns ∧ turn.actor = some task := by
  rw [ownTurns, List.mem_filter, beq_iff_eq]

theorem totalChange_split
    (splits : ∀ turn ∈ turns, measure turn.after - measure turn.before =
      (part turn.after - part turn.before) + (rest turn.after - rest turn.before)) :
    totalChange measure turns = totalChange part turns + totalChange rest turns := by
  induction turns with
  | nil => rfl
  | cons turn later ih =>
      have first := splits turn List.mem_cons_self
      have others := ih fun turn member => splits turn (List.mem_cons_of_mem _ member)
      simp only [totalChange]
      omega

theorem totalChange_nonpos
    (falls : ∀ turn ∈ turns, measure turn.after ≤ measure turn.before) :
    totalChange measure turns ≤ 0 := by
  induction turns with
  | nil => exact Int.le_refl 0
  | cons turn later ih =>
      have first := falls turn List.mem_cons_self
      have others := ih fun turn member => falls turn (List.mem_cons_of_mem _ member)
      simp only [totalChange]
      omega

theorem ownChange_split
    (splits : ∀ turn ∈ ownTurns task turns, measure turn.after - measure turn.before =
      (part turn.after - part turn.before) + (rest turn.after - rest turn.before)) :
    ownChange measure task turns = ownChange part task turns + ownChange rest task turns :=
  totalChange_split splits

theorem ownChange_nonpos
    (falls : ∀ turn ∈ ownTurns task turns, measure turn.after ≤ measure turn.before) :
    ownChange measure task turns ≤ 0 :=
  totalChange_nonpos falls

theorem ownChange_eq_zero
    (still : ∀ turn ∈ ownTurns task turns, measure turn.after = measure turn.before) :
    ownChange measure task turns = 0 := by
  have split : ownChange measure task turns =
      ownChange measure task turns + ownChange measure task turns := by
    apply ownChange_split
    intro turn own
    rw [still turn own]
    omega
  omega

theorem ownChange_opposite
    (opposite : ∀ turn ∈ ownTurns task turns,
      part turn.after + rest turn.after = part turn.before + rest turn.before) :
    ownChange part task turns = -ownChange rest task turns := by
  have both : ownChange (fun _ => 0) task turns =
      ownChange part task turns + ownChange rest task turns := by
    apply ownChange_split
    intro turn own
    have same := opposite turn own
    omega
  have nothing : ownChange (fun _ => 0) task turns = 0 := ownChange_eq_zero fun _ _ => rfl
  omega

theorem tasks_of_others (move : Move id depot actor next) (apart : actor ≠ some task) :
    next.tasks[task]? = depot.tasks[task]? := by
  cases actor with
  | none =>
      cases move with
      | outside resting tasks => rw [tasks]
  | some other =>
      obtain ⟨request, phase, phase', site, pool, held, effect, pools, tasks, -⟩ :=
        shift_of_move move
      exact others_of_becomes tasks fun same => apart (by rw [same])

theorem phase?_of_others (move : Move id depot actor next) (apart : actor ≠ some task) :
    next.phase? task = depot.phase? task := by
  rw [phase?, phase?, tasks_of_others move apart]

theorem ownChange_of_phase (task : TaskId) (chain : Chain id depot turns last)
    (weight : Option Phase → Int) :
    ownChange (fun depot => weight (depot.phase? task)) task turns =
      weight (last.phase? task) - weight (depot.phase? task) := by
  induction chain with
  | nil => exact (Int.sub_self _).symm
  | cons move chain ih =>
      rename_i depot actor next turns last
      unfold ownChange ownTurns at ih ⊢
      by_cases mine : actor = some task
      · rw [List.filter_cons_of_pos (by simp [mine]), totalChange, ih]
        dsimp only
        omega
      · rw [List.filter_cons_of_neg (by simp [mine]), ih, phase?_of_others move mine]

theorem unfinished_of_move (move : Move id depot (some task) next) {phase : Phase}
    (there : depot.phase? task = some phase) : phase.isOver = false := by
  obtain ⟨request, before, phase', site, pool, held, effect, pools, tasks, -⟩ := shift_of_move move
  rcases phase?_before tasks with ⟨-, absent⟩ | ⟨-, here⟩
  · rw [absent] at there
    cases there
  · rw [here] at there
    cases there
    exact unfinished_of_becomes tasks

theorem over_stays (move : Move id depot actor next)
    (isOver : (depot.phase? task).any Phase.isOver = true) :
    next.phase? task = depot.phase? task := by
  by_cases mine : actor = some task
  · subst mine
    cases there : depot.phase? task with
    | none =>
        rw [there] at isOver
        cases isOver
    | some phase =>
        rw [there, Option.any_some, unfinished_of_move move there] at isOver
        cases isOver
  · exact phase?_of_others move mine

def CalledFor (request : Request) (task : TaskId) (depot : Depot) : Prop :=
  ∃ phase, depot.tasks[task]? = some ⟨request, phase⟩

theorem request_stays {request : Request} (move : Move id depot actor next)
    (called : CalledFor request task depot) : CalledFor request task next := by
  obtain ⟨phase, here⟩ := called
  by_cases mine : actor = some task
  · subst mine
    obtain ⟨asked, before, after, site, pool, held, effect, pools, tasks, -⟩ := shift_of_move move
    refine ⟨after, ?_⟩
    rcases before_of_becomes tasks with ⟨-, absent⟩ | ⟨-, there⟩
    · rw [absent] at here
      cases here
    · rw [there] at here
      cases here
      exact phase_of_becomes tasks
  · exact ⟨phase, (tasks_of_others move mine).trans here⟩

theorem Chain.after_of_mem (chain : Chain id depot turns last) (member : turn ∈ turns) :
    ∃ later, Chain id turn.after later last := by
  induction chain with
  | nil => cases member
  | cons move chain ih =>
      rcases List.mem_cons.mp member with rfl | later
      · exact ⟨_, chain⟩
      · exact ih later

theorem Chain.none_of_over (task : TaskId) (chain : Chain id depot turns last)
    (isOver : (depot.phase? task).any Phase.isOver = true) :
    last.phase? task = depot.phase? task ∧ ∀ turn ∈ turns, turn.actor ≠ some task := by
  induction chain with
  | nil => exact ⟨rfl, by simp⟩
  | cons move chain ih =>
      rename_i depot actor next turns last
      have stays := over_stays move isOver
      rw [← stays] at isOver
      obtain ⟨same, others⟩ := ih isOver
      refine ⟨same.trans stays, ?_⟩
      intro turn member
      rcases List.mem_cons.mp member with rfl | later
      · rintro rfl
        cases there : depot.phase? task with
        | none =>
            rw [stays, there] at isOver
            cases isOver
        | some phase =>
            rw [stays, there, Option.any_some, unfinished_of_move move there] at isOver
            cases isOver
      · exact others turn later

theorem Chain.not_before_end (Reached : Depot → Prop) (chain : Chain id depot turns last)
    (lasts : ∀ {depot actor next}, Move id depot actor next → Reached depot → Reached next)
    (member : ending ∈ turns) (ends : ending.Ends task) (not_yet : ¬ Reached ending.before)
    (turn : Turn) (own : turn ∈ ownTurns task turns) : turn = ending ∨ ¬ Reached turn.after := by
  induction chain with
  | nil => cases member
  | cons move chain ih =>
      rename_i depot actor next turns last
      obtain ⟨there, mine⟩ := mem_ownTurns.mp own
      rcases List.mem_cons.mp member with rfl | later
      · -- The last turn of the task comes first here, so none of its turns is left after it.
        rcases List.mem_cons.mp there with same | after
        · exact Or.inl same
        · exact absurd mine ((chain.none_of_over task ends.2).2 turn after)
      · rcases List.mem_cons.mp there with rfl | after
        · right
          intro reached
          exact not_yet ((chain.keeps lasts reached).2 ending later).1
        · exact ih later (mem_ownTurns.mpr ⟨after, mine⟩)

theorem Chain.exists_end (task : TaskId) (chain : Chain id depot turns last)
    (unfinished : (depot.phase? task).any Phase.isOver = false)
    (isOver : (last.phase? task).any Phase.isOver = true) : ∃ turn ∈ turns, turn.Ends task := by
  induction chain with
  | nil =>
      rw [unfinished] at isOver
      cases isOver
  | cons move chain ih =>
      rename_i depot actor next turns last
      cases ended : (next.phase? task).any Phase.isOver with
      | false =>
          obtain ⟨turn, member, ends⟩ := ih ended isOver
          exact ⟨turn, List.mem_cons_of_mem _ member, ends⟩
      | true =>
          refine ⟨_, List.mem_cons_self, ?_, ended⟩
          by_contra apart
          rw [phase?_of_others move apart, unfinished] at ended
          cases ended

end Depot

end HandlePool
