import HandlePool.Proofs.Directories
import HandlePool.Proofs.Ledger
import HandlePool.Proofs.Shutdown
import HandlePool.Proofs.Trace

namespace HandlePool

/-- The task is dropped before it comes to the pool. -/
def Turn.Strands (task : TaskId) (id : PoolId) (turn : Turn) : Prop :=
  turn.actor = some task ∧ turn.after.stage task = .dropped ∧
    id ∈ (turn.before.stage task).ahead

namespace Depot

variable {id view : PoolId} {depot next last : Depot} {task : TaskId} {request : Request}
  {phase phase' : Phase} {turn : Turn} {turns first later : List Turn} {directory : DirectoryId}
  {pools : List PoolId} {order : List String}

def Covers (task : TaskId) (id : PoolId) (depot : Depot) : Prop :=
  (depot.pool id).closed = true ∨ id ∈ (depot.stage task).ahead

theorem covered_of_leg (leg : Leg depot request next phase phase')
    (inside : id < depot.pools.length) (ahead : id ∈ phase.ahead) :
    (next.pool id).closed = true ∨ id ∈ phase'.ahead ∨ phase' = .dropped := by
  cases leg with
  | apart before =>
      rw [(nothing_of_apart 0 before).1] at ahead
      cases ahead
  | passes closed same =>
      rcases List.mem_cons.mp ahead with rfl | after
      · rw [Depot.pool, same]
        exact Or.inl closed
      · exact Or.inr (Or.inl after)
  | shuts isOpen pools =>
      rcases List.mem_cons.mp ahead with rfl | after
      · rw [pool_set_same pools inside]
        exact Or.inl rfl
      · exact Or.inr (Or.inl after)
  | setsOut | arrives => cases ahead
  | begins | drained | ends => exact Or.inr (Or.inl ahead)
  | dropped => exact Or.inr (Or.inr rfl)

theorem covers_of_move {actor : Option TaskId} (move : Move view depot actor next)
    (inside : id < depot.pools.length) (covers : Covers task id depot) :
    Covers task id next ∨ Turn.Strands task id ⟨actor, depot, next⟩ := by
  rcases covers with closed | ahead
  · exact Or.inl (Or.inl (closed_lasts move closed))
  · by_cases mine : actor = some task
    · subst mine
      obtain ⟨request, -, leg⟩ := leg_of_stage move
      rcases covered_of_leg leg inside ahead with closed | still | dropped
      · exact Or.inl (Or.inl closed)
      · exact Or.inl (Or.inr still)
      · exact Or.inr ⟨rfl, dropped, ahead⟩
    · left
      right
      rw [stage, phase?_of_others move mine]
      exact ahead

theorem Chain.covers (chain : Chain view depot turns last) (inside : id < depot.pools.length)
    (covers : Covers task id depot) :
    Covers task id last ∨ ∃ turn ∈ turns, turn.Strands task id := by
  induction chain with
  | nil => exact Or.inl covers
  | cons move rest ih =>
      rcases covers_of_move move inside covers with still | strands
      · have inside := Nat.lt_of_lt_of_le inside (pools_grow move)
        rcases ih inside still with ended | ⟨turn, there, strands⟩
        · exact Or.inl ended
        · exact Or.inr ⟨turn, List.mem_cons_of_mem _ there, strands⟩
      · exact Or.inr ⟨_, List.mem_cons_self, strands⟩

structure Sweeping (task : TaskId) (pools : List PoolId) (depot : Depot) : Prop where
  goes : (depot.stage task).isShutting = true ∨ (depot.stage task).isOver = true
  ahead : (depot.stage task).ahead.Sublist pools

theorem sweeping_of_leg (leg : Leg depot request next phase phase')
    (shutting : phase.isShutting = true) (ahead : phase.ahead.Sublist pools) :
    (phase'.isShutting = true ∨ phase'.isOver = true) ∧ phase'.ahead.Sublist pools := by
  cases leg with
  | apart before =>
      rw [before] at shutting
      cases shutting
  | setsOut => cases shutting
  | passes | shuts => exact ⟨Or.inl rfl, (List.sublist_cons_self _ _).trans ahead⟩
  | begins | drained | ends => exact ⟨Or.inl rfl, ahead⟩
  | arrives | dropped => exact ⟨Or.inr rfl, List.nil_sublist _⟩

theorem shutting_of_move (move : Move view depot (some task) next)
    (sweeping : Sweeping task pools depot) : (depot.stage task).isShutting = true := by
  apply sweeping.goes.resolve_right
  intro isOver
  obtain ⟨request, phase, phase', site, pool, held, effect, pools, tasks, -⟩ := shift_of_move move
  rw [stage_before tasks, unfinished_of_becomes tasks] at isOver
  cases isOver

theorem Sweeping.keeps {actor : Option TaskId} (move : Move view depot actor next)
    (sweeping : Sweeping task pools depot) : Sweeping task pools next := by
  by_cases mine : actor = some task
  · subst mine
    obtain ⟨request, -, leg⟩ := leg_of_stage move
    obtain ⟨goes, ahead⟩ := sweeping_of_leg leg (shutting_of_move move sweeping) sweeping.ahead
    exact ⟨goes, ahead⟩
  · have same : next.stage task = depot.stage task := by
      rw [stage, stage, phase?_of_others move mine]
    exact ⟨same ▸ sweeping.goes, same ▸ sweeping.ahead⟩

theorem closed_of_leg (leg : Leg depot request next phase phase')
    (shutting : phase.isShutting = true) (distinct : phase.ahead.Nodup)
    (changed : (next.pool id).closed ≠ (depot.pool id).closed) :
    id ∈ phase.ahead ∧ id ∉ phase'.ahead := by
  have kept (same : next.pools = depot.pools) : False := by
    rw [Depot.pool, same] at changed
    exact changed rfl
  cases leg with
  | apart before =>
      rw [before] at shutting
      cases shutting
  | shuts isOpen pools =>
      rename_i head later
      by_cases here : head = id
      · subst here
        exact ⟨List.mem_cons_self, (List.nodup_cons.mp distinct).1⟩
      · rw [pool_set_other pools here] at changed
        exact absurd rfl changed
  | setsOut same | begins same | drained same | ends same | arrives same => exact (kept same).elim
  | passes closed same => exact (kept same).elim
  | dropped before same => exact (kept same).elim

theorem closes_of_sweeping (move : Move view depot (some task) next)
    (sweeping : Sweeping task pools depot) (distinct : pools.Nodup)
    (changed : (next.pool id).closed ≠ (depot.pool id).closed) :
    id ∈ pools ∧ id ∉ (next.stage task).ahead := by
  obtain ⟨request, -, leg⟩ := leg_of_stage move
  have shutting := shutting_of_move move sweeping
  obtain ⟨here, gone⟩ := closed_of_leg leg shutting (distinct.sublist sweeping.ahead) changed
  exact ⟨sweeping.ahead.subset here, gone⟩

theorem any_of_stage (isOver : (depot.stage task).isOver = true) :
    (depot.phase? task).any Phase.isOver = true := by
  rw [stage] at isOver
  cases there : depot.phase? task with
  | none =>
      rw [there] at isOver
      cases isOver
  | some phase =>
      rw [there] at isOver
      exact isOver

theorem stage_of_over_move {actor : Option TaskId} (move : Move view depot actor next)
    (isOver : (depot.stage task).isOver = true) : next.stage task = depot.stage task := by
  rw [stage, over_stays move (any_of_stage isOver), stage]

theorem Chain.stage_of_over (chain : Chain view depot turns last)
    (isOver : (depot.stage task).isOver = true) : last.stage task = depot.stage task := by
  induction chain with
  | nil => rfl
  | cons move _ ih =>
      have same := stage_of_over_move move isOver
      exact (ih (same ▸ isOver)).trans same

theorem sets_out (move : Move view depot (some task) next) (asked : depot.stage task = .asked)
    (called : CalledFor (.shutAll directory order) task next) :
    next.stage task = .shutting ((depot.directory directory).poolsBy order) ∧
      next.pools = depot.pools := by
  obtain ⟨request, entered, leg⟩ := leg_of_stage move
  obtain ⟨last, there⟩ := called
  rw [entered] at there
  cases there
  rw [asked] at leg
  generalize next.stage task = reached at leg ⊢
  cases leg with
  | apart before after other => cases other rfl
  | setsOut same => exact ⟨rfl, same⟩
  | dropped before => cases before

/-- What a task does, from its first turn on, that shuts all pools of a directory. -/
structure Sweeps (directory : DirectoryId) (order : List String) (task : TaskId) (turn : Turn)
    (later : List Turn) (last : Depot) : Prop where
  unfiles : turn.after.directories = turn.before.directories.set directory {}
  sets : turn.after.stage task = .shutting ((turn.before.directory directory).poolsBy order)
  spares : ∀ own ∈ later, own.actor = some task →
    own.after.directories = own.before.directories
  closes : ∀ own ∈ turn :: later, own.actor = some task → ∀ id,
    (own.after.pool id).closed ≠ (own.before.pool id).closed →
      id ∈ (turn.before.directory directory).pools ∧ id ∉ (own.after.stage task).ahead
  covers : ∀ id ∈ (turn.before.directory directory).pools,
    (last.pool id).closed = true ∨ id ∈ (last.stage task).ahead ∨
      ∃ drop ∈ later, drop.Strands task id
  finished : ∀ outcome, last.stage task = .finished outcome →
    ∀ id ∈ (turn.before.directory directory).pools, (last.pool id).closed = true

theorem unasked_of_goes (goes : phase.isShutting = true ∨ phase.isOver = true) :
    phase ≠ .asked := by
  rintro rfl
  rcases goes with shutting | isOver
  · cases shutting
  · cases isOver

theorem sweeping_within (chain : Chain view next turns last) (start : Sweeping task pools next)
    (member : turn ∈ turns) : Move view turn.before turn.actor turn.after ∧
      Sweeping task pools turn.before :=
  ⟨chain.move_of_mem member, ((chain.keeps Sweeping.keeps start).2 turn member).1⟩

theorem unstranded (chain : Chain view next turns last) (member : turn ∈ turns)
    {outcome : Outcome} (finished : last.stage task = .finished outcome) :
    ¬ turn.Strands task id := by
  rintro ⟨mine, dropped, -⟩
  obtain ⟨first, later, rfl⟩ := List.append_of_mem member
  obtain ⟨-, -, back⟩ := chain.at_turn
  rw [back.stage_of_over (by rw [dropped]; rfl), dropped] at finished
  cases finished

theorem sweeps_of_chain (move : Move view turn.before (some task) turn.after)
    (rest : Chain view turn.after later last) (filed : Filed turn.before)
    (asked : turn.before.stage task = .asked)
    (called : CalledFor (.shutAll directory order) task turn.after) :
    Sweeps directory order task turn later last := by
  obtain ⟨distinct, inside⟩ := filed directory
  obtain ⟨sets, same⟩ := sets_out move asked called
  have perm := (turn.before.directory directory).poolsBy_perm order
  have sweeping : Sweeping task ((turn.before.directory directory).poolsBy order) turn.after :=
    ⟨Or.inl (by rw [sets]; rfl), by rw [sets]; exact List.Sublist.refl _⟩
  have covered (id : PoolId) (member : id ∈ (turn.before.directory directory).pools) :
      Covers task id last ∨ ∃ drop ∈ later, drop.Strands task id :=
    rest.covers (same ▸ inside id member) (Or.inr (by rw [sets]; exact perm.mem_iff.mpr member))
  refine {
    unfiles := unfiled_of_begins move called asked
    sets := sets
    spares := fun own member mine => ?_
    closes := fun own member mine id changed => ?_
    covers := fun id member => ?_
    finished := fun outcome finished id member => ?_ }
  · obtain ⟨move, kept⟩ := sweeping_within rest sweeping member
    rw [mine] at move
    exact directories_of_begun move (unasked_of_goes kept.goes)
  · rcases List.mem_cons.mp member with rfl | after
    · rw [Depot.pool, same] at changed
      exact absurd rfl changed
    · obtain ⟨move, kept⟩ := sweeping_within rest sweeping after
      rw [mine] at move
      obtain ⟨listed, gone⟩ := closes_of_sweeping move kept (perm.nodup_iff.mpr distinct) changed
      exact ⟨perm.mem_iff.mp listed, gone⟩
  · rcases covered id member with (closed | ahead) | stranded
    · exact Or.inl closed
    · exact Or.inr (Or.inl ahead)
    · exact Or.inr (Or.inr stranded)
  · rcases covered id member with (closed | ahead) | ⟨drop, there, strands⟩
    · exact closed
    · rw [finished] at ahead
      cases ahead
    · exact absurd strands (unstranded rest there finished)

/-- The pool was there when the task set out, and in the directory ever since it was made. -/
structure Registered (directory : DirectoryId) (first : List Turn) (turn : Turn) (id : PoolId) :
    Prop where
  made : id < turn.before.pools.length
  listed : ∀ early ∈ first, id < early.after.pools.length →
    id ∈ (early.after.directory directory).pools

theorem registered_of_chain (chain : Chain view depot first turn.before) (filed : Filed depot)
    (member : id ∈ (turn.before.directory directory).pools) :
    Registered directory first turn id := by
  have there := ((chain.keeps filed_of_move filed).1 directory).2 id member
  refine ⟨there, fun early before made => Classical.byContradiction fun absent => ?_⟩
  obtain ⟨older, newer, rfl⟩ := List.append_of_mem before
  obtain ⟨-, -, middle⟩ := chain.at_turn
  exact (middle.keeps unlisted_of_move ⟨made, absent⟩).1.absent member

/-- At every time in every run a task that shuts all pools of a directory, in whatever order it finds
them, shuts those that were in it when it set out, and no others. Of these it leaves none open but
those which it had not come to when it was dropped. -/
theorem unfiled_shut_or_stranded {actions : List Action}
    (reaches : Reaches actions (first ++ turn :: later) last) (actor : turn.actor = some task)
    (asked : turn.before.stage task = .asked)
    (called : CalledFor (.shutAll directory order) task turn.after) :
    Sweeps directory order task turn later last ∧
      ∀ id ∈ (turn.before.directory directory).pools, Registered directory first turn id := by
  obtain ⟨view, chain⟩ := reaches.exists_chain
  obtain ⟨front, move, rest⟩ := chain.at_turn
  have filed := (front.keeps filed_of_move filed_empty).1
  rw [actor] at move
  exact ⟨sweeps_of_chain move rest filed asked called, fun id member =>
    registered_of_chain front filed_empty member⟩

def bothSlow : List Action :=
  [.makeDialer "dialer" (.counted {}), .makeDirectory, .register 0 "first" (some 0) "" {},
   .register 0 "second" (some 0) "" {}, .checkout 0 {}, .checkout 1 {},
   .mark 0 { closeDelay := some 1000 }, .mark 1 { closeDelay := some 1000 }, .giveBack 0 0,
   .giveBack 1 0]

def sweptHalf (order : List String) : List Action := bothSlow ++ [.shutAll 0 order, .drop 4]

theorem length_sweptHalf : (({} : Depot).turns (sweptHalf ["first", "second"])).length = 18 ∧
    (({} : Depot).turns (sweptHalf ["second", "first"])).length = 18 := by decide

theorem unfiled_shut_or_stranded_sweptHalf :
    ∃ first turn later, Reaches (sweptHalf ["second", "first"]) (first ++ turn :: later)
        (({} : Depot).run (sweptHalf ["second", "first"])) ∧
      turn.actor = some 4 ∧ turn.before.stage 4 = .asked ∧
      CalledFor (.shutAll 0 ["second", "first"]) 4 turn.after ∧
      turn.after.stage 4 = .shutting [1, 0] ∧
      Sweeps 0 ["second", "first"] 4 turn later
        (({} : Depot).run (sweptHalf ["second", "first"])) ∧
      ∀ id ∈ (turn.before.directory 0).pools, Registered 0 first turn id := by
  obtain ⟨first, later, splits, -⟩ :=
    split_at (List.getElem?_eq_getElem (length_sweptHalf.2 ▸ (by decide : 14 < 18)))
  have reaches := reaches_run (sweptHalf ["second", "first"])
  rw [splits] at reaches
  have called : CalledFor (.shutAll 0 ["second", "first"]) 4
      (({} : Depot).turns (sweptHalf ["second", "first"]))[14].after :=
    ⟨.shutting [1, 0], by decide⟩
  obtain ⟨sweeps, registered⟩ :=
    unfiled_shut_or_stranded reaches (by decide) (by decide) called
  exact ⟨first, _, later, reaches, by decide, by decide, called, by decide, sweeps, registered⟩

/-- Once the task is over, all pools that it took out of the directory are closed. -/
def StrandsNone (directory : DirectoryId) (order : List String) : Prop :=
  ∀ (actions : List Action) (first later : List Turn) (turn : Turn) (last : Depot) (task : TaskId),
    Reaches actions (first ++ turn :: later) last → turn.actor = some task →
    turn.before.stage task = .asked → CalledFor (.shutAll directory order) task turn.after →
    (last.stage task).isOver = true →
    ∀ id ∈ (turn.before.directory directory).pools, (last.pool id).closed = true

theorem strands_of_open (task : TaskId) (id : PoolId) {actions : List Action} {place : Nat}
    (sets : (({} : Depot).turns actions)[place]? = some turn) (actor : turn.actor = some task)
    (asked : turn.before.stage task = .asked)
    (called : CalledFor (.shutAll directory order) task turn.after)
    (isOver : ((({} : Depot).run actions).stage task).isOver = true)
    (listed : id ∈ (turn.before.directory directory).pools)
    (isOpen : ((({} : Depot).run actions).pool id).closed = false) :
    ¬ StrandsNone directory order := by
  intro closes
  obtain ⟨first, later, splits, -⟩ := split_at sets
  have reaches := reaches_run actions
  rw [splits] at reaches
  have closed := closes actions first later turn _ task reaches actor asked called isOver id listed
  rw [isOpen] at closed
  cases closed

/-- In either order the pool that comes last is left open. -/
theorem sweptHalf_strands_one :
    ¬ StrandsNone 0 ["first", "second"] ∧ ¬ StrandsNone 0 ["second", "first"] := by
  constructor
  · have sets := List.getElem?_eq_getElem (length_sweptHalf.1 ▸ (by decide : 14 < 18))
    exact strands_of_open 4 1 sets (by decide) (by decide)
      ⟨.shutting [0, 1], by decide⟩ (by decide) (by decide) (by decide)
  · have sets := List.getElem?_eq_getElem (length_sweptHalf.2 ▸ (by decide : 14 < 18))
    exact strands_of_open 4 0 sets (by decide) (by decide)
      ⟨.shutting [1, 0], by decide⟩ (by decide) (by decide) (by decide)

end Depot

end HandlePool
