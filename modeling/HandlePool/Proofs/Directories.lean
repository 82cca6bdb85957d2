import HandlePool.Proofs.Backdrop
import HandlePool.Proofs.OwnTurns

namespace HandlePool

namespace Directory

theorem arrange_perm (order : List String) (entries : List (String × PoolId)) :
    (arrange order entries).Perm entries := by
  induction order generalizing entries with
  | nil => exact .refl _
  | cons key order ih =>
      exact ((ih _).append_left _).trans (List.filter_append_perm _ entries)

theorem poolsBy_perm (directory : Directory) (order : List String) :
    (directory.poolsBy order).Perm directory.pools :=
  (arrange_perm order _).map _

/-- Where no key stands twice, every order of the entries is that of their keys. -/
theorem arrange_of_perm {listed entries : List (String × PoolId)} (perm : listed.Perm entries)
    (distinct : (entries.map (·.1)).Nodup) :
    arrange (listed.map (·.1)) entries = listed := by
  induction listed generalizing entries with
  | nil =>
      rw [List.nil_perm.mp perm]
      rfl
  | cons entry listed ih =>
      have keys := (perm.map (·.1)).nodup_iff.mpr distinct
      rw [List.map_cons, List.nodup_cons] at keys
      have others : ∀ other ∈ listed, other.1 ≠ entry.1 := fun other member same =>
        keys.1 (same ▸ List.mem_map_of_mem member)
      have first : entries.filter (·.1 == entry.1) = [entry] := by
        apply List.perm_singleton.mp
        refine (perm.filter _).symm.trans (.of_eq ?_)
        rw [List.filter_cons_of_pos (by simp), List.filter_eq_nil_iff.mpr]
        simpa using others
      have rest : listed.Perm (entries.filter (·.1 != entry.1)) := by
        refine .trans (.of_eq ?_) (perm.filter _)
        rw [List.filter_cons_of_neg (by simp), List.filter_eq_self.mpr]
        simpa using others
      rw [List.map_cons, arrange, first,
        ih rest (distinct.sublist (List.filter_sublist.map _))]
      rfl

end Directory

namespace Depot

variable {depot next mid : Depot} {task : TaskId} {request : Request} {phase : Phase}
  {id view : PoolId} {slot : Bool} {outcome : Outcome}

theorem unfiled_of_begins (move : Move view depot (some task) next)
    (called : CalledFor request task next) (asked : depot.stage task = .asked) :
    next.directories = depot.unfiled request := by
  cases move with
  | begins begins moves answers =>
      rename_i given held
      obtain ⟨phase, -, tasks⟩ := tasks_of_answer moves
      obtain ⟨last, there⟩ := called
      rw [tasks, List.getElem?_concat_length] at there
      cases there
      rw [answers]
      refine (congrArg Backdrop.directories (backdrop_answer _ _ _)).trans ?_
      cases request <;> rfl
  | steps here begun =>
      rw [stage, phase?_of_getElem? here, Option.getD_some] at asked
      exact absurd asked begun

theorem directories_of_begun (move : Move view depot (some task) next)
    (begun : depot.stage task ≠ .asked) : next.directories = depot.directories := by
  cases move with
  | begins =>
      exact absurd depot.stage_length begun
  | steps here begun unfinished moves goes =>
      rcases goes with step | dropped
      · exact congrArg Backdrop.directories (backdrop_stepFrom step begun)
      · rw [dropped]
        exact congrArg Backdrop.directories (depot.backdrop_undo task _)

theorem directory_of_same (same : next.directories = depot.directories)
    (directory : DirectoryId) : next.directory directory = depot.directory directory := by
  rw [Depot.directory, same, Depot.directory]

theorem directory_of_set {id : DirectoryId} {filing : Directory}
    (changed : next.directories = depot.directories.set id filing) (other : DirectoryId) :
    next.directory other =
      if id = other ∧ other < depot.directories.length then filing else depot.directory other := by
  simp only [Depot.directory, changed, List.getD_eq_getElem?_getD, List.getElem?_set]
  by_cases same : id = other
  · by_cases inside : other < depot.directories.length
    · simp [same, inside]
    · simp [same, inside]
  · simp [same]

inductive Refiled (depot next : Depot) (directory : DirectoryId) : Prop where
  | kept (fewer : (next.directory directory).pools.Sublist (depot.directory directory).pools)
  | filed (older : List PoolId) (fewer : older.Sublist (depot.directory directory).pools)
      (pools : (next.directory directory).pools = older ++ [depot.pools.length])
      (made : depot.pools.length < next.pools.length)

theorem refiled_of_same (same : next.directories = depot.directories) (directory : DirectoryId) :
    Refiled depot next directory := by
  apply Refiled.kept
  rw [directory_of_same same]

theorem pools_erase_sublist (directory : Directory) (key : String) :
    (directory.erase key).pools.Sublist directory.pools :=
  List.filter_sublist.map _

theorem refiled_of_set {id : DirectoryId} {filing : Directory}
    (changed : next.directories = depot.directories.set id filing)
    (fewer : filing.pools.Sublist (depot.directory id).pools) (directory : DirectoryId) :
    Refiled depot next directory := by
  apply Refiled.kept
  rw [directory_of_set changed]
  split
  · rename_i same
    exact same.1 ▸ fewer
  · exact List.Sublist.refl _

theorem refiled_of_insert {id : DirectoryId} {key : String}
    (changed : next.directories =
      depot.directories.set id ((depot.directory id).insert key depot.pools.length))
    (made : depot.pools.length < next.pools.length) (directory : DirectoryId) :
    Refiled depot next directory := by
  by_cases here : id = directory ∧ directory < depot.directories.length
  · refine .filed ((depot.directory id).erase key).pools ?_ ?_ made
    · rw [here.1]
      exact pools_erase_sublist _ key
    · rw [directory_of_set changed, if_pos here]
      exact List.map_append
  · apply Refiled.kept
    rw [directory_of_set changed, if_neg here]

theorem refiled_register (depot : Depot) (id : DirectoryId) (key : String)
    (dialer : Option DialerId) (parameter : String) (limits : Limits) (directory : DirectoryId) :
    Refiled depot (depot.register id key dialer parameter limits).2 directory := by
  have registers := depot.registering id key dialer parameter limits
  generalize depot.register id key dialer parameter limits = answered at registers ⊢
  cases registers with
  | found | failed => exact refiled_of_same (by rfl) directory
  | made absent opens =>
      apply refiled_of_insert (by rfl)
      simp [setDirectory]

theorem directory_makeDirectory (depot : Depot) (directory : DirectoryId) :
    (depot.act .makeDirectory).directory directory = depot.directory directory := by
  simp only [act, Depot.directory, List.getD_eq_getElem?_getD, List.getElem?_append]
  split
  · rfl
  · rename_i outside
    rw [List.getElem?_eq_none (Nat.le_of_not_lt outside)]
    cases directory - depot.directories.length <;> rfl

theorem refiled_makeDirectory (depot : Depot) (directory : DirectoryId) :
    Refiled depot (depot.act .makeDirectory) directory := by
  apply Refiled.kept
  rw [directory_makeDirectory]

theorem refiled_outside {action : Action} (isOutside : action.isOutside = true)
    (directory : DirectoryId) : Refiled depot (depot.act action) directory := by
  cases action with
  | unregister id key => exact refiled_of_set rfl (pools_erase_sublist _ key) directory
  | register id key dialer parameter limits =>
      exact depot.refiled_register id key dialer parameter limits directory
  | makeDirectory => exact depot.refiled_makeDirectory directory
  | makePool name dialer parameter limits =>
      exact refiled_of_same
        (congrArg Backdrop.directories (depot.backdrop_makePool name dialer parameter limits))
        directory
  | runMonitors =>
      exact refiled_of_same (congrArg Backdrop.directories depot.backdrop_runMonitors) directory
  | checkout | giveBack | discard | closeHeld | dial | shut | shutAll | poll | drop =>
      cases isOutside
  | _ => exact refiled_of_same (by rfl) directory

theorem refiled_of_move {actor : Option TaskId} (move : Move view depot actor next)
    (directory : DirectoryId) : Refiled depot next directory := by
  cases actor with
  | none =>
      cases move with
      | outside resting tasks held pools acts =>
          obtain ⟨action, isOutside, rfl⟩ := acts
          exact refiled_outside isOutside directory
  | some task =>
      by_cases asked : depot.stage task = .asked
      · obtain ⟨request, phase, phase', site, pool, held, effect, pools, tasks, -⟩ :=
          shift_of_move move
        have unfiled := unfiled_of_begins move ⟨phase', phase_of_becomes tasks⟩ asked
        cases request with
        | shutAll id => exact refiled_of_set unfiled (List.nil_sublist _) directory
        | _ => exact refiled_of_same unfiled directory
      · exact refiled_of_same (directories_of_begun move asked) directory

def Filed (depot : Depot) : Prop :=
  ∀ directory, (depot.directory directory).pools.Nodup ∧
    ∀ id ∈ (depot.directory directory).pools, id < depot.pools.length

structure Unlisted (directory : DirectoryId) (id : PoolId) (depot : Depot) : Prop where
  there : id < depot.pools.length
  absent : id ∉ (depot.directory directory).pools

theorem filed_of_move {actor : Option TaskId} (move : Move view depot actor next)
    (filed : Filed depot) : Filed next := by
  intro directory
  have grown := pools_grow move
  obtain ⟨distinct, there⟩ := filed directory
  cases refiled_of_move move directory with
  | kept fewer =>
      exact ⟨distinct.sublist fewer, fun id member =>
        Nat.lt_of_lt_of_le (there id (fewer.subset member)) grown⟩
  | filed older fewer pools made =>
      have before (id : PoolId) (member : id ∈ older) : id < depot.pools.length :=
        there id (fewer.subset member)
      rw [pools]
      constructor
      · apply (distinct.sublist fewer).append (List.nodup_singleton _)
        intro id member last
        rw [List.mem_singleton.mp last] at member
        exact Nat.lt_irrefl _ (before _ member)
      · intro id member
        rcases List.mem_append.mp member with old | last
        · exact Nat.lt_of_lt_of_le (before id old) grown
        · rw [List.mem_singleton.mp last]
          exact made

theorem unlisted_of_move {actor : Option TaskId} {directory : DirectoryId}
    (move : Move view depot actor next) (unlisted : Unlisted directory id depot) :
    Unlisted directory id next := by
  refine ⟨Nat.lt_of_lt_of_le unlisted.there (pools_grow move), fun member => ?_⟩
  cases refiled_of_move move directory with
  | kept fewer => exact unlisted.absent (fewer.subset member)
  | filed older fewer pools made =>
      rw [pools] at member
      rcases List.mem_append.mp member with old | last
      · exact unlisted.absent (fewer.subset old)
      -- Only a pool that was not there before is filed.
      · exact Nat.ne_of_lt unlisted.there (List.mem_singleton.mp last)

theorem filed_empty : Filed {} := by
  intro directory
  exact ⟨List.nodup_nil, fun id member => by cases member⟩

end Depot

end HandlePool
