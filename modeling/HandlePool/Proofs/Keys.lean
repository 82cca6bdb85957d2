import HandlePool.Proofs.Sweep

namespace HandlePool

namespace Directory

structure Agrees (directory : Directory) : Prop where
  distinct : directory.keys.Nodup
  keys : ∀ key, key ∈ directory.keys ↔ ∃ id, directory.find? key = some id
  size : directory.size = directory.keys.length
  empty : directory.isEmpty = true ↔ ∀ key, directory.find? key = none

variable {directory : Directory} {key other : String} {id : PoolId}

theorem mem_of_find? (found : directory.find? key = some id) : (key, id) ∈ directory.entries := by
  obtain ⟨front, back, split, -⟩ := List.lookup_eq_some_iff.mp found
  rw [split]
  exact List.mem_append_right _ List.mem_cons_self

theorem find?_of_mem (distinct : directory.keys.Nodup) (member : (key, id) ∈ directory.entries) :
    directory.find? key = some id := by
  cases found : directory.find? key with
  | none =>
      have apart := List.lookup_eq_none_iff.mp found (key, id) member
      simp at apart
  | some other =>
      have same := List.inj_on_of_nodup_map distinct (mem_of_find? found) member rfl
      rw [(Prod.mk.inj same).2]

theorem find?_erase (directory : Directory) (key : String) :
    (directory.erase key).find? = Function.update directory.find? key none := by
  funext other
  obtain ⟨entries⟩ := directory
  show (entries.filter (·.1 != key)).lookup other = _
  by_cases same : other = key
  · subst same
    rw [Function.update_self, List.lookup_eq_none_iff]
    intro entry member
    have kept := (List.mem_filter.mp member).2
    rw [bne_iff_ne] at kept ⊢
    exact kept.symm
  · rw [Function.update_of_ne same]
    show _ = entries.lookup other
    induction entries with
    | nil => rfl
    | cons entry rest ih =>
        by_cases here : entry.1 = key
        · have apart : (other == entry.1) = false := by simp [here, same]
          rw [List.filter_cons_of_neg (by simp [here]), ih, List.lookup_cons, apart]
        · rw [List.filter_cons_of_pos (by simp [here]), List.lookup_cons, List.lookup_cons, ih]

theorem find?_insert (directory : Directory) (key : String) (id : PoolId) :
    (directory.insert key id).find? = Function.update directory.find? key (some id) := by
  funext other
  have erased := congrFun (directory.find?_erase key) other
  have split : (directory.insert key id).find? other =
      ((directory.erase key).find? other).or (List.lookup other [(key, id)]) :=
    List.lookup_append
  rw [split, erased]
  by_cases same : other = key
  · subst same
    simp
  · have apart : (other == key) = false := by simp [same]
    simp [Function.update_of_ne same, List.lookup_cons, apart]

theorem agrees_of_distinct (distinct : directory.keys.Nodup) : directory.Agrees := by
  have keys (key : String) : key ∈ directory.keys ↔ ∃ id, directory.find? key = some id := by
    constructor
    · intro member
      obtain ⟨entry, there, rfl⟩ := List.mem_map.mp member
      exact ⟨entry.2, find?_of_mem distinct there⟩
    · rintro ⟨id, found⟩
      exact List.mem_map_of_mem (mem_of_find? found)
  refine ⟨distinct, keys, by rw [size, Directory.keys, List.length_map], ?_⟩
  rw [isEmpty, List.isEmpty_iff]
  constructor
  · intro empty key
    rw [find?, empty]
    rfl
  · intro nothing
    cases entries : directory.entries with
    | nil => rfl
    | cons entry rest =>
        have member : (entry.1, entry.2) ∈ directory.entries := entries ▸ List.mem_cons_self
        have found := find?_of_mem distinct member
        rw [nothing] at found
        cases found

end Directory

/-- What an action makes of a directory as a map from keys to pools. The pool that is made next is
the `fresh` one. -/
def Action.refile (directory : DirectoryId) (fresh : PoolId) (map : String → Option PoolId) :
    Action → String → Option PoolId
  | .register id key dialer parameter limits =>
      if id = directory ∧ map key = none ∧ (Pool.open? key dialer parameter limits).isSome then
        Function.update map key (some fresh)
      else map
  | .unregister id key => if id = directory then Function.update map key none else map
  | .shutAll id _ => if id = directory then fun _ => none else map
  | _ => map

def Action.unfiles (directory : DirectoryId) (key : String) : Action → Bool
  | .unregister id other => id == directory && other == key
  | .shutAll id _ => id == directory
  | _ => false

namespace Depot

/-- The pool that is asked for by key is the one that is there, whatever it was asked for with, or
one that is made with that. If none can be made nothing is filed. -/
inductive Registers (directory : DirectoryId) (key : String) (dialer : Option DialerId)
    (parameter : String) (limits : Limits) (depot : Depot) (answer : Option PoolId)
    (next : Depot) : Prop where
  | found {id} (there : depot.registered? directory key = some id) (answers : answer = some id)
      (same : next = depot)
  | made {pool} (absent : depot.registered? directory key = none)
      (opens : Pool.open? key dialer parameter limits = some pool)
      (fits : pool.id = key ∧ pool.dialer = dialer ∧ pool.parameter = parameter ∧
        pool.limits = limits)
      (answers : answer = some depot.pools.length) (pools : next.pools = depot.pools ++ [pool])
      (filed : next.registered? directory key = answer)
  | failed (absent : depot.registered? directory key = none)
      (fails : Pool.open? key dialer parameter limits = none) (answers : answer = none)
      (pools : next.pools = depot.pools) (directories : next.directories = depot.directories)

structure IsMap (directory : DirectoryId) (depot : Depot) : Prop where
  agrees : (depot.directory directory).Agrees
  named : ∀ key id, depot.registered? directory key = some id →
    id < depot.pools.length ∧ (depot.pool id).id = key
  refiles : ∀ action, (depot.act action).registered? directory =
    action.refile directory depot.pools.length (depot.registered? directory)
  registers : ∀ key dialer parameter limits,
    Registers directory key dialer parameter limits depot
      (depot.register directory key dialer parameter limits).1
      (depot.act (.register directory key dialer parameter limits))
  unregisters : ∀ key, (depot.unregister directory key).1 = depot.registered? directory key ∧
    (depot.act (.unregister directory key)).pools = depot.pools

inductive Answers (directory : DirectoryId) (key : String) (depot : Depot) : Option PoolId → Prop
    where
  | registered : Answers directory key depot (depot.registered? directory key)
  | registers (dialer : Option DialerId) (parameter : String) (limits : Limits) :
      Answers directory key depot (depot.register directory key dialer parameter limits).1
  | unregisters : Answers directory key depot (depot.unregister directory key).1

/-- Which pools are the same, now and after some more actions. -/
structure Identifies (directory : DirectoryId) (depot : Depot) (later : List Action) : Prop where
  same : ∀ key id, depot.registered? directory key = some id →
    ∀ answer, Answers directory key (depot.run later) answer →
      (answer = some id ↔ ∀ action ∈ later, action.unfiles directory key = false)
  apart : ∀ key id other directory' id', depot.registered? directory key = some id →
    Answers directory' other (depot.run later) (some id') → key ≠ other → id ≠ id'

/-- What the task is asked for is to work on the pool, or on all pools of a directory that it was in
when the task began. -/
def Concerns (id : PoolId) (past : List Turn) (task : TaskId) : Request → Prop
  | .checkout pool _ | .giveBack pool _ | .discard pool _ | .shut pool => pool = id
  | .shutAll directory _ => ∃ turn ∈ past, turn.actor = some task ∧
      turn.before.stage task = .asked ∧ id ∈ (turn.before.directory directory).pools
  | _ => False

def Independent (actions : List Action) : Prop :=
  ∀ past turn later, ({} : Depot).turns actions = past ++ turn :: later →
    ∀ id < turn.before.pools.length, turn.after.pool id = turn.before.pool id ∨
      ∃ task request, turn.actor = some task ∧ CalledFor request task turn.after ∧
        Concerns id past task request

variable {id view site : PoolId} {depot next last : Depot} {task : TaskId}
  {actor : Option TaskId} {request : Request} {phase phase' : Phase} {pool : Pool}
  {directory : DirectoryId} {key : String} {actions : List Action}

theorem id_of_effect (effect : Effect depot task request id phase phase' pool) :
    pool.id = (depot.pool id).id := by
  have handed (pool : Pool) (slot reserved : Bool) :
      (pool.handBack slot reserved).id = pool.id := by
    rw [Pool.handBack_eq]
    rfl
  cases effect with
  | pass grant =>
      rw [Pool.recordWait_eq]
      cases grant <;> rfl
  | reuse taken =>
      rw [(Pool.takeNewest_eq_some taken).2]
  | reject taken =>
      rw [(Pool.takeNewest_eq_some taken).2]
      rfl
  | deny | refuse | panic | letGo | abandon => exact handed _ _ _
  | unconfigured => exact handed _ _ _
  | giveBack asks goes =>
      rename_i handle
      rw [Pool.releaseSlot_eq, ((depot.pool id).shelve_books handle).2]
      rfl
  | discard =>
      rw [Pool.releaseSlot_eq]
      rfl
  | shut => rw [Pool.shut_books]; rfl
  | _ => rfl

def MadeFor (id : PoolId) (key : String) (depot : Depot) : Prop :=
  id < depot.pools.length ∧ (depot.pool id).id = key

theorem MadeFor.keeps (move : Move view depot actor next) (made : MadeFor id key depot) :
    MadeFor id key next := by
  obtain ⟨inside, named⟩ := made
  refine ⟨Nat.lt_of_lt_of_le inside (pools_grow move), ?_⟩
  cases (touch_of_move move : Touch id depot actor next) with
  | missing outside => exact absurd inside (Nat.not_lt_of_le outside)
  | fresh outside => exact absurd inside (Nat.not_lt_of_le outside)
  | still same => rw [same, named]
  | other who same => rw [same, named]
  | own who inside becomes effect => rw [id_of_effect effect, named]

section Refiling

theorem directories_advance (count : Nat)
    (begun : ∀ found, depot.tasks[task]? = some found → found.phase ≠ .asked) :
    (advance count depot task).directories = depot.directories := by
  induction count generalizing depot with
  | zero => rfl
  | succ count ih =>
      unfold advance
      cases stepped : depot.step? task with
      | none => rfl
      | some next =>
          obtain ⟨found, here, step⟩ := Option.bind_eq_some_iff.mp stepped
          obtain ⟨-, begun'⟩ := move_of_step? 0 stepped begun
          exact (ih begun').trans
            (congrArg Backdrop.directories (backdrop_stepFrom step (begun found here)))

theorem directories_poll (resting : depot.Resting) :
    (depot.poll task).directories = depot.directories := by
  unfold poll
  split
  · rfl
  · exact directories_advance _ fun found => begun_of_resting resting

theorem directories_start (held : List Holding) (request : Request) :
    ((depot.enroll held request).poll depot.tasks.length).directories = depot.unfiled request := by
  obtain ⟨count, next, answers, -, polled⟩ := depot.startTurns_eq held request
  have moves := moves_answer (depot.enroll held request) depot.tasks.length request
  rw [← answers] at moves
  rw [polled, directories_advance count fun found => begun_of_answer moves, answers]
  refine (congrArg Backdrop.directories (backdrop_answer _ _ _)).trans ?_
  cases request <;> rfl

theorem directories_surrender {place : Nat} {request : HandleId → Request}
    (plain : ∀ handle, depot.unfiled (request handle) = depot.directories) :
    (depot.surrender place request).directories = depot.directories := by
  unfold surrender
  split
  · rfl
  · exact (directories_start _ _).trans (plain _)

theorem directories_drop (depot : Depot) (task : TaskId) :
    (depot.drop task).directories = depot.directories := by
  unfold drop
  split
  · rfl
  · split
    · rfl
    · exact congrArg Backdrop.directories (depot.backdrop_undo task _)

theorem fits_of_open? {dialer : Option DialerId} {parameter : String} {limits : Limits}
    (opens : Pool.open? key dialer parameter limits = some pool) :
    pool.id = key ∧ pool.dialer = dialer ∧ pool.parameter = parameter ∧ pool.limits = limits := by
  unfold Pool.open? at opens
  split at opens
  · obtain ⟨gate, -, rfl⟩ := Option.map_eq_some_iff.mp opens
    exact ⟨rfl, rfl, rfl, rfl⟩
  · cases opens
    exact ⟨rfl, rfl, rfl, rfl⟩

theorem find?_of_set {filing : Directory} {other : DirectoryId}
    (changed : next.directories = depot.directories.set other filing)
    (inside : directory < depot.directories.length) : (next.directory directory).find? =
      if other = directory then filing.find? else (depot.directory directory).find? := by
  rw [directory_of_set changed]
  by_cases same : other = directory
  · rw [if_pos ⟨same, inside⟩, if_pos same]
  · rw [if_neg fun here => same here.1, if_neg same]

theorem registers_register (inside : directory < depot.directories.length) (key : String)
    (dialer : Option DialerId) (parameter : String) (limits : Limits) :
    Registers directory key dialer parameter limits depot
      (depot.register directory key dialer parameter limits).1
      (depot.register directory key dialer parameter limits).2 := by
  have registers := depot.registering directory key dialer parameter limits
  generalize depot.register directory key dialer parameter limits = answered at registers ⊢
  cases registers with
  | found there => exact .found there rfl rfl
  | failed absent fails => exact .failed absent fails rfl rfl rfl
  | made absent opens =>
      refine .made absent opens (fits_of_open? opens) rfl rfl ?_
      rw [registered?, find?_of_set (by rfl) inside, if_pos rfl, Directory.find?_insert,
        Function.update_self]

def filings (depot : Depot) : Action → List Directory
  | .makeDirectory => depot.directories ++ [{}]
  | .register id key dialer parameter limits =>
      if depot.registered? id key = none ∧ (Pool.open? key dialer parameter limits).isSome then
        depot.directories.set id ((depot.directory id).insert key depot.pools.length)
      else depot.directories
  | .unregister id key => depot.directories.set id ((depot.directory id).erase key)
  | .shutAll id _ => depot.directories.set id {}
  | _ => depot.directories

theorem directories_act (resting : depot.Resting) (action : Action) :
    (depot.act action).directories = depot.filings action := by
  cases action with
  | register id key dialer parameter limits =>
      have registers := depot.registering id key dialer parameter limits
      rw [filings, act]
      generalize depot.register id key dialer parameter limits = answered at registers ⊢
      cases registers with
      | found there => rw [if_neg (by simp [there])]
      | failed absent fails => exact (if_neg (by simp [fails])).symm
      | made absent opens => exact (if_pos ⟨absent, Option.isSome_of_eq_some opens⟩).symm
  | makePool name dialer parameter limits =>
      exact congrArg Backdrop.directories (depot.backdrop_makePool name dialer parameter limits)
  | runMonitors => exact congrArg Backdrop.directories depot.backdrop_runMonitors
  | checkout | dial | shut | shutAll => exact directories_start depot.held _
  | giveBack | discard | closeHeld => exact directories_surrender fun _ => rfl
  | poll task => exact directories_poll resting
  | drop task => exact directories_drop depot task
  | _ => rfl

theorem refile_act (resting : depot.Resting) (inside : directory < depot.directories.length)
    (action : Action) : ((depot.act action).directory directory).find? =
      action.refile directory depot.pools.length (depot.directory directory).find? := by
  have changed := directories_act resting action
  cases action with
  | register id key dialer parameter limits =>
      rw [filings] at changed
      rw [Action.refile]
      by_cases here : id = directory
      · subst here
        split at changed
        · rename_i files
          rw [find?_of_set changed inside, if_pos rfl, if_pos ⟨rfl, files⟩,
            Directory.find?_insert]
        · rename_i kept
          rw [directory_of_same changed, if_neg fun both => kept both.2]
      · rw [if_neg fun both => here both.1]
        split at changed
        · rw [find?_of_set changed inside, if_neg here]
        · rw [directory_of_same changed]
  | unregister id key =>
      rw [Action.refile, find?_of_set changed inside, Directory.find?_erase]
      by_cases here : id = directory
      · rw [if_pos here, if_pos here, here]
      · rw [if_neg here, if_neg here]
  | shutAll id order => exact find?_of_set changed inside
  | makeDirectory => exact congrArg Directory.find? (depot.directory_makeDirectory directory)
  | _ => exact congrArg Directory.find? (directory_of_same changed directory)

theorem length_directories_act (resting : depot.Resting) (action : Action) :
    depot.directories.length ≤ (depot.act action).directories.length := by
  rw [directories_act resting]
  cases action with
  | register =>
      rw [filings]
      split
      · rw [List.length_set]
      · exact Nat.le_refl _
  | unregister | shutAll => rw [filings, List.length_set]
  | makeDirectory => simp [filings]
  | _ => exact Nat.le_refl _

inductive Files (directory : DirectoryId) (depot next : Depot) : Prop where
  | kept (same : next.directory directory = depot.directory directory)
  | erased (key : String) (same : next.directory directory = (depot.directory directory).erase key)
  | emptied (same : next.directory directory = {})
  | filed (key : String)
      (same : next.directory directory =
        (depot.directory directory).insert key depot.pools.length)
      (made : MadeFor depot.pools.length key next)

theorem files_of_set {id : DirectoryId} {filing : Directory}
    (changed : next.directories = depot.directories.set id filing)
    (files : next.directory id = filing → Files id depot next) : Files directory depot next := by
  have here := directory_of_set changed directory
  split at here
  · rename_i inside
    obtain ⟨rfl, -⟩ := inside
    exact files here
  · exact .kept here

theorem files_act (resting : depot.Resting) (action : Action) :
    Files directory depot (depot.act action) := by
  have changed := directories_act resting action
  cases action with
  | register id key dialer parameter limits =>
      rw [filings] at changed
      split at changed
      · rename_i files
        refine files_of_set changed fun same => .filed key same ?_
        have registers := depot.registering id key dialer parameter limits
        rw [act]
        generalize depot.register id key dialer parameter limits = answered at registers ⊢
        cases registers with
        | found there => simp [there] at files
        | failed absent fails => simp [fails] at files
        | made absent opens =>
            refine ⟨by simp [setDirectory], ?_⟩
            simp [Depot.pool, setDirectory, (fits_of_open? opens).1]
      · exact .kept (directory_of_same changed directory)
  | unregister id key => exact files_of_set changed fun same => .erased key same
  | shutAll id order => exact files_of_set changed fun same => .emptied same
  | makeDirectory => exact .kept (depot.directory_makeDirectory directory)
  | _ => exact .kept (directory_of_same changed directory)

end Refiling

section Keeping

theorem Files.distinct (files : Files directory depot next)
    (distinct : (depot.directory directory).keys.Nodup) :
    (next.directory directory).keys.Nodup := by
  cases files with
  | kept same => rw [same]; exact distinct
  | erased key same =>
      rw [same]
      exact distinct.sublist (List.filter_sublist.map _)
  | emptied same => rw [same]; exact .nil
  | filed key same =>
      rw [same, Directory.keys, Directory.insert, List.map_append]
      refine (distinct.sublist (List.filter_sublist.map _)).append (List.nodup_singleton _) ?_
      intro other member last
      obtain ⟨entry, there, rfl⟩ := List.mem_map.mp member
      have apart := (List.mem_filter.mp there).2
      rw [List.mem_singleton.mp last] at apart
      simp at apart

theorem Files.older_or_made {entry : String × PoolId} (files : Files directory depot next)
    (member : entry ∈ (next.directory directory).entries) :
    entry ∈ (depot.directory directory).entries ∨ MadeFor entry.2 entry.1 next := by
  cases files with
  | kept same => exact Or.inl (same ▸ member)
  | erased key same =>
      rw [same] at member
      exact Or.inl (List.mem_of_mem_filter member)
  | emptied same =>
      rw [same] at member
      cases member
  | filed key same made =>
      rw [same] at member
      rcases List.mem_append.mp member with before | last
      · exact Or.inl (List.mem_of_mem_filter before)
      · rw [List.mem_singleton.mp last]
        exact Or.inr made

structure Keyed (depot : Depot) : Prop where
  distinct : ∀ directory, (depot.directory directory).keys.Nodup
  made : ∀ directory, ∀ entry ∈ (depot.directory directory).entries,
    MadeFor entry.2 entry.1 depot

theorem Keyed.keeps (resting : depot.Resting) (action : Action) (keyed : Keyed depot) :
    Keyed (depot.act action) := by
  obtain ⟨view, -, chain⟩ := exists_chain_of_resting resting [action]
  constructor
  · intro directory
    exact (files_act resting action).distinct (keyed.distinct directory)
  · intro directory entry member
    rcases (files_act resting action).older_or_made member with older | made
    · exact (chain.keeps MadeFor.keeps (keyed.made directory entry older)).1
    · exact made

theorem keyed_empty : Keyed {} := by
  constructor
  · intro directory
    exact .nil
  · intro directory entry member
    cases member

theorem keyed_run (resting : depot.Resting) (keyed : Keyed depot) (actions : List Action) :
    (depot.run actions).Resting ∧ Keyed (depot.run actions) := by
  induction actions generalizing depot with
  | nil => exact ⟨resting, keyed⟩
  | cons action rest ih =>
      obtain ⟨view, resting', -⟩ := exists_chain_of_resting resting [action]
      exact ih resting' (keyed.keeps resting action)

theorem made_of_find? (keyed : Keyed depot)
    (found : (depot.directory directory).find? key = some id) : MadeFor id key depot :=
  keyed.made directory (key, id) (Directory.mem_of_find? found)

theorem isMap_of_keyed (resting : depot.Resting) (keyed : Keyed depot)
    (inside : directory < depot.directories.length) : IsMap directory depot where
  agrees := Directory.agrees_of_distinct (keyed.distinct directory)
  named := fun _ _ found => made_of_find? keyed found
  refiles := refile_act resting inside
  registers := registers_register inside
  unregisters := fun _ => ⟨rfl, rfl⟩

theorem unlisted_of_unfiles (resting : depot.Resting) (keyed : Keyed depot)
    (inside : directory < depot.directories.length) {action : Action}
    (unfiles : action.unfiles directory key = true)
    (found : (depot.directory directory).find? key = some id) :
    Unlisted directory id (depot.act action) := by
  have keyed' := keyed.keeps resting action
  obtain ⟨view, -, chain⟩ := exists_chain_of_resting resting [action]
  have made := (chain.keeps MadeFor.keeps (made_of_find? keyed found)).1
  refine ⟨made.1, fun member => ?_⟩
  obtain ⟨⟨other, id⟩, there, rfl⟩ := List.mem_map.mp member
  -- The pool was made for the key that was taken out.
  cases (keyed'.made directory (other, id) there).2.symm.trans made.2
  have still := Directory.find?_of_mem (keyed'.distinct directory) there
  rw [refile_act resting inside] at still
  cases action with
  | unregister number last =>
      simp only [Action.unfiles, Bool.and_eq_true, beq_iff_eq] at unfiles
      rw [Action.refile, if_pos unfiles.1, unfiles.2, Function.update_self] at still
      cases still
  | shutAll number order =>
      rw [Action.refile, if_pos (beq_iff_eq.mp unfiles)] at still
      cases still
  | _ => cases unfiles

theorem find?_of_kept (resting : depot.Resting) (inside : directory < depot.directories.length)
    {action : Action} (kept : action.unfiles directory key = false)
    (found : (depot.directory directory).find? key = some id) :
    ((depot.act action).directory directory).find? key = some id := by
  rw [refile_act resting inside]
  cases action with
  | register number other dialer parameter limits =>
      rw [Action.refile]
      split
      · rename_i files
        rw [Function.update_of_ne]
        · exact found
        · rintro rfl
          rw [found] at files
          cases files.2.1
      · exact found
  | unregister number other =>
      rw [Action.refile]
      split
      · rename_i here
        rw [Function.update_of_ne]
        · exact found
        · rintro rfl
          simp [Action.unfiles, here] at kept
      · exact found
  | shutAll number order =>
      rw [Action.refile, if_neg (beq_eq_false_iff_ne.mp kept)]
      exact found
  | _ => exact found

theorem found_iff_kept (resting : depot.Resting) (keyed : Keyed depot)
    (inside : directory < depot.directories.length)
    (found : (depot.directory directory).find? key = some id) (later : List Action) :
    ((depot.run later).directory directory).find? key = some id ↔
      ∀ action ∈ later, action.unfiles directory key = false := by
  induction later generalizing depot with
  | nil => exact iff_of_true found (List.forall_mem_nil _)
  | cons action rest ih =>
      obtain ⟨view, resting', -⟩ := exists_chain_of_resting resting [action]
      rw [List.forall_mem_cons]
      cases unfiles : action.unfiles directory key with
      | true =>
          obtain ⟨view, -, chain⟩ := exists_chain_of_resting resting' rest
          have unlisted := unlisted_of_unfiles resting keyed inside unfiles found
          have ended := (chain.keeps unlisted_of_move unlisted).1
          refine iff_of_false (fun again => ended.absent ?_) (by simp)
          exact List.mem_map_of_mem (Directory.mem_of_find? again)
      | false =>
          rw [and_iff_right rfl]
          exact ih resting' (keyed.keeps resting action)
            (Nat.lt_of_lt_of_le inside (length_directories_act resting action))
            (find?_of_kept resting inside unfiles found)

theorem answer_iff_kept (resting : depot.Resting) (keyed : Keyed depot)
    (inside : directory < depot.directories.length)
    (found : depot.registered? directory key = some id) {later : List Action}
    {answer : Option PoolId} (answers : Answers directory key (depot.run later) answer) :
    answer = some id ↔ ∀ action ∈ later, action.unfiles directory key = false := by
  have kept := found_iff_kept resting keyed inside found later
  cases answers with
  | registered | unregisters => exact kept
  | registers dialer parameter limits =>
      rw [← kept]
      obtain ⟨view, -, chain⟩ := exists_chain_of_resting resting later
      have made := (chain.keeps MadeFor.keeps (made_of_find? keyed found)).1
      have registers := (depot.run later).registering directory key dialer parameter limits
      generalize (depot.run later).register directory key dialer parameter limits = answered
        at registers ⊢
      cases registers with
      | found there =>
          rw [registered?] at there
          rw [there]
      | failed absent fails =>
          rw [registered?] at absent
          rw [absent]
      | made absent opens =>
          rw [registered?] at absent
          rw [absent]
          refine iff_of_false (fun same => ?_) (by simp)
          exact Nat.ne_of_gt made.1 (Option.some.inj same)

theorem madeFor_of_answers (keyed : Keyed depot) (answers : Answers directory key depot (some id)) :
    MadeFor id key depot ∨ id = depot.pools.length := by
  generalize answered : some id = answer at answers
  cases answers with
  | registered | unregisters => exact Or.inl (made_of_find? keyed answered.symm)
  | registers dialer parameter limits =>
      have registers := depot.registering directory key dialer parameter limits
      generalize depot.register directory key dialer parameter limits = outcome
        at registers answered
      cases registers with
      | found there => exact Or.inl (made_of_find? keyed (there.trans answered.symm))
      | failed => cases answered
      | made => exact Or.inr (Option.some.inj answered)

end Keeping

section Concerns

variable {past : List Turn}

def Attends (past : List Turn) (depot : Depot) : Prop :=
  ∀ (task : TaskId) (found : Task), depot.tasks[task]? = some found →
    ∀ id ∈ found.phase.ahead, Concerns id past task found.request

theorem Concerns.later (concerned : Concerns id past task request) (more : List Turn) :
    Concerns id (past ++ more) task request := by
  cases request with
  | shutAll number order =>
      obtain ⟨turn, member, listed⟩ := concerned
      exact ⟨turn, List.mem_append_left _ member, listed⟩
  | _ => exact concerned

theorem ahead_of_leg (leg : Leg depot request next phase phase') :
    phase'.ahead.Sublist phase.ahead ∨ phase = .asked ∧ phase'.ahead = depot.toShut request := by
  cases leg with
  | apart before after =>
      rw [(nothing_of_apart 0 after).1]
      exact Or.inl (List.nil_sublist _)
  | setsOut => exact Or.inr ⟨rfl, rfl⟩
  | passes | shuts => exact Or.inl (List.sublist_cons_self _ _)
  | begins | drained | ends => exact Or.inl (List.Sublist.refl _)
  | arrives | dropped => exact Or.inl (List.nil_sublist _)

theorem concerns_of_toShut (begins : depot.stage task = .asked)
    (member : id ∈ depot.toShut request) :
    Concerns id (past ++ [⟨some task, depot, next⟩]) task request := by
  cases request with
  | shut pool => exact (List.mem_singleton.mp member).symm
  | shutAll number order =>
      have listed := ((depot.directory number).poolsBy_perm order).mem_iff.mp member
      exact ⟨_, List.mem_append_right _ List.mem_cons_self, rfl, begins, listed⟩
  | _ => cases member

theorem Attends.keeps (move : Move view depot actor next) (attends : Attends past depot) :
    Attends (past ++ [⟨actor, depot, next⟩]) next := by
  intro task found here id ahead
  by_cases mine : actor = some task
  · subst mine
    obtain ⟨request, phase, phase', site, pool, held, effect, pools, tasks, -⟩ :=
      shift_of_move move
    cases here.symm.trans (phase_of_becomes tasks)
    rcases ahead_of_leg (leg_of_move move tasks) with fewer | ⟨rfl, all⟩
    · have before := fewer.subset ahead
      rcases before_of_becomes tasks with ⟨rfl, -⟩ | ⟨-, there⟩
      · cases before
      · exact (attends task ⟨request, phase⟩ there id before).later _
    · exact concerns_of_toShut (stage_before tasks) (all ▸ ahead)
  · rw [tasks_of_others move mine] at here
    exact (attends task found here id ahead).later _

theorem attends_of_chain (chain : Chain view {} past last) : Attends past last := by
  induction past using List.reverseRecOn generalizing last with
  | nil =>
      cases chain
      intro task found here
      cases here
  | append_singleton past turn ih =>
      obtain ⟨front, move, rest⟩ := chain.at_turn
      cases rest
      exact (ih front).keeps move

theorem concerns_of_effect (effect : Effect depot task request site phase phase' pool)
    (uses : ∀ id, phase.stake? = some id → Concerns id past task request)
    (ahead : ∀ id ∈ phase.ahead, Concerns id past task request) :
    pool = depot.pool site ∨ Concerns site past task request := by
  cases effect with
  | aside => exact Or.inl rfl
  | turnedAway asks | queue asks | bounce asks | giveBack asks | discard asks =>
      subst asks
      exact Or.inr rfl
  | pass grant =>
      right
      cases grant with
      | free asks | taken asks =>
          subst asks
          exact rfl
      | collected => exact uses site rfl
  | abandon held =>
      right
      rcases held with rfl | ⟨handle, due, rfl⟩ <;> exact uses site rfl
  | shut => exact Or.inr (ahead site List.mem_cons_self)
  | _ => exact Or.inr (uses site rfl)

theorem concerns_of_move (move : Move view depot actor next) (suited : Suited depot)
    (attends : Attends past depot) (inside : id < depot.pools.length) :
    next.pool id = depot.pool id ∨ ∃ task request, actor = some task ∧
      CalledFor request task next ∧ Concerns id past task request := by
  cases (touch_of_move move : Touch id depot actor next) with
  | missing outside => exact absurd inside (Nat.not_lt_of_le outside)
  | fresh outside => exact absurd inside (Nat.not_lt_of_le outside)
  | still same => exact Or.inl same
  | other who same => exact Or.inl same
  | own who inside' becomes effect =>
      rename_i task request phase phase'
      have before := before_of_becomes becomes
      have uses (site : PoolId) (shows : phase.stake? = some site) :
          Concerns site past task request := by
        rcases before with ⟨rfl, -⟩ | ⟨-, there⟩
        · cases shows
        · obtain ⟨context, rfl⟩ := (suited task _ there).uses site shows
          exact rfl
      have ahead (site : PoolId) (member : site ∈ phase.ahead) :
          Concerns site past task request := by
        rcases before with ⟨rfl, -⟩ | ⟨-, there⟩
        · cases member
        · exact attends task _ there site member
      rcases concerns_of_effect effect uses ahead with same | concerned
      · exact Or.inl same
      · exact Or.inr ⟨task, request, who, ⟨phase', phase_of_becomes becomes⟩, concerned⟩

theorem independent (actions : List Action) : Independent actions := by
  intro past turn later split id inside
  obtain ⟨view, chain⟩ := exists_chain actions
  rw [split] at chain
  obtain ⟨front, move, -⟩ := chain.at_turn
  have suited := (front.keeps suited_of_move suited_empty).1
  exact concerns_of_move move suited (attends_of_chain front) inside

end Concerns

/-- In every run a directory is a map from keys to pools. A pool that is asked for by key is the one
that is there, and made only if there is none, with the key as its name; if it cannot be made the
directory stays as it was. The pool under a key is the same until the key is taken out, which does
nothing to the pool, and after that it is another one for good. Pools under different keys are
different, and nothing that is done with one changes another. -/
theorem directory_is_map {earlier : List Action} (later : List Action)
    (reached : ({} : Depot).run earlier = depot) (inside : directory < depot.directories.length) :
    IsMap directory depot ∧ Identifies directory depot later ∧ Independent (earlier ++ later) := by
  obtain ⟨resting, keyed⟩ := keyed_run resting_empty keyed_empty earlier
  rw [reached] at resting keyed
  obtain ⟨view, -, chain⟩ := exists_chain_of_resting resting later
  refine ⟨isMap_of_keyed resting keyed inside, ⟨?_, ?_⟩, independent _⟩
  · intro key id found answer answers
    exact answer_iff_kept resting keyed inside found answers
  · rintro key id other directory' id' found answers apart rfl
    have made := (chain.keeps MadeFor.keeps (made_of_find? keyed found)).1
    rcases madeFor_of_answers (keyed_run resting keyed later).2 answers with made' | fresh
    · exact apart (made.2.symm.trans made'.2)
    · exact Nat.ne_of_lt made.1 fresh

def twoKeys : List Action :=
  [.makeDirectory, .register 0 "first" none "" {}, .register 0 "second" none "" {},
   .register 0 "first" none "" { maxIdle := 1 }]

def refiled : List Action :=
  [.unregister 0 "first",
   .register 0 "first" none "" { maxActive := 2305843009213693952, wait := true },
   .register 0 "first" none "" { maxIdle := 1 }]

theorem directory_is_map_refiled :
    (IsMap 0 (({} : Depot).run twoKeys) ∧ Identifies 0 (({} : Depot).run twoKeys) refiled ∧
        Independent (twoKeys ++ refiled)) ∧
      ((({} : Depot).run twoKeys).directory 0).entries = [("first", 0), ("second", 1)] ∧
      ((({} : Depot).run (twoKeys ++ refiled)).directory 0).entries =
        [("second", 1), ("first", 2)] :=
  ⟨directory_is_map refiled rfl (by decide), by decide, by decide +kernel⟩

end Depot

end HandlePool
