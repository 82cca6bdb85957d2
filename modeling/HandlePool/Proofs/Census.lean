import HandlePool.Proofs.Turns
import Mathlib.Algebra.GroupWithZero.Nat
import Mathlib.Data.List.Perm.Basic

namespace HandlePool

def Phase.checkedOut? (id : PoolId) : Phase → Option HandleId
  | .finished (.checkedOut pool handle) => if pool = id then some handle else none
  | _ => none

def Request.returnedTo? (id : PoolId) (request : Request) : Option HandleId :=
  request.returned?.bind fun (pool, handle) => if pool = id then some handle else none

namespace Depot

def census (depot : Depot) (test : Phase → Bool) : Nat := depot.tasks.countP (test ·.phase)

theorem census_eq_sum (depot : Depot) (test : Phase → Bool) :
    depot.census test = (depot.tasks.map fun task => (test task.phase).toNat).sum := by
  unfold census
  induction depot.tasks with
  | nil => rfl
  | cons task rest ih =>
      rw [List.countP_cons, ih, List.map_cons, List.sum_cons, Nat.add_comm]
      cases test task.phase <;> rfl

def checkedOut (depot : Depot) (id : PoolId) : List HandleId :=
  depot.tasks.filterMap (·.phase.checkedOut? id)

def cameBack (depot : Depot) (id : PoolId) : List HandleId :=
  depot.tasks.filterMap (·.request.returnedTo? id)

/-- How the list of tasks changes by a move: a task is new, or goes on to another phase. -/
inductive Becomes (tasks : List Task) (request : Request) :
    TaskId → Phase → Phase → List Task → Prop where
  | new {phase'} : Becomes tasks request tasks.length .asked phase' (tasks ++ [⟨request, phase'⟩])
  | old {task phase phase'} (here : tasks[task]? = some ⟨request, phase⟩) (begun : phase ≠ .asked)
      (unfinished : phase.isOver = false) :
      Becomes tasks request task phase phase' (tasks.set task ⟨request, phase'⟩)

inductive Shift (id : PoolId) (depot : Depot) (task : TaskId) (next : Depot) : Prop where
  | intro (request : Request) (phase phase' : Phase) (site : PoolId) (pool : Pool)
      (held : List Holding) (effect : Effect depot task request site phase phase' pool)
      (pools : next.pools = depot.pools.set site pool)
      (tasks : Becomes depot.tasks request task phase phase' next.tasks)
      (called : phase = .asked → depot.Called id request held)
      (kept : phase ≠ .asked → held = depot.held)
      (gained : next.held = held ++ gains task phase')

/-- What a move does in view of one pool. -/
inductive Touch (id : PoolId) (depot : Depot) (actor : Option TaskId) (next : Depot) : Prop where
  | missing (outside : depot.pools.length ≤ id) (outside' : next.pools.length ≤ id)
  | fresh (outside : depot.pools.length ≤ id) (fresh : (next.pool id).IsFresh)
      (resting : depot.Resting) (tasks : next.tasks = depot.tasks)
  | still (same : next.pool id = depot.pool id) (tasks : next.tasks = depot.tasks)
  | other {task request phase phase'} (who : actor = some task)
      (same : next.pool id = depot.pool id)
      (becomes : Becomes depot.tasks request task phase phase' next.tasks)
      (apart : phase.stake? ≠ some id) (apart' : phase'.stake? ≠ some id)
      (plain : phase = .asked → request.returnedTo? id = none)
  | own {task request phase phase'} (who : actor = some task) (inside : id < depot.pools.length)
      (becomes : Becomes depot.tasks request task phase phase' next.tasks)
      (effect : Effect depot task request id phase phase' (next.pool id))

variable {id site : PoolId} {depot next : Depot} {task : TaskId} {request : Request}
  {phase phase' : Phase} {pool : Pool}

theorem grant_of_enroll {held : List Holding} {called : Request} {slot : Bool}
    {waited : Option Nat}
    (grant : (depot.enroll held called).Grant task request id phase pool slot waited) :
    depot.Grant task request id phase pool slot waited := by
  cases grant with
  | free asks ungated => exact .free asks ungated
  | taken asks gated isOpen left quiet => exact .taken asks gated isOpen left quiet
  | collected gated isOpen handed quiet => exact .collected gated isOpen handed quiet

theorem answer_of_enroll (held : List Holding) (called : Request) (call : Call) :
    ((depot.enroll held called).endDial call).1 = (depot.endDial call).1 := by
  have same : (depot.enroll held called).dialer call.dialer = depot.dialer call.dialer := rfl
  unfold endDial
  rw [same]
  cases (depot.dialer call.dialer).conclude call.ending with
  | mk ending dialer => cases ending <;> rfl

theorem exists_phase? {entry : Task} (member : entry ∈ depot.tasks) :
    ∃ task, depot.phase? task = some entry.phase := by
  obtain ⟨task, here⟩ := List.getElem?_of_mem member
  exact ⟨task, phase?_of_getElem? here⟩

theorem effect_of_enroll {held : List Holding} {called : Request}
    (effect : (depot.enroll held called).Effect task request id phase phase' pool) :
    depot.Effect task request id phase phase' pool := by
  cases effect with
  | aside apart apart' begun plain served calm carries dials =>
      refine .aside apart apart' begun plain served (fun message isOver => ?_) carries
        fun handle isOver => ?_
      · obtain ⟨call, from_, answer⟩ := calm message isOver
        exact ⟨call, from_, (answer_of_enroll held called call).symm.trans answer⟩
      · obtain ⟨call, from_, answer⟩ := dials handle isOver
        exact ⟨call, from_, (answer_of_enroll held called call).symm.trans answer⟩
  | turnedAway asks gated why => exact .turnedAway asks gated why
  | queue asks gated isOpen full quiet => exact .queue asks gated isOpen full quiet
  | pass grant => exact .pass (grant_of_enroll grant)
  | bounce asks gated isOpen left fired => exact .bounce asks gated isOpen left fired
  | quit why => exact .quit why
  | leave => exact .leave
  | reuse taken usable => exact .reuse taken usable
  | reject taken unusable goes dead => exact .reject taken unusable goes dead
  | deny empty refused => exact .deny empty refused
  | unconfigured empty allowed missing => exact .unconfigured empty allowed missing
  | dial empty allowed there => exact .dial empty allowed there
  | connect answer => exact .connect ((answer_of_enroll held called _).symm.trans answer)
  | refuse answer => exact .refuse ((answer_of_enroll held called _).symm.trans answer)
  | panic answer => exact .panic ((answer_of_enroll held called _).symm.trans answer)
  | letGo => exact .letGo
  | rescan => exact .rescan
  | abandon held => exact .abandon held
  | giveBack asks goes => exact .giveBack asks goes
  | discard asks goes dead => exact .discard asks goes dead
  | shut isOpen => exact .shut isOpen

theorem shift_of_move (move : Move id depot (some task) next) : Shift id depot task next := by
  cases move with
  | begins called moves answers =>
      rename_i request held
      obtain ⟨phase', site, pool, tasks, gained, pools, effect⟩ := moves
      refine .intro request .asked phase' site pool held (effect_of_enroll effect) pools ?_
        (fun _ => called) (fun begun => absurd rfl begun) gained
      rw [tasks, modify_enroll]
      exact .new
  | steps here begun unfinished moves goes =>
      rename_i found
      obtain ⟨phase', site, pool, tasks, gained, pools, effect⟩ := moves
      refine .intro found.request found.phase phase' site pool depot.held effect pools ?_
        (fun asked => absurd asked begun) (fun _ => rfl) gained
      have replaced : next.tasks = depot.tasks.set task ⟨found.request, phase'⟩ := by
        rw [tasks, List.modify_eq_set_getElem?, here]
        rfl
      rw [replaced]
      exact .old here begun unfinished

section

variable {tasks tasks' : List Task}

theorem split_at {Item : Type} {items : List Item} {place : Nat} {item : Item}
    (here : items[place]? = some item) :
    ∃ front back, items = front ++ item :: back ∧
      ∀ changed, items.set place changed = front ++ changed :: back := by
  obtain ⟨inside, rfl⟩ := List.getElem?_eq_some_iff.mp here
  refine ⟨items.take place, items.drop (place + 1), by simp, ?_⟩
  intro changed
  rw [List.set_eq_take_append_cons_drop, if_pos inside]

theorem countP_tasks_of_becomes (becomes : Becomes tasks request task phase phase' tasks')
    (test : Task → Bool) (quiet : test ⟨request, .asked⟩ = false) :
    tasks'.countP test + (test ⟨request, phase⟩).toNat =
      tasks.countP test + (test ⟨request, phase'⟩).toNat := by
  cases becomes with
  | new => cases found : test ⟨request, phase'⟩ <;> simp [quiet, found]
  | old here begun unfinished =>
      obtain ⟨front, back, same, changed⟩ := split_at here
      rw [changed, same]
      simp only [List.countP_append, List.countP_cons]
      cases test ⟨request, phase⟩ <;> cases test ⟨request, phase'⟩ <;> simp <;> omega

theorem countP_of_becomes (becomes : Becomes tasks request task phase phase' tasks')
    (test : Phase → Bool) (quiet : test .asked = false) :
    tasks'.countP (test ·.phase) + (test phase).toNat =
      tasks.countP (test ·.phase) + (test phase').toNat :=
  countP_tasks_of_becomes becomes (test ·.phase) quiet

theorem sum_map_set {Item : Type} (part : Item → Nat) {items : List Item} {place : Nat}
    {item : Item} (here : items[place]? = some item) (changed : Item) :
    ((items.set place changed).map part).sum + part item =
      (items.map part).sum + part changed := by
  obtain ⟨front, back, same, replaced⟩ := split_at here
  rw [replaced, same]
  simp only [List.map_append, List.map_cons, List.sum_append_nat, List.sum_cons]
  omega

theorem sum_of_becomes (becomes : Becomes tasks request task phase phase' tasks')
    (part : Phase → Nat) (quiet : part .asked = 0) :
    (tasks'.map (part ·.phase)).sum + part phase =
      (tasks.map (part ·.phase)).sum + part phase' := by
  cases becomes with
  | new => simp [quiet]
  | old here => exact sum_map_set (part ·.phase) here _

theorem checkedOut?_of_unfinished (id : PoolId) (unfinished : phase.isOver = false) :
    phase.checkedOut? id = none := by
  cases phase with
  | finished outcome => cases unfinished
  | _ => rfl

theorem checkedOut_of_becomes (id : PoolId)
    (becomes : Becomes tasks request task phase phase' tasks') :
    (tasks'.filterMap (·.phase.checkedOut? id)).Perm
      ((phase'.checkedOut? id).toList ++ tasks.filterMap (·.phase.checkedOut? id)) := by
  cases becomes with
  | new =>
      apply List.Perm.trans _ List.perm_append_comm
      cases found : phase'.checkedOut? id <;> simp [found]
  | old here begun unfinished =>
      obtain ⟨front, back, same, changed⟩ := split_at here
      rw [changed, same]
      have nothing := checkedOut?_of_unfinished id unfinished
      cases found : phase'.checkedOut? id <;> simp [found, nothing]

theorem cameBack_of_becomes (id : PoolId)
    (becomes : Becomes tasks request task phase phase' tasks') :
    tasks'.filterMap (·.request.returnedTo? id) =
      tasks.filterMap (·.request.returnedTo? id) ++
        if phase = .asked then (request.returnedTo? id).toList else [] := by
  cases becomes with
  | new => cases found : request.returnedTo? id <;> simp [found]
  | old here begun unfinished =>
      obtain ⟨front, back, same, changed⟩ := split_at here
      rw [changed, same, if_neg begun]
      simp [List.filterMap_cons]

theorem phase_of_becomes (becomes : Becomes tasks request task phase phase' tasks') :
    tasks'[task]? = some ⟨request, phase'⟩ := by
  cases becomes with
  | new => simp
  | old here begun unfinished =>
      obtain ⟨inside, -⟩ := List.getElem?_eq_some_iff.mp here
      simp [inside]

theorem others_of_becomes (becomes : Becomes tasks request task phase phase' tasks')
    {other : TaskId} (apart : other ≠ task) : tasks'[other]? = tasks[other]? := by
  cases becomes with
  | new =>
      rcases Nat.lt_or_gt_of_ne apart with inside | outside
      · rw [List.getElem?_append_left inside]
      · have short : (tasks ++ [(⟨request, phase'⟩ : Task)]).length ≤ other := by
          rw [List.length_append, List.length_singleton]
          exact outside
        rw [List.getElem?_eq_none short, List.getElem?_eq_none (Nat.le_of_lt outside)]
  | old => rw [List.getElem?_set_ne apart.symm]

theorem unfinished_of_becomes (becomes : Becomes tasks request task phase phase' tasks') :
    phase.isOver = false := by
  cases becomes with
  | new => rfl
  | old here begun unfinished => exact unfinished

theorem before_of_becomes (becomes : Becomes tasks request task phase phase' tasks') :
    phase = .asked ∧ tasks[task]? = none ∨
      phase ≠ .asked ∧ tasks[task]? = some ⟨request, phase⟩ := by
  cases becomes with
  | new => exact Or.inl ⟨rfl, by simp⟩
  | old here begun unfinished => exact Or.inr ⟨begun, here⟩

end

theorem phase?_before (becomes : Becomes depot.tasks request task phase phase' next.tasks) :
    phase = .asked ∧ depot.phase? task = none ∨
      phase ≠ .asked ∧ depot.phase? task = some phase := by
  rcases before_of_becomes becomes with ⟨asked, absent⟩ | ⟨begun, there⟩
  · exact Or.inl ⟨asked, by rw [phase?, absent]; rfl⟩
  · exact Or.inr ⟨begun, phase?_of_getElem? there⟩

theorem stage_before (becomes : Becomes depot.tasks request task phase phase' next.tasks) :
    depot.stage task = phase := by
  rcases phase?_before becomes with ⟨rfl, absent⟩ | ⟨-, there⟩
  · rw [stage, absent]
    rfl
  · rw [stage, there]
    rfl

theorem stage_after (becomes : Becomes depot.tasks request task phase phase' next.tasks) :
    next.stage task = phase' := by
  rw [stage, phase?_of_getElem? (phase_of_becomes becomes)]
  rfl

theorem checkedOut?_eq_some {handle : HandleId} (got : phase.checkedOut? id = some handle) :
    phase = .finished (.checkedOut id handle) := by
  cases phase with
  | finished outcome =>
      cases outcome with
      | checkedOut site given =>
          simp only [Phase.checkedOut?, Option.ite_none_right_eq_some, Option.some.injEq] at got
          rw [got.1, got.2]
      | _ => cases got
  | _ => cases got

theorem checkedOut?_eq_none (apart : phase.stake? ≠ some id) : phase.checkedOut? id = none := by
  cases got : phase.checkedOut? id with
  | none => rfl
  | some handle =>
      rw [checkedOut?_eq_some got] at apart
      exact absurd rfl apart

theorem stakes_of_effect (effect : Effect depot task request site phase phase' pool)
    (apart : site ≠ id) : phase.stake? ≠ some id ∧ phase'.stake? ≠ some id ∧
      (phase = .asked → request.returnedTo? id = none) := by
  have none_ : (none : Option PoolId) ≠ some id := by simp
  have some_ : some site ≠ some id := by simpa using apart
  cases effect with
  | aside apart apart' begun plain =>
      rw [apart, apart']
      exact ⟨none_, none_, fun asked => by
        simp [Request.returnedTo?, Request.returned?_of_plain (plain asked)]⟩
  | turnedAway asks => exact ⟨none_, none_, fun _ => by rw [asks]; rfl⟩
  | queue asks => exact ⟨none_, some_, fun _ => by rw [asks]; rfl⟩
  | pass grant =>
      cases grant with
      | free asks => exact ⟨none_, some_, fun _ => by rw [asks]; rfl⟩
      | taken asks => exact ⟨none_, some_, fun _ => by rw [asks]; rfl⟩
      | collected => exact ⟨some_, some_, by simp⟩
  | bounce asks =>
      refine ⟨none_, ?_, fun _ => by rw [asks]; rfl⟩
      unfold overflowOr
      split <;> exact none_
  | reject taken unusable goes =>
      rcases goes with rfl | ⟨due, rfl⟩ <;> exact ⟨some_, some_, by simp⟩
  | abandon held =>
      rcases held with rfl | ⟨handle, due, rfl⟩ <;> exact ⟨some_, none_, by simp⟩
  | giveBack asks goes =>
      have other : request.returnedTo? id = none := by simp [asks, Request.returnedTo?,
        Request.returned?, apart]
      rcases goes with ⟨-, rfl⟩ | ⟨-, rfl⟩ | ⟨oldest, due, -, rfl⟩ <;>
        exact ⟨none_, none_, fun _ => other⟩
  | discard asks goes =>
      have other : request.returnedTo? id = none := by simp [asks, Request.returnedTo?,
        Request.returned?, apart]
      rcases goes with ⟨-, rfl⟩ | rfl | ⟨due, rfl⟩ <;> exact ⟨none_, none_, fun _ => other⟩
  | reuse | rescan | dial | connect => exact ⟨some_, some_, by simp⟩
  | leave | letGo => exact ⟨some_, none_, by simp⟩
  | shut => exact ⟨none_, none_, by simp⟩
  | quit | deny | unconfigured | refuse | panic =>
      refine ⟨some_, ?_, by simp⟩
      unfold overflowOr
      split <;> exact none_

theorem pool_set_same (pools : next.pools = depot.pools.set id pool)
    (inside : id < depot.pools.length) : next.pool id = pool := by
  simp [Depot.pool, pools, List.getD_eq_getElem?_getD, inside]

theorem pool_of_set (pools : next.pools = depot.pools.set id pool) :
    next.pool id = pool ∨ next.pool id = depot.pool id := by
  by_cases inside : id < depot.pools.length
  · exact Or.inl (pool_set_same pools inside)
  · rw [Depot.pool, pools, List.set_eq_of_length_le (Nat.le_of_not_lt inside)]
    exact Or.inr rfl

theorem pool_set_other (pools : next.pools = depot.pools.set site pool) (apart : site ≠ id) :
    next.pool id = depot.pool id := by
  simp [Depot.pool, pools, List.getD_eq_getElem?_getD, List.getElem?_set_ne apart]

theorem pools_grow {actor : Option TaskId} (move : Move id depot actor next) :
    depot.pools.length ≤ next.pools.length := by
  cases actor with
  | some task =>
      obtain ⟨request, phase, phase', site, pool, held, effect, pools, -⟩ := shift_of_move move
      rw [pools, List.length_set]
  | none =>
      cases move with
      | outside resting tasks held pools => rcases pools with same | ⟨pool, -, same⟩ <;> simp [same]

theorem touch_of_move {actor : Option TaskId} {view : PoolId} (move : Move view depot actor next) :
    Touch id depot actor next := by
  by_cases there : next.pools.length ≤ id
  · exact .missing (Nat.le_trans (pools_grow move) there) there
  · cases actor with
    | some task =>
        obtain ⟨request, phase, phase', site, pool, held, effect, pools, tasks, -, -, -⟩ :=
          shift_of_move move
        rw [pools, List.length_set] at there
        by_cases here : site = id
        · subst here
          have now := pool_set_same pools (Nat.lt_of_not_le there)
          rw [← now] at effect
          exact .own rfl (Nat.lt_of_not_le there) tasks effect
        · obtain ⟨apart, apart', plain⟩ := stakes_of_effect effect here
          exact .other rfl (pool_set_other pools here) tasks apart apart' plain
    | none =>
        cases move with
        | outside resting tasks held pools =>
            rcases pools with same | ⟨pool, fresh, grown⟩
            · exact .still (by rw [Depot.pool, same, Depot.pool]) tasks
            · by_cases inside : id < depot.pools.length
              · refine .still ?_ tasks
                simp [Depot.pool, grown, List.getD_eq_getElem?_getD,
                  List.getElem?_append_left inside]
              · have outside := Nat.le_of_not_lt inside
                rw [grown, List.length_append, List.length_singleton] at there
                have last : id = depot.pools.length :=
                  Nat.le_antisymm (Nat.le_of_lt_succ (Nat.lt_of_not_le there)) outside
                refine .fresh outside ?_ resting tasks
                have found : next.pool id = pool := by
                  simp [Depot.pool, grown, List.getD_eq_getElem?_getD, last]
                rw [found]
                exact fresh

theorem stake_of_effect (effect : Effect depot task request site phase phase' pool) {at_ : PoolId}
    (shows : phase'.stake? = some at_) : phase.stake? = some at_ ∨
      phase = .asked ∧ ∃ context, request = .checkout at_ context := by
  cases effect with
  | aside apart apart' =>
      rw [apart'] at shows
      cases shows
  | queue asks =>
      cases shows
      exact Or.inr ⟨rfl, _, asks⟩
  | pass grant =>
      cases shows
      cases grant with
      | free asks => exact Or.inr ⟨rfl, _, asks⟩
      | taken asks => exact Or.inr ⟨rfl, _, asks⟩
      | collected => exact Or.inl rfl
  | reuse | dial | connect | rescan => exact Or.inl shows
  | reject taken unusable goes => rcases goes with rfl | ⟨due, rfl⟩ <;> exact Or.inl shows
  | giveBack asks goes =>
      rcases goes with ⟨-, rfl⟩ | ⟨-, rfl⟩ | ⟨oldest, due, -, rfl⟩ <;> cases shows
  | discard asks goes => rcases goes with ⟨-, rfl⟩ | rfl | ⟨due, rfl⟩ <;> cases shows
  | turnedAway | leave | letGo | abandon | shut => cases shows
  | bounce | quit | deny | unconfigured | refuse | panic =>
      unfold overflowOr at shows
      split at shows <;> cases shows

theorem site_of_effect (effect : Effect depot task request site phase phase' pool)
    (uses : phase = .asked ∧ request.pool? = some id ∨ phase.stake? = some id) : site = id := by
  rcases uses with ⟨rfl, calls⟩ | shows
  · have called {at_ : PoolId} (asks : request.pool? = some at_) : at_ = id := by
      rw [asks] at calls
      exact Option.some.inj calls
    cases effect with
    | aside apart apart' begun plain =>
        rw [plain rfl] at calls
        cases calls
    | turnedAway asks => exact called (by rw [asks]; rfl)
    | queue asks => exact called (by rw [asks]; rfl)
    | pass grant =>
        cases grant with
        | free asks => exact called (by rw [asks]; rfl)
        | taken asks => exact called (by rw [asks]; rfl)
    | bounce asks => exact called (by rw [asks]; rfl)
    | giveBack asks => exact called (by rw [asks]; rfl)
    | discard asks => exact called (by rw [asks]; rfl)
    | abandon held => rcases held with held | ⟨handle, due, held⟩ <;> cases held
  · by_contra apart
    exact (stakes_of_effect effect apart).1 shows

theorem goes_of_effect {context : Context}
    (effect : Effect depot task (.checkout id context) site phase phase' pool)
    (uses : phase = .asked ∨ phase.stake? = some id) :
    phase'.isOver = true ∨ phase'.stake? = some id := by
  have here : site = id := site_of_effect effect (uses.imp_left fun asked => ⟨asked, rfl⟩)
  subst here
  cases effect with
  | aside apart apart' begun plain =>
      rcases uses with asked | shows
      · cases plain asked
      · rw [apart] at shows
        cases shows
  | queue | pass | rescan | dial => exact Or.inr rfl
  | reject taken unusable goes => rcases goes with rfl | ⟨due, rfl⟩ <;> exact Or.inr rfl
  | giveBack asks => cases asks
  | discard asks => cases asks
  | shut => rcases uses with asked | shows <;> contradiction
  | _ => exact Or.inl rfl

structure Suits (request : Request) (phase : Phase) : Prop where
  uses : ∀ site, phase.stake? = some site → ∃ context, request = .checkout site context
  goes : ∀ id context, request = .checkout id context →
    phase.isOver = true ∨ phase.stake? = some id

def Suited (depot : Depot) : Prop :=
  ∀ (task : TaskId) (found : Task), depot.tasks[task]? = some found →
    Suits found.request found.phase

theorem uses_of_suited {context : Context} (suited : Suited depot)
    (becomes : Becomes depot.tasks (.checkout id context) task phase phase' next.tasks) :
    phase = .asked ∨ phase.stake? = some id := by
  rcases before_of_becomes becomes with ⟨asked, -⟩ | ⟨-, here⟩
  · exact Or.inl asked
  · rcases (suited task ⟨_, phase⟩ here).goes id context rfl with isOver | shows
    · exact absurd isOver (Bool.eq_false_iff.mp (unfinished_of_becomes becomes))
    · exact Or.inr shows

theorem suited_of_move {actor : Option TaskId} (move : Move id depot actor next)
    (suited : Suited depot) : Suited next := by
  cases actor with
  | none =>
      cases move with
      | outside resting tasks held pools =>
          intro task found here
          rw [tasks] at here
          exact suited task found here
  | some task =>
      obtain ⟨request, phase, phase', site, pool, held, effect, pools, tasks, -, -, -⟩ :=
        shift_of_move move
      intro other found here
      by_cases same : other = task
      · rw [same, phase_of_becomes tasks] at here
        cases here
        constructor
        · intro at_ shows
          rcases stake_of_effect effect shows with before | ⟨-, asks⟩
          · rcases before_of_becomes tasks with ⟨asked, -⟩ | ⟨-, there⟩
            · rw [asked] at before
              cases before
            · exact (suited task ⟨request, phase⟩ there).uses at_ before
          · exact asks
        · intro called context (asks : request = .checkout called context)
          subst asks
          exact goes_of_effect effect (uses_of_suited suited tasks)
      · rw [others_of_becomes tasks same] at here
        exact suited other found here

theorem suited_empty : Suited {} := by
  intro task found here
  cases here

end Depot

end HandlePool
