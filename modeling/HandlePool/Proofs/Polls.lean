import HandlePool.Proofs.Reuse
import HandlePool.Proofs.Strays

/-!
A run taken apart into polls, each of which has turns of one task at most. A checkout that queues is
suspended by that, so it is let in by no other poll than a later one.
-/
namespace HandlePool

def Turn.Starts (task : TaskId) (turn : Turn) : Prop :=
  turn.actor = some task ∧ turn.before.stage task = .asked

namespace Depot

/-- The turns of a run by the actions that they belong to. An action polls one task at most. -/
def polls : Depot → List Action → List (List Turn)
  | _, [] => []
  | depot, action :: rest => depot.turnsOf action :: polls (depot.act action) rest

inductive Polled (actions : List Action) : List (List Turn) → Prop where
  | intro {early late : List (List Turn)} {poll rest : List Turn}
      (splits : ({} : Depot).polls actions = early ++ (poll ++ rest) :: late) :
      Polled actions (early ++ [poll])

variable {id view site : PoolId} {depot next last : Depot} {task : TaskId} {actor : Option TaskId}
  {request : Request} {context : Context} {phase : Phase} {gate : Gate} {turns : List Turn}
  {turn other : Turn} {back : Nat}

theorem stage_of_others (move : Move view depot actor next) (apart : actor ≠ some task) :
    next.stage task = depot.stage task := by
  rw [stage, stage, phase?_of_others move apart]

theorem phase?_of_stage (begun : depot.stage task ≠ .asked) :
    depot.phase? task = some (depot.stage task) := by
  obtain ⟨found, here, same⟩ := exists_of_stage begun
  rw [← same]
  exact phase?_of_getElem? here

theorem started_lasts (move : Move view depot actor next) (begun : depot.stage task ≠ .asked) :
    next.stage task ≠ .asked := by
  by_cases mine : actor = some task
  · subst mine
    obtain ⟨request, phase, phase', site, pool, held, effect, pools, tasks, -⟩ :=
      shift_of_move move
    rw [stage_after tasks]
    exact effect.begun
  · rw [stage_of_others move mine]
    exact begun

theorem Chain.exists_start (chain : Chain view depot turns last)
    (asked : depot.stage task = .asked) (begun : last.stage task ≠ .asked) :
    ∃ turn ∈ turns, turn.Starts task := by
  induction chain with
  | nil => exact absurd asked begun
  | cons move rest ih =>
      rename_i depot actor next turns last
      by_cases mine : actor = some task
      · exact ⟨_, List.mem_cons_self, mine, asked⟩
      · obtain ⟨turn, member, starts⟩ := ih ((stage_of_others move mine).trans asked) begun
        exact ⟨turn, List.mem_cons_of_mem _ member, starts⟩

theorem Chain.ordered (chain : Chain view depot turns last) (one : turn ∈ turns)
    (two : other ∈ turns) : turn = other ∨
      (∃ later, Chain view turn.after later last ∧ other ∈ later) ∨
      ∃ later, Chain view other.after later last ∧ turn ∈ later := by
  induction chain with
  | nil => cases one
  | cons move rest ih =>
      rcases List.mem_cons.mp one with rfl | one
      · rcases List.mem_cons.mp two with rfl | two
        · exact Or.inl rfl
        · exact Or.inr (Or.inl ⟨_, rest, two⟩)
      · rcases List.mem_cons.mp two with rfl | two
        · exact Or.inr (Or.inr ⟨_, rest, one⟩)
        · exact ih one two

structure Unqueued (id : PoolId) (task : TaskId) (depot : Depot) : Prop where
  begun : depot.stage task ≠ .asked
  apart : (depot.stage task).isQueued id = false

theorem unqueued_of_begun (move : Move view depot (some task) next)
    (begun : depot.stage task ≠ .asked) : Unqueued id task next := by
  refine ⟨started_lasts move begun, ?_⟩
  obtain ⟨request, phase, phase', site, pool, held, effect, pools, tasks, -⟩ := shift_of_move move
  rw [stage_before tasks] at begun
  rw [stage_after tasks]
  cases later : phase' with
  | queued pool context since => exact absurd (queues_of_effect effect later).1 begun
  | _ => rfl

theorem Unqueued.keeps (move : Move view depot actor next) (unqueued : Unqueued id task depot) :
    Unqueued id task next := by
  by_cases mine : actor = some task
  · subst mine
    exact unqueued_of_begun move unqueued.begun
  · have same := stage_of_others move mine
    exact ⟨same ▸ unqueued.begun, same ▸ unqueued.apart⟩

theorem unqueued_of_inside (inside : (depot.stage task).isInside id = true) :
    Unqueued id task depot := by
  constructor
  · intro asked
    rw [asked] at inside
    cases inside
  · cases here : depot.stage task with
    | queued pool context since =>
        rw [here] at inside
        cases inside
    | _ => rfl

section Boundaries

theorem checkout_of_full (gated : (depot.pool id).gate = some gate) (isOpen : gate.closed = false)
    (full : gate.free = 0) (quiet : context.interrupt depot.signals depot.now = none)
    (task : TaskId) : depot.checkout task id context =
      (depot.changePool id (Pool.changeGate (·.enqueue task))).enter task
        (.queued id context (some depot.now)) := by
  unfold checkout
  simp only [gated, quiet, isOpen, full, Bool.false_eq_true, if_true, if_false]

theorem queued_of_isQueued (queued : phase.isQueued id = true) :
    ∃ context since, phase = .queued id context since := by
  cases phase with
  | queued pool context since =>
      cases beq_iff_eq.mp queued
      exact ⟨context, since, rfl⟩
  | _ => cases queued

theorem stuck_of_queued {held : List Holding} {since : Option Nat} (gating : Gating id back depot)
    (answers : next = (depot.enroll held request).answer depot.tasks.length request)
    (queued : next.stage depot.tasks.length = .queued id context since) :
    next.step? depot.tasks.length = none := by
  have moves := moves_answer (depot.enroll held request) depot.tasks.length request
  obtain ⟨phase, site, pool, tasks, -, -, effect⟩ := moves
  rw [← answers] at tasks
  rw [stage_enrolled tasks] at queued
  subst queued
  cases effect with
  | aside apart apart' => cases apart'
  | giveBack asks goes =>
      rcases goes with ⟨-, goes⟩ | ⟨-, goes⟩ | ⟨oldest, due, -, goes⟩ <;> cases goes
  | discard asks goes => rcases goes with ⟨-, goes⟩ | goes | ⟨due, goes⟩ <;> cases goes
  | queue asks gated isOpen full quiet =>
      rename_i gate
      have entered := checkout_of_full gated isOpen full quiet depot.tasks.length
      rw [← answer, ← asks, ← answers] at entered
      have absent : depot.tasks.length ∉ gate.granted := by
        intro handed
        have known := (gating.slots gate gated).known _ (List.mem_append_right _ handed)
        rw [isQueued, phase?, List.getElem?_eq_none (Nat.le_refl _)] at known
        cases known
      have gated' : (next.pool id).gate = some (gate.enqueue depot.tasks.length) := by
        rw [entered, pool_set_same rfl (inside_of_gated gated), Pool.gate_changeGate, gated]
        rfl
      have quiet' : context.interrupt next.signals next.now = none := by
        rw [entered]
        exact quiet
      obtain ⟨request, step⟩ := step?_of_stage (stage_enrolled tasks) (by simp)
      rw [step, stepFrom, look, quiet', gated']
      dsimp only
      rw [show (gate.enqueue depot.tasks.length).closed = false from isOpen,
        if_neg Bool.false_ne_true]
      exact if_neg absent

theorem unqueued_within_start {held : List Holding} (gating : Gating id back depot)
    (member : turn ∈ depot.startTurns held request) :
    turn.actor = some depot.tasks.length ∧
      (turn.before.stage depot.tasks.length).isQueued id = false := by
  obtain ⟨count, next, answers, first, -⟩ := depot.startTurns_eq held request
  rw [first] at member
  rcases List.mem_cons.mp member with rfl | later
  · exact ⟨rfl, by rw [stage_length]; rfl⟩
  · refine ⟨actor_of_stepTurns later, ?_⟩
    have moves := moves_answer (depot.enroll held request) depot.tasks.length request
    rw [← answers] at moves
    obtain ⟨phase, begun, tasks⟩ := tasks_of_answer moves
    have reached : next.stage depot.tasks.length = phase := by
      rw [stage, phase?, tasks, List.getElem?_concat_length]
      rfl
    cases queued : phase.isQueued id with
    | true =>
        obtain ⟨context, since, waits⟩ := queued_of_isQueued queued
        have stuck := stuck_of_queued gating answers (reached.trans waits)
        cases count with
        | zero => cases later
        | succ count =>
            rw [stepTurns, stuck] at later
            cases later
    | false =>
        have unqueued : Unqueued id depot.tasks.length next :=
          ⟨reached ▸ begun, reached ▸ queued⟩
        have chain := chain_stepTurns id count next depot.tasks.length fun found =>
          begun_of_answer moves
        exact ((chain.keeps Unqueued.keeps unqueued).2 turn later).1.apart

theorem begun_within_poll (resting : depot.Resting) (member : turn ∈ depot.pollTurns task) :
    turn.actor = some task ∧ turn.before.stage task ≠ .asked := by
  unfold pollTurns at member
  cases here : depot.tasks[task]? with
  | none =>
      rw [here] at member
      cases member
  | some found =>
      rw [here] at member
      have begun : depot.stage task ≠ .asked := by
        rw [stage_of_getElem? here]
        exact begun_of_resting resting here
      have chain := chain_stepTurns 0 (depot.load found.request found.phase) depot task
        fun found => begun_of_resting resting
      exact ⟨actor_of_stepTurns member, ((chain.keeps started_lasts begun).2 turn member).1⟩

theorem begun_within_drop (resting : depot.Resting) (member : turn ∈ depot.dropTurns task) :
    turn.actor = some task ∧ turn.before.stage task ≠ .asked := by
  unfold dropTurns at member
  cases here : depot.phase? task with
  | none =>
      rw [here] at member
      cases member
  | some phase =>
      rw [here] at member
      dsimp only at member
      split at member
      · cases member
      · cases List.mem_singleton.mp member
        refine ⟨rfl, fun asked => ?_⟩
        have rests := resting task phase here
        rw [stage, here, Option.getD_some] at asked
        rw [asked] at rests
        cases rests

theorem unqueued_of_starts {action : Action} {start : Turn} (resting : depot.Resting)
    (gating : Gating id back depot) (first : start ∈ depot.turnsOf action)
    (starts : start.Starts task) (second : turn ∈ depot.turnsOf action)
    (mine : turn.actor = some task) : (turn.before.stage task).isQueued id = false := by
  have started {held : List Holding} {request : Request}
      (all : depot.turnsOf action = depot.startTurns held request) :
      (turn.before.stage task).isQueued id = false := by
    rw [all] at second
    obtain ⟨actor, unqueued⟩ := unqueued_within_start gating second
    rw [mine] at actor
    cases actor
    exact unqueued
  have surrendered {place : Nat} {request : HandleId → Request}
      (all : depot.turnsOf action = depot.surrenderTurns place request) :
      (turn.before.stage task).isQueued id = false := by
    unfold surrenderTurns at all
    split at all
    · rw [all] at second
      cases second
    · exact started all
  cases action with
  | checkout | dial | shut | shutAll => exact started rfl
  | giveBack | discard | closeHeld => exact surrendered rfl
  | poll other =>
      obtain ⟨actor, begun⟩ := begun_within_poll resting first
      cases starts.1.symm.trans actor
      exact absurd starts.2 begun
  | drop other =>
      obtain ⟨actor, begun⟩ := begun_within_drop resting first
      cases starts.1.symm.trans actor
      exact absurd starts.2 begun
  | _ =>
      cases List.mem_singleton.mp first
      cases starts.1

end Boundaries

section Polls

theorem flatten_polls (depot : Depot) (actions : List Action) :
    (depot.polls actions).flatten = depot.turns actions := by
  induction actions generalizing depot with
  | nil => rfl
  | cons action rest ih => rw [polls, List.flatten_cons, ih, turns]

theorem polls_append (depot : Depot) (first later : List Action) :
    depot.polls (first ++ later) = depot.polls first ++ (depot.run first).polls later := by
  induction first generalizing depot with
  | nil => rfl
  | cons action rest ih =>
      rw [List.cons_append, polls, ih, polls, List.cons_append]
      rfl

theorem polls_split {actions : List Action} {early late : List (List Turn)} {poll : List Turn}
    (splits : depot.polls actions = early ++ poll :: late) :
    ∃ before action after, actions = before ++ action :: after ∧ early = depot.polls before ∧
      poll = (depot.run before).turnsOf action := by
  induction early generalizing depot actions with
  | nil =>
      cases actions with
      | nil => cases splits
      | cons action rest =>
          obtain ⟨rfl, -⟩ := List.cons.inj splits
          exact ⟨[], action, rest, rfl, rfl, rfl⟩
  | cons first early ih =>
      cases actions with
      | nil => cases splits
      | cons action rest =>
          obtain ⟨rfl, later⟩ := List.cons.inj splits
          obtain ⟨before, last, after, rfl, rfl, rfl⟩ := ih later
          exact ⟨action :: before, last, after, rfl, rfl, rfl⟩

variable {actions : List Action} {early late polled : List (List Turn)} {poll : List Turn}

theorem Polled.reaches (begins : Polled actions polled) :
    Reaches actions polled.flatten (({} : Depot).reached polled.flatten) := by
  cases begins with
  | intro splits =>
      rename_i early late poll rest
      refine ⟨⟨rest ++ late.flatten, ?_⟩, rfl⟩
      rw [← flatten_polls, splits]
      simp

theorem Polled.front (begins : Polled actions (early ++ poll :: late)) :
    Polled actions (early ++ [poll]) := by
  generalize whole : early ++ poll :: late = polled at begins
  cases begins with
  | intro splits =>
      rename_i first later last rest
      rcases List.eq_nil_or_concat late with rfl | ⟨middle, final, rfl⟩
      · obtain ⟨rfl, same⟩ := List.append_inj' whole rfl
        cases same
        exact .intro splits
      · have whole : (early ++ poll :: middle) ++ [final] = first ++ [last] := by
          rw [← whole]
          simp
        obtain ⟨rfl, -⟩ := List.append_inj' whole rfl
        have splits' : ({} : Depot).polls actions =
            early ++ (poll ++ []) :: (middle ++ (last ++ rest) :: later) := by
          rw [splits]
          simp
        exact .intro splits'

theorem polled_of_run (before : List Action) (action : Action) :
    Polled (before ++ [action])
      (({} : Depot).polls before ++ [(({} : Depot).run before).turnsOf action]) := by
  have splits : ({} : Depot).polls (before ++ [action]) =
      ({} : Depot).polls before ++ ((({} : Depot).run before).turnsOf action ++ []) :: [] := by
    rw [polls_append, polls, polls, List.append_nil]
  exact .intro splits

theorem gating_of_reaches {first : List Turn} (reaches : Reaches actions first depot)
    (id : PoolId) : ∃ back, Gating id back depot := by
  obtain ⟨view, chain⟩ := reaches.exists_chain
  exact ⟨_, (chain.straying (straying_empty view id)).gating⟩

theorem Polled.unqueued {start : Turn} (begins : Polled actions (early ++ poll :: late))
    (first : start ∈ poll) (starts : start.Starts task) (second : turn ∈ poll)
    (mine : turn.actor = some task) : (turn.before.stage task).isQueued id = false := by
  have front := begins.front
  generalize whole : early ++ [poll] = polled at front
  cases front with
  | intro splits =>
      obtain ⟨-, same⟩ := List.append_inj' whole rfl
      cases same
      obtain ⟨before, action, after, -, -, all⟩ := polls_split splits
      obtain ⟨back, gating⟩ := gating_of_reaches (reaches_run before) id
      obtain ⟨-, resting, -⟩ := exists_chain_of_resting resting_empty before
      have within {turn : Turn} (member : turn ∈ poll) :
          turn ∈ (({} : Depot).run before).turnsOf action :=
        all ▸ List.mem_append_left _ member
      exact unqueued_of_starts resting gating (within first) starts (within second) mine

theorem Polled.chain (begins : Polled actions polled) :
    ∃ view, Chain view {} polled.flatten (({} : Depot).reached polled.flatten) :=
  begins.reaches.exists_chain

end Polls

end Depot

end HandlePool
