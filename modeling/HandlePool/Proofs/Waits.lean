import HandlePool.Proofs.Abort
import HandlePool.Proofs.Clock
import HandlePool.Proofs.Polls

namespace HandlePool

def Phase.since? (id : PoolId) : Phase → Option Nat
  | .queued pool _ since => if pool = id then since else none
  | _ => none

def Phase.wait? (id : PoolId) (now : Nat) (phase phase' : Phase) : Option Nat :=
  if phase'.isInside id then (phase.since? id).map (now - ·) else none

namespace Turn

structure LetsIn (id : PoolId) (task : TaskId) (turn : Turn) : Prop where
  actor : turn.actor = some task
  outside : (turn.before.stage task).isInside id = false
  inside : (turn.after.stage task).isInside id = true

def wait? (id : PoolId) (turn : Turn) : Option (TaskId × Nat) :=
  turn.actor.bind fun task =>
    ((turn.before.stage task).wait? id turn.before.now (turn.after.stage task)).map (task, ·)

end Turn

namespace Depot

/-- A task starts in one poll and gets past the gate in a later one, so much time after. -/
inductive WaitedFor (id : PoolId) (polls : List (List Turn)) (task : TaskId) (time : Nat) :
    Prop where
  | intro {early late : List (List Turn)} {poll : List Turn} {start entry : Turn}
      (splits : polls = early ++ poll :: late) (first : start ∈ early.flatten)
      (starts : start.Starts task) (second : entry ∈ poll) (enters : entry.LetsIn id task)
      (lasts : entry.before.now = start.before.now + time)

structure Recorded (id : PoolId) (polls : List (List Turn)) (depot : Depot) : Prop where
  exact : ∃ waits : List (TaskId × Nat), (waits.map (·.1)).Nodup ∧
    (∀ task time, (task, time) ∈ waits ↔ WaitedFor id polls task time) ∧
    (depot.pool id).waitCount = waits.length ∧
    (depot.pool id).waitTime = (waits.map (·.2)).sum
  prompt : ∀ poll ∈ polls, ∀ start ∈ poll, ∀ entry ∈ poll, ∀ task, start.Starts task →
    entry.LetsIn id task → ∀ time, ¬ WaitedFor id polls task time
  fruitless : ∀ ending ∈ polls.flatten, ∀ task, ending.Ends task →
    (ending.before.stage task).isInside id = false → ∀ time, ¬ WaitedFor id polls task time
  unused : (depot.pool id).limits.boundedWait = false →
    (depot.pool id).waitCount = 0 ∧ (depot.pool id).waitTime = 0

/-- Of the checkouts that are called on the pool just those are queued that find no slot free, the
gate open, and nothing that calls them off. -/
def QueuesIfFull (id : PoolId) (turn : Turn) : Prop :=
  ∀ task context gate, turn.Starts task → CalledFor (.checkout id context) task turn.after →
    (turn.before.pool id).gate = some gate →
    ((∃ since, turn.after.stage task = .queued id context since) ↔
      gate.free = 0 ∧ (turn.before.pool id).closed = false ∧
        context.interrupt turn.before.signals turn.before.now = none)

variable {id view site : PoolId} {depot next last : Depot} {task : TaskId} {actor : Option TaskId}
  {request : Request} {context : Context} {phase phase' : Phase} {pool : Pool} {gate : Gate}
  {turns : List Turn} {turn : Turn} {time back : Nat}

section Record

theorem since?_eq_none (unqueued : ∀ context since, phase ≠ .queued id context since) :
    phase.since? id = none := by
  cases phase with
  | queued pool context since =>
      rw [Phase.since?, if_neg]
      rintro rfl
      exact unqueued context since rfl
  | _ => rfl

theorem recorded_of_effect (effect : Effect depot task request id phase phase' pool) :
    pool.waitCount =
        (depot.pool id).waitCount + (phase.wait? id depot.now phase').toList.length ∧
      pool.waitTime =
        (depot.pool id).waitTime + (phase.wait? id depot.now phase').toList.sum := by
  by_cases goes : (∃ context since, phase = .queued id context since) ∧ phase'.isInside id = true
  · obtain ⟨⟨context, since, rfl⟩, inside⟩ := goes
    rw [Phase.wait?, if_pos inside, Phase.since?, if_pos rfl]
    cases effect with
    | aside apart => cases apart
    | pass grant =>
        cases grant with
        | collected => cases since <;> exact ⟨rfl, rfl⟩
    | quit | leave => cases inside
    | abandon held => rcases held with held | ⟨handle, due, held⟩ <;> cases held
  · have same := (waits_of_effect effect).resolve_right goes
    have nothing : phase.wait? id depot.now phase' = none := by
      unfold Phase.wait?
      split
      · rename_i inside
        rw [since?_eq_none fun context since queued => goes ⟨⟨context, since, queued⟩, inside⟩]
        rfl
      · rfl
    rw [nothing]
    exact same

theorem wait?_of_becomes (becomes : Becomes depot.tasks request task phase phase' next.tasks) :
    Turn.wait? id ⟨some task, depot, next⟩ =
      (phase.wait? id depot.now phase').map (task, ·) := by
  rw [Turn.wait?, Option.bind_some]
  dsimp only
  rw [stage_before becomes, stage_after becomes]

theorem queued_of_wait? {wait : TaskId × Nat} (waits : turn.wait? id = some wait) :
    turn.actor = some wait.1 ∧ (turn.after.stage wait.1).isInside id = true ∧
      ∃ context since, turn.before.stage wait.1 = .queued id context (some since) ∧
        wait.2 = turn.before.now - since := by
  obtain ⟨task, mine, waits⟩ := Option.bind_eq_some_iff.mp waits
  obtain ⟨time, waited, rfl⟩ := Option.map_eq_some_iff.mp waits
  unfold Phase.wait? at waited
  split at waited
  · rename_i inside
    obtain ⟨since, queued, rfl⟩ := Option.map_eq_some_iff.mp waited
    refine ⟨mine, inside, ?_⟩
    generalize turn.before.stage task = phase at queued ⊢
    cases phase with
    | queued site context since' =>
        obtain ⟨rfl, rfl⟩ := Option.ite_none_right_eq_some.mp queued
        exact ⟨context, since, rfl, rfl⟩
    | _ => cases queued
  · cases waited

theorem wait?_ungated (queues : Queues id depot) (ungated : (depot.pool id).gate = none) :
    Turn.wait? id ⟨actor, depot, next⟩ = none := by
  cases waits : Turn.wait? id ⟨actor, depot, next⟩ with
  | none => rfl
  | some wait =>
      obtain ⟨-, -, context, since, queued, -⟩ := queued_of_wait? waits
      dsimp only at queued
      have begun : depot.stage wait.1 ≠ .asked := by simp [queued]
      have there := phase?_of_stage begun
      rw [queued] at there
      obtain ⟨-, gated⟩ := queues _ context _ there
      rw [ungated] at gated
      cases gated

theorem wait?_of_tasks (tasks : next.tasks = depot.tasks) :
    Turn.wait? id ⟨actor, depot, next⟩ = none := by
  cases waits : Turn.wait? id ⟨actor, depot, next⟩ with
  | none => rfl
  | some wait =>
      obtain ⟨-, inside, context, since, queued, -⟩ := queued_of_wait? waits
      have same : next.stage wait.1 = depot.stage wait.1 := by rw [stage, phase?, tasks]; rfl
      dsimp only at inside queued
      rw [same, queued] at inside
      cases inside

theorem recorded_of_move (move : Move view depot actor next) (queues : Queues id depot) :
    (next.pool id).waitCount = (depot.pool id).waitCount +
        (Turn.wait? id ⟨actor, depot, next⟩).toList.length ∧
      (next.pool id).waitTime = (depot.pool id).waitTime +
        ((Turn.wait? id ⟨actor, depot, next⟩).toList.map (·.2)).sum := by
  cases (touch_of_move move : Touch id depot actor next) with
  | missing outside outside' =>
      have missing := depot.pool_of_length_le outside
      rw [wait?_ungated queues (by rw [missing]; rfl), missing, next.pool_of_length_le outside']
      exact ⟨rfl, rfl⟩
  | fresh outside fresh =>
      have missing := depot.pool_of_length_le outside
      obtain ⟨name, dialer, parameter, limits, gate, made⟩ := fresh.made
      rw [wait?_ungated queues (by rw [missing]; rfl), missing, made]
      exact ⟨rfl, rfl⟩
  | still same tasks =>
      rw [wait?_of_tasks tasks, same]
      exact ⟨rfl, rfl⟩
  | other who same becomes apart apart' =>
      subst who
      rw [wait?_of_becomes becomes, Phase.wait?, isInside_of_apart apart', same]
      exact ⟨rfl, rfl⟩
  | own who inside becomes effect =>
      subst who
      obtain ⟨count, time⟩ := recorded_of_effect effect
      rw [wait?_of_becomes becomes, count, time]
      cases Phase.wait? id depot.now _ _ <;> exact ⟨rfl, rfl⟩

theorem recorded_of_chain (chain : Chain view depot turns last) (queues : Queues id depot) :
    (last.pool id).waitCount =
        (depot.pool id).waitCount + (turns.filterMap (Turn.wait? id)).length ∧
      (last.pool id).waitTime =
        (depot.pool id).waitTime + ((turns.filterMap (Turn.wait? id)).map (·.2)).sum := by
  induction chain with
  | nil => exact ⟨rfl, rfl⟩
  | cons move rest ih =>
      obtain ⟨count, time⟩ := recorded_of_move move queues
      obtain ⟨counts, times⟩ := ih (queues.keeps move)
      rw [counts, times, count, time, List.filterMap_cons]
      cases Turn.wait? id _ with
      | none => exact ⟨rfl, rfl⟩
      | some wait =>
          simp only [Option.toList_some, List.map_cons, List.map_nil, List.length_cons,
            List.length_nil, List.sum_cons, List.sum_nil]
          omega

end Record

section Queueing

theorem not_wait?_of_unqueued {wait : TaskId × Nat} (unqueued : Unqueued id wait.1 turn.before) :
    turn.wait? id ≠ some wait := by
  intro waits
  obtain ⟨-, -, context, since, queued, -⟩ := queued_of_wait? waits
  have apart := unqueued.apart
  rw [queued, isQueued_own] at apart
  cases apart

theorem nodup_waits (chain : Chain view depot turns last) :
    ((turns.filterMap (Turn.wait? id)).map (·.1)).Nodup := by
  induction chain with
  | nil => exact List.nodup_nil
  | cons move rest ih =>
      rename_i depot actor next turns last
      rw [List.filterMap_cons]
      split
      · exact ih
      · rename_i wait waits
        refine List.nodup_cons.mpr ⟨fun again => ?_, ih⟩
        obtain ⟨other, member, same⟩ := List.mem_map.mp again
        obtain ⟨later, there, waits'⟩ := List.mem_filterMap.mp member
        have past := unqueued_of_inside (queued_of_wait? waits).2.1
        have kept := ((rest.keeps Unqueued.keeps past).2 later there).1
        have same : other.1 = wait.1 := same
        rw [← same] at kept
        exact not_wait?_of_unqueued kept waits'

structure QueuedSince (task : TaskId) (time : Nat) (depot : Depot) : Prop where
  begun : depot.stage task ≠ .asked
  since : ∀ pool context since, depot.stage task = .queued pool context since → since = some time
  early : time ≤ depot.now

theorem QueuedSince.keeps (move : Move view depot actor next)
    (queued : QueuedSince task time depot) : QueuedSince task time next := by
  have early := Nat.le_trans queued.early (now_of_move move)
  by_cases mine : actor = some task
  · subst mine
    refine ⟨started_lasts move queued.begun, fun pool context since waits => ?_, early⟩
    have unqueued : Unqueued pool task next := unqueued_of_begun move queued.begun
    have apart := unqueued.apart
    rw [waits, isQueued_own] at apart
    cases apart
  · have same := stage_of_others move mine
    exact ⟨same ▸ queued.begun, same ▸ queued.since, early⟩

theorem queuedSince_of_starts (move : Move view turn.before turn.actor turn.after)
    (starts : turn.Starts task) : QueuedSince task turn.before.now turn.after := by
  rw [starts.1] at move
  obtain ⟨request, phase, phase', site, pool, held, effect, pools, tasks, -⟩ := shift_of_move move
  have after := stage_after tasks
  refine ⟨by rw [after]; exact effect.begun, fun at_ context since waits => ?_, now_of_move move⟩
  rw [after] at waits
  subst waits
  cases effect with
  | queue => rfl
  | aside apart apart' => cases apart'
  | reject taken unusable goes => rcases goes with goes | ⟨due, goes⟩ <;> cases goes
  | giveBack asks goes =>
      rcases goes with ⟨-, goes⟩ | ⟨-, goes⟩ | ⟨oldest, due, -, goes⟩ <;> cases goes
  | discard asks goes => rcases goes with ⟨-, goes⟩ | goes | ⟨due, goes⟩ <;> cases goes

theorem queued_of_entered (effect : Effect depot task request site phase phase' pool)
    (begun : phase ≠ .asked) (outside : phase.isInside id = false)
    (inside : phase'.isInside id = true) : ∃ context since, phase = .queued id context since := by
  have here : site = id := by
    by_contra apart
    rw [isInside_of_apart (stakes_of_effect effect apart).2.1] at inside
    cases inside
  subst here
  cases effect with
  | aside apart apart' =>
      rw [isInside_of_apart (stake?_ne_of_none site apart')] at inside
      cases inside
  | pass grant =>
      cases grant with
      | free | taken => exact absurd rfl begun
      | collected => exact ⟨_, _, rfl⟩
  | reject | dial =>
      rw [isInside_of_slot? (slot?_scanning _)] at outside
      cases outside
  | rescan =>
      rw [isInside_of_slot? (slot?_rescanning _ _ _)] at outside
      cases outside
  | giveBack | discard => exact absurd rfl begun
  | _ => cases inside

end Queueing

section Exact

variable {actions : List Action} {early late polled : List (List Turn)}
  {poll first later : List Turn}
  {start entry other : Turn}

theorem queuedSince_at (chain : Chain view depot (first ++ turn :: later) last)
    (member : start ∈ first) (starts : start.Starts task) :
    QueuedSince task start.before.now turn.before := by
  obtain ⟨older, newer, rfl⟩ := List.append_of_mem member
  rw [List.append_assoc, List.cons_append] at chain
  obtain ⟨-, move, rest⟩ := chain.at_turn
  exact ((rest.keeps QueuedSince.keeps (queuedSince_of_starts move starts)).2 turn (by simp)).1

theorem wait?_of_entered (move : Move view entry.before entry.actor entry.after)
    (enters : entry.LetsIn id task) (queued : QueuedSince task time entry.before) :
    entry.wait? id = some (task, entry.before.now - time) := by
  rw [enters.actor] at move
  obtain ⟨request, phase, phase', site, pool, held, effect, pools, tasks, -⟩ := shift_of_move move
  have before := stage_before tasks
  have after := stage_after tasks
  obtain ⟨context, since, waits⟩ := queued_of_entered effect (before ▸ queued.begun)
    (before ▸ enters.outside) (after ▸ enters.inside)
  have same := queued.since id context since (before.trans waits)
  rw [Turn.wait?, enters.actor, Option.bind_some, Phase.wait?, if_pos enters.inside, before,
    waits, same, Phase.since?, if_pos rfl]
  rfl

theorem mem_waits_iff (begins : Polled actions polled) :
    (task, time) ∈ polled.flatten.filterMap (Turn.wait? id) ↔ WaitedFor id polled task time := by
  obtain ⟨view, chain⟩ := begins.chain
  constructor
  · intro member
    obtain ⟨entry, there, waits⟩ := List.mem_filterMap.mp member
    obtain ⟨poll, among, here⟩ := List.mem_flatten.mp there
    obtain ⟨early, late, rfl⟩ := List.append_of_mem among
    obtain ⟨older, newer, rfl⟩ := List.append_of_mem here
    have whole : (early ++ (older ++ entry :: newer) :: late).flatten =
        (early.flatten ++ older) ++ entry :: (newer ++ late.flatten) := by simp
    rw [whole] at chain
    obtain ⟨mine, inside, context, since, queued, rfl⟩ := queued_of_wait? waits
    obtain ⟨start, first, starts⟩ := chain.at_turn.1.exists_start rfl (by rw [queued]; simp)
    have kept := queuedSince_at chain first starts
    cases kept.since id context _ queued
    have earlier : start ∈ early.flatten := by
      rcases List.mem_append.mp first with earlier | within
      · exact earlier
      -- A task that started in the same poll would not have been queued.
      · have unqueued : (entry.before.stage task).isQueued id = false :=
          begins.unqueued (List.mem_append_left _ within) starts (by simp) mine
        rw [queued, isQueued_own] at unqueued
        cases unqueued
    exact .intro rfl earlier starts (by simp) ⟨mine, by rw [queued]; rfl, inside⟩
      (Nat.add_sub_cancel' kept.early).symm
  · rintro ⟨splits, first, starts, second, enters, lasts⟩
    rename_i early late poll start entry
    subst splits
    obtain ⟨older, newer, rfl⟩ := List.append_of_mem second
    have whole : (early ++ (older ++ entry :: newer) :: late).flatten =
        (early.flatten ++ older) ++ entry :: (newer ++ late.flatten) := by simp
    rw [whole] at chain ⊢
    have kept := queuedSince_at chain (List.mem_append_left _ first) starts
    have waits := wait?_of_entered chain.at_turn.2.1 enters kept
    rw [lasts, Nat.add_sub_cancel_left] at waits
    exact List.mem_filterMap.mpr ⟨entry, by simp, waits⟩

theorem not_entered_of_unqueued (move : Move view entry.before entry.actor entry.after)
    (enters : entry.LetsIn id task) (unqueued : Unqueued id task entry.before) : False := by
  rw [enters.actor] at move
  obtain ⟨request, phase, phase', site, pool, held, effect, pools, tasks, -⟩ := shift_of_move move
  have before := stage_before tasks
  obtain ⟨context, since, waits⟩ := queued_of_entered effect (before ▸ unqueued.begun)
    (before ▸ enters.outside) (stage_after tasks ▸ enters.inside)
  have apart := unqueued.apart
  rw [before, waits, isQueued_own] at apart
  cases apart

theorem prompt_of_polled (begins : Polled actions polled) (among : poll ∈ polled)
    (first : start ∈ poll) (second : entry ∈ poll) (starts : start.Starts task)
    (enters : entry.LetsIn id task) : ¬ WaitedFor id polled task time := by
  intro waited
  obtain ⟨view, chain⟩ := begins.chain
  obtain ⟨other, there, waits⟩ := List.mem_filterMap.mp ((mem_waits_iff begins).mpr waited)
  have here : entry ∈ polled.flatten := List.mem_flatten.mpr ⟨poll, among, second⟩
  rcases chain.ordered here there with rfl | ⟨later, rest, member⟩ | ⟨later, rest, member⟩
  · obtain ⟨early, late, rfl⟩ := List.append_of_mem among
    obtain ⟨-, -, context, since, queued, -⟩ := queued_of_wait? waits
    have unqueued : (entry.before.stage task).isQueued id = false :=
      begins.unqueued first starts second enters.actor
    rw [queued, isQueued_own] at unqueued
    cases unqueued
  · have past := unqueued_of_inside enters.inside
    exact not_wait?_of_unqueued ((rest.keeps Unqueued.keeps past).2 other member).1 waits
  · have past := unqueued_of_inside (queued_of_wait? waits).2.1
    exact not_entered_of_unqueued (chain.move_of_mem here) enters
      ((rest.keeps Unqueued.keeps past).2 entry member).1

theorem unfinished_of_inside (inside : phase.isInside id = true) : phase.isOver = false := by
  cases phase with
  | finished | dropped => cases inside
  | _ => rfl

theorem fruitless_of_polled {ending : Turn} (begins : Polled actions polled)
    (here : ending ∈ polled.flatten) (ends : ending.Ends task)
    (outside : (ending.before.stage task).isInside id = false) :
    ¬ WaitedFor id polled task time := by
  intro waited
  obtain ⟨view, chain⟩ := begins.chain
  obtain ⟨other, there, waits⟩ := List.mem_filterMap.mp ((mem_waits_iff begins).mpr waited)
  obtain ⟨mine, inside, context, since, queued, -⟩ := queued_of_wait? waits
  have entered := phase?_of_stage (unqueued_of_inside inside).begun
  rcases chain.ordered here there with rfl | ⟨later, rest, member⟩ | ⟨later, rest, member⟩
  · have isOver := ends.2
    rw [entered, Option.any_some, unfinished_of_inside inside] at isOver
    cases isOver
  · exact (rest.none_of_over task ends.2).2 other member mine
  -- Once past the gate a task stays there until it is over, and this one is neither.
  · have past : Past id task other.after := by
      rw [Past, entered, Option.any_some, inside, Bool.true_or]
    obtain ⟨phase, here, reached⟩ :=
      (Option.any_eq_true _ _).mp ((rest.keeps past_lasts past).2 ending member).1
    have move := rest.move_of_mem member
    rw [ends.1] at move
    rw [stage, here, Option.getD_some] at outside
    rw [outside, Bool.false_or, unfinished_of_move move here] at reached
    cases reached

theorem unused_of_polled (begins : Polled actions polled)
    (unbounded : ((({} : Depot).reached polled.flatten).pool id).limits.boundedWait = false) :
    polled.flatten.filterMap (Turn.wait? id) = [] := by
  obtain ⟨view, chain⟩ := begins.chain
  have gated : Gated id (({} : Depot).reached polled.flatten) :=
    (chain.keeps Gated.keeps (gated_empty id)).1
  refine List.filterMap_eq_nil_iff.mpr fun turn member => ?_
  cases waits : turn.wait? id with
  | none => rfl
  | some wait =>
      exfalso
      obtain ⟨-, -, context, since, queued, -⟩ := queued_of_wait? waits
      have queues := ((chain.keeps Queues.keeps (watched_empty id).queues).2 turn member).1
      have begun : turn.before.stage wait.1 ≠ .asked := by simp [queued]
      have there := phase?_of_stage begun
      rw [queued] at there
      obtain ⟨later, rest⟩ := chain.after_of_mem member
      have lasts := (rest.keeps gated_lasts
        (gated_lasts (chain.move_of_mem member) (queues _ context _ there).2)).1
      rw [gated, unbounded] at lasts
      cases lasts

theorem recorded_of_polled (begins : Polled actions polled) (id : PoolId) :
    Recorded id polled (({} : Depot).reached polled.flatten) := by
  obtain ⟨view, chain⟩ := begins.chain
  obtain ⟨count, times⟩ := recorded_of_chain chain (watched_empty id).queues
  rw [show (({} : Depot).pool id).waitCount = 0 from rfl, Nat.zero_add] at count
  rw [show (({} : Depot).pool id).waitTime = 0 from rfl, Nat.zero_add] at times
  refine ⟨⟨_, nodup_waits chain, fun task time => mem_waits_iff begins, count, times⟩, ?_, ?_, ?_⟩
  · intro poll among start first entry second task starts enters time
    exact prompt_of_polled begins among first second starts enters
  · intro ending here task ends outside time
    exact fruitless_of_polled begins here ends outside
  · intro unbounded
    have nothing := unused_of_polled begins unbounded
    rw [count, times, nothing]
    exact ⟨rfl, rfl⟩

theorem queued_of_full (move : Move view depot (some task) next)
    (asked : depot.stage task = .asked) (called : CalledFor (.checkout id context) task next)
    (gated : (depot.pool id).gate = some gate) (isOpen : gate.closed = false)
    (full : gate.free = 0) (quiet : context.interrupt depot.signals depot.now = none) :
    next.stage task = .queued id context (some depot.now) := by
  cases move with
  | begins begins moves answers =>
      rename_i request held
      obtain ⟨phase, -, tasks⟩ := tasks_of_answer moves
      obtain ⟨last, there⟩ := called
      rw [tasks, List.getElem?_concat_length] at there
      cases there
      have gated' : ((depot.enroll held (.checkout id context)).pool id).gate = some gate := gated
      have entered := checkout_of_full gated' isOpen full quiet depot.tasks.length
      rw [answers, answer, entered]
      exact stage_enrolled rfl
  | steps here begun =>
      rw [stage_of_getElem? here] at asked
      exact absurd asked begun

theorem queuesIfFull_of_move (move : Move view turn.before turn.actor turn.after)
    (suited : Suited turn.before) (gating : Gating id back turn.before) : QueuesIfFull id turn := by
  intro task context gate starts called gated
  have alike := (gating.slots gate gated).alike
  rw [starts.1] at move
  constructor
  · rintro ⟨since, queued⟩
    obtain ⟨phase, phase', pool, mine⟩ := checkoutTurn_of_move move suited called
    have effect := mine.effect
    rw [stage_after mine.becomes] at queued
    rw [queued] at effect
    have asked : phase = .asked := (stage_before mine.becomes).symm.trans starts.2
    rw [asked] at effect
    cases effect with
    | aside apart apart' => cases apart'
    | queue asks gated' isOpen full quiet =>
        cases asks
        cases gated.symm.trans gated'
        exact ⟨full, alike.symm.trans isOpen, quiet⟩
    | giveBack asks | discard asks => cases asks
  · rintro ⟨full, isOpen, quiet⟩
    exact ⟨_, queued_of_full move starts.2 called gated (alike.trans isOpen) full quiet⟩

end Exact

/-- In every run, and wherever in it one looks, the waits on record are those of the checkouts that
were let in by a later poll than their first, each with the time from that one on. -/
theorem waits_on_record {actions : List Action} {polled : List (List Turn)}
    (begins : Polled actions polled) (id : PoolId) :
    Recorded id polled (({} : Depot).reached polled.flatten) ∧
      ∀ turn ∈ polled.flatten, QueuesIfFull id turn := by
  refine ⟨recorded_of_polled begins id, fun turn member => ?_⟩
  obtain ⟨view, chain⟩ := begins.chain
  obtain ⟨first, later, splits⟩ := List.append_of_mem member
  have whole := begins.reaches
  rw [splits] at chain
  obtain ⟨front, move, -⟩ := chain.at_turn
  have reaches : Reaches actions first turn.before :=
    ⟨(List.prefix_append first _).trans (splits ▸ whole.begins), front.reached_eq⟩
  obtain ⟨back, gating⟩ := gating_of_reaches reaches id
  exact queuesIfFull_of_move move (front.keeps suited_of_move suited_empty).1 gating

def queuedTwice : List Action :=
  [.makeDialer "dialer" (.counted {}),
   .makePool "pool" (some 0) "" { maxActive := 1, wait := true },
   .checkout 0 {}, .checkout 0 {}, .checkout 0 {}, .elapse 2000000, .drop 2, .giveBack 0 0]

theorem waits_on_record_queuedTwice :
    ∃ polled, Polled (queuedTwice ++ [.poll 1]) polled ∧
      Recorded 0 polled (({} : Depot).reached polled.flatten) ∧
      (∀ turn ∈ polled.flatten, QueuesIfFull 0 turn) ∧
      ((({} : Depot).reached polled.flatten).pool 0).waitCount = 1 ∧
      ((({} : Depot).reached polled.flatten).pool 0).waitTime = 2000000 := by
  have begins := polled_of_run queuedTwice (.poll 1)
  obtain ⟨recorded, queues⟩ := waits_on_record begins 0
  exact ⟨_, begins, recorded, queues, by decide, by decide⟩

end Depot

end HandlePool
