import HandlePool.Proofs.OwnTurns
import HandlePool.Proofs.Owed
import HandlePool.Proofs.Shutdown

/-!
What becomes of the handles that pools give up. Each is closed already, or its close is begun in the
same turn, unless the slot that comes back with it overflows the gate. Only those that a shutdown
drains wait for one another, and if the task is dropped meanwhile nobody ever closes the others.
-/
namespace HandlePool

namespace Turn

def returned (id : PoolId) (turn : Turn) : List HandleId :=
  (turn.after.cameBack id).drop (turn.before.cameBack id).length

def lent (id : PoolId) (turn : Turn) : List HandleId :=
  (turn.after.checkedOut id).diff (turn.before.checkedOut id)

def givenUp (id : PoolId) (turn : Turn) : List HandleId :=
  ((turn.before.pool id).idleList ++ turn.returned id).diff
    ((turn.after.pool id).idleList ++ turn.lent id)

/-- The task is dropped with the handle drained and still to be closed. -/
def Forsakes (task : TaskId) (handle : HandleId) (turn : Turn) : Prop :=
  turn.actor = some task ∧ handle ∈ (turn.before.stage task).hands ∧
    turn.after.stage task = .dropped

end Turn

namespace Depot

/-- What becomes of a handle that a task gives up in a turn, in the course of that turn and of those
after it. -/
inductive Destiny (turn : Turn) (later : List Turn) (task : TaskId) (handle : HandleId) :
    Prop where
  | dead (closed : turn.before.isClosed handle = true)
  | lost (panics : turn.after.stage task = .finished (.panicked Gate.overflowText))
      (never : ∀ last ∈ turn :: later, handle ∉ last.after.begun)
  | closes (ends : ∀ last ∈ turn :: later, (last.after.stage task).isOver = true →
      (handle ∈ last.after.begun ↔ ∀ other ∈ later, ¬ other.Forsakes task handle))

variable {id view site : PoolId} {depot next last : Depot} {task : TaskId} {request : Request}
  {phase phase' : Phase} {pool : Pool} {handle : HandleId} {turn : Turn} {turns later : List Turn}

theorem hands_of_isOver (isOver : phase.isOver = true) : phase.hands = [] := by
  cases phase with
  | finished outcome => rfl
  | dropped => rfl
  | _ => cases isOver

theorem hands_of_leg (leg : Leg depot request next phase phase') (member : handle ∈ phase.hands) :
    phase'.closing? = some handle ∨ handle ∈ phase'.hands ∨ phase' = .dropped := by
  cases leg with
  | apart before =>
      rw [(nothing_of_apart 0 before).2.1] at member
      cases member
  | begins =>
      rcases List.mem_cons.mp member with rfl | rest
      · exact Or.inl rfl
      · exact Or.inr (Or.inl rest)
  | ends => exact Or.inr (Or.inl member)
  | dropped => exact Or.inr (Or.inr rfl)
  | _ => cases member

theorem toClose_of_stage (member : handle ∈ (depot.stage task).hands) : handle ∈ depot.toClose := by
  unfold stage phase? at member
  cases here : depot.tasks[task]? with
  | none =>
      rw [here] at member
      cases member
  | some found =>
      rw [here] at member
      exact List.mem_flatMap.mpr ⟨found, List.mem_of_getElem? here, member⟩

theorem unbegun_of_live (owned : Owned depot) (lives : 1 ≤ live depot handle) :
    handle ∉ depot.begun := by
  intro begun
  have once := owned.once handle
  have limit := known_le_one depot handle
  have there := List.count_pos_iff.mpr begun
  omega

theorem live_of_toClose (member : handle ∈ depot.toClose) : 1 ≤ live depot handle := by
  have there := List.count_pos_iff.mpr member
  rw [live]
  omega

structure Forlorn (depot : Depot) (handle : HandleId) : Prop where
  gone : Gone depot handle
  unclosed : handle ∉ depot.begun

theorem forlorn_iff : Forlorn depot handle ↔
    known depot handle = 1 ∧ live depot handle + depot.begun.count handle = 0 := by
  constructor
  · rintro ⟨gone, unclosed⟩
    obtain ⟨dialed, nowhere⟩ := gone_iff.mp gone
    rw [nowhere, List.count_eq_zero_of_not_mem unclosed]
    exact ⟨dialed, rfl⟩
  · rintro ⟨dialed, nowhere⟩
    exact ⟨gone_iff.mpr ⟨dialed, by omega⟩, List.count_eq_zero.mp (by omega)⟩

theorem Forlorn.keeps {actor : Option TaskId} (move : Move view depot actor next)
    (forlorn : Forlorn depot handle) : Forlorn next handle := by
  obtain ⟨dialed, nowhere⟩ := forlorn_iff.mp forlorn
  have passes := (flow_of_move move handle).passes
  have limit := known_le_one next handle
  have stays := (gone_iff.mp (forlorn.gone.keeps move)).1
  apply forlorn_iff.mpr
  omega

theorem forlorn_of_fewer {actor : Option TaskId} (move : Move view depot actor next)
    (owned : Owned depot) (fewer : live next handle + 1 ≤ live depot handle)
    (unbegun : next.begun.count handle = depot.begun.count handle) : Forlorn next handle := by
  have once := owned.once handle
  have limit := known_le_one depot handle
  have there : handle < depot.handles.length := by
    by_contra unknown
    have none_known : known depot handle = 0 := by simp [known, unknown]
    omega
  apply forlorn_iff.mpr
  refine ⟨by simp [known, known_lasts move there], ?_⟩
  omega

theorem forlorn_of_dropped (move : Move view depot (some task) next) (owned : Owned depot)
    (member : handle ∈ (depot.stage task).hands) (dropped : next.stage task = .dropped) :
    Forlorn next handle := by
  obtain ⟨request, phase, phase', site, pool, held, effect, pools, tasks, called, kept, gained⟩ :=
    shift_of_move move
  rw [stage_before tasks] at member
  rw [stage_after tasks] at dropped
  subst dropped
  have there := List.count_pos_iff.mpr member
  have begun := begun_of_deed (deed_of_move move tasks)
  cases leg_of_move move tasks with
  | apart before =>
      rw [(nothing_of_apart 0 before).2.1] at member
      cases member
  | dropped before same =>
      have still : next.pools = depot.pools.set 0 (depot.pool 0) :=
        same.trans (set_pool depot 0).symm
      have changed := live_of_becomes tasks still called kept gained handle
      have none_left : Phase.dropped.hands.count handle = 0 := rfl
      have none_got : Phase.dropped.got?.toList.count handle = 0 := rfl
      apply forlorn_of_fewer move owned
      · omega
      · rw [begun]
        exact congrArg (List.count handle) (List.append_nil _)

theorem begun_lasts {actor : Option TaskId} (move : Move view depot actor next)
    (begun : handle ∈ depot.begun) : handle ∈ next.begun :=
  (flow_of_move move handle).begins.subset begun

theorem not_forsakes_of_begun (owned : Owned turn.before) (begun : handle ∈ turn.before.begun) :
    ¬ turn.Forsakes task handle := by
  rintro ⟨-, member, -⟩
  exact unbegun_of_live owned (live_of_toClose (toClose_of_stage member)) begun

theorem ends_of_begun (task : TaskId) (chain : Chain view depot turns last) (owned : Owned depot)
    (begun : handle ∈ depot.begun) : (∀ later ∈ turns, handle ∈ later.after.begun) ∧
      ∀ other ∈ turns, ¬ other.Forsakes task handle := by
  have keeps {depot next : Depot} {actor : Option TaskId} (move : Move view depot actor next)
      (kept : Owned depot ∧ handle ∈ depot.begun) : Owned next ∧ handle ∈ next.begun :=
    ⟨kept.1.keeps move, begun_lasts move kept.2⟩
  obtain ⟨-, all⟩ := chain.keeps keeps ⟨owned, begun⟩
  constructor
  · intro later member
    exact (all later member).2.2
  · intro other member
    exact not_forsakes_of_begun (all other member).1.1 (all other member).1.2

theorem Forlorn.stays (chain : Chain view depot turns last) (forlorn : Forlorn depot handle) :
    ∀ later ∈ turns, handle ∉ later.after.begun := by
  intro later member
  exact ((chain.keeps Forlorn.keeps forlorn).2 later member).2.unclosed

theorem over_of_forsakes (forsakes : turn.Forsakes task handle) :
    (turn.after.stage task).isOver = true := by
  rw [forsakes.2.2]
  rfl

theorem unfinished_of_hands (member : handle ∈ (depot.stage task).hands) :
    (depot.stage task).isOver = false := by
  cases isOver : (depot.stage task).isOver with
  | false => rfl
  | true =>
      rw [hands_of_isOver isOver] at member
      cases member

theorem ends_of_hands (chain : Chain view depot turns last) (owned : Owned depot)
    (member : handle ∈ (depot.stage task).hands) :
    ∀ ending ∈ turns, (ending.after.stage task).isOver = true →
      (handle ∈ ending.after.begun ↔ ∀ other ∈ turns, ¬ other.Forsakes task handle) := by
  induction chain with
  | nil => simp
  | cons move rest ih =>
      rename_i depot actor next turns last
      have owned' := owned.keeps move
      -- As long as the task keeps the handle in hand it is not over and has not been dropped.
      have goes (still : handle ∈ (next.stage task).hands) :
          ∀ ending ∈ (⟨actor, depot, next⟩ : Turn) :: turns,
            (ending.after.stage task).isOver = true →
            (handle ∈ ending.after.begun ↔
              ∀ other ∈ (⟨actor, depot, next⟩ : Turn) :: turns,
                ¬ other.Forsakes task handle) := by
        intro ending there isOver
        have unfinished := unfinished_of_hands still
        have kept : ¬ Turn.Forsakes task handle ⟨actor, depot, next⟩ := by
          intro forsakes
          have ended := over_of_forsakes forsakes
          rw [unfinished] at ended
          cases ended
        rw [List.forall_mem_cons, and_iff_right kept]
        rcases List.mem_cons.mp there with rfl | after
        · rw [unfinished] at isOver
          cases isOver
        · exact ih owned' still ending after isOver
      by_cases mine : actor = some task
      · subst mine
        obtain ⟨request, phase, phase', site, pool, held, effect, pools, tasks, -⟩ :=
          shift_of_move move
        have before := stage_before tasks
        have after := stage_after tasks
        rw [before] at member
        rcases hands_of_leg (leg_of_move move tasks) member with closes | still | dropped
        · have begun : handle ∈ next.begun := by
            rw [begun_of_deed (deed_of_move move tasks), closes]
            exact List.mem_append_right _ (List.mem_singleton_self _)
          obtain ⟨always, never⟩ := ends_of_begun task rest owned' begun
          intro ending there isOver
          have kept : ¬ Turn.Forsakes task handle ⟨some task, depot, next⟩ := by
            rintro ⟨-, -, dropped⟩
            rw [after] at dropped
            rw [dropped] at closes
            cases closes
          rw [List.forall_mem_cons]
          refine iff_of_true ?_ ⟨kept, never⟩
          rcases List.mem_cons.mp there with rfl | later
          · exact begun
          · exact always ending later
        · exact goes (after ▸ still)
        · have member : handle ∈ (depot.stage task).hands := before ▸ member
          have forlorn := forlorn_of_dropped move owned member (after.trans dropped)
          intro ending there isOver
          refine iff_of_false ?_ fun none_forsakes => ?_
          · rcases List.mem_cons.mp there with rfl | later
            · exact forlorn.unclosed
            · exact forlorn.stays rest ending later
          · exact none_forsakes _ List.mem_cons_self ⟨rfl, member, after.trans dropped⟩
      · apply goes
        rw [stage, phase?_of_others move mine]
        exact member

/-- In view of one pool, what a turn takes out of its hands, and what becomes of that at once. -/
structure GivesUp (id : PoolId) (turn : Turn) : Prop where
  destroyed : (turn.after.pool id).destroyed =
    (turn.before.pool id).destroyed + (turn.givenUp id).length
  fate : ∀ handle ∈ turn.givenUp id, ∃ task, turn.actor = some task ∧
    Fate turn.before (turn.after.stage task) handle

theorem returned_of_becomes {actor : Option TaskId}
    (becomes : Becomes depot.tasks request task phase phase' next.tasks) :
    Turn.returned id ⟨actor, depot, next⟩ = (request.brought? id phase).toList := by
  rw [Turn.returned, cameBack, cameBack, cameBack_of_becomes id becomes, List.drop_left']
  · unfold Request.brought?
    split <;> rfl
  · rfl

theorem lent_of_becomes (id : PoolId) (actor : Option TaskId)
    (becomes : Becomes depot.tasks request task phase phase' next.tasks) :
    (Turn.lent id ⟨actor, depot, next⟩).Perm (phase'.checkedOut? id).toList := by
  rw [List.perm_iff_count]
  intro handle
  have out := (checkedOut_of_becomes id becomes).count_eq handle
  rw [List.count_append] at out
  rw [Turn.lent, List.count_diff]
  dsimp only [checkedOut]
  omega

theorem givenUp_of_accounts (actor : Option TaskId) {lost : List HandleId}
    (becomes : Becomes depot.tasks request task phase phase' next.tasks)
    (accounts : Accounts id (depot.pool id) (next.pool id) request phase phase' lost)
    (new : ∀ handle, phase.dialedFor? id phase' = some handle →
      handle ∉ (depot.pool id).idleList) :
    (Turn.givenUp id ⟨actor, depot, next⟩).Perm lost := by
  rw [List.perm_iff_count]
  intro handle
  have counted := accounts.handles.count_eq handle
  have out := (lent_of_becomes id actor becomes).count_eq handle
  simp only [List.count_append] at counted
  rw [Turn.givenUp, List.count_diff, List.count_append, List.count_append,
    returned_of_becomes becomes, out]
  dsimp only
  cases dialed : phase.dialedFor? id phase' with
  | none =>
      rw [dialed, Option.toList_none, List.count_nil] at counted
      omega
  | some fresh =>
      have dials : phase.isDialing id = true ∧ phase'.checkedOut? id = some fresh := by
        simpa [Phase.dialedFor?] using dialed
      have begun : phase ≠ .asked := by
        rintro rfl
        cases dials.1
      rw [dialed, dials.2, brought?_of_begun begun] at counted
      rw [dials.2, brought?_of_begun begun]
      -- The dialed handle was not idle, so taking it away once more takes nothing.
      by_cases same : handle = fresh
      · have absent := List.count_eq_zero_of_not_mem (same ▸ new fresh dialed)
        simp only [Option.toList_none, List.count_nil] at counted ⊢
        omega
      · have apart : (some fresh).toList.count handle = 0 :=
          List.count_eq_zero_of_not_mem fun member => same (List.mem_singleton.mp member)
        simp only [Option.toList_none, List.count_nil] at counted ⊢
        omega

theorem unknown_idle (owned : Owned depot) (inside : id < depot.pools.length) :
    depot.handles.length ∉ (depot.pool id).idleList := by
  intro member
  have here : depot.pools[id]? = some (depot.pool id) := by
    simp [Depot.pool, List.getD_eq_getElem?_getD, inside]
  have idle : depot.handles.length ∈ depot.idleHandles :=
    List.mem_flatMap.mpr ⟨depot.pool id, List.mem_of_getElem? here, member⟩
  exact Nat.lt_irrefl _ ((exclusive_of_owned owned).dialed _
    (List.mem_append_left _ (List.mem_append_left _ idle)))

theorem givesUp_of_same (same : turn.after.pool id = turn.before.pool id)
    (nothing : turn.givenUp id = []) : GivesUp id turn := by
  constructor
  · rw [same, nothing]
    rfl
  · intro handle member
    rw [nothing] at member
    cases member

theorem givesUp_of_move (turn : Turn) (move : Move view turn.before turn.actor turn.after)
    (owned : Owned turn.before) (inside : id < turn.before.pools.length) : GivesUp id turn := by
  obtain ⟨actor, depot, next⟩ := turn
  cases (touch_of_move move : Touch id depot actor next) with
  | missing outside => exact absurd inside (Nat.not_lt_of_le outside)
  | fresh outside => exact absurd inside (Nat.not_lt_of_le outside)
  | still same tasks =>
      apply givesUp_of_same same
      apply List.perm_nil.mp
      rw [List.perm_iff_count]
      intro handle
      simp [Turn.givenUp, Turn.returned, Turn.lent, checkedOut, cameBack, tasks, same,
        List.count_diff]
  | other who same becomes apart apart' plain =>
      rename_i task request phase phase'
      have nothing := checkedOut?_eq_none apart'
      have accounts : Accounts id (depot.pool id) (next.pool id) request phase phase' [] := by
        rw [same]
        exact accounts_lost (brought?_of_plain plain) nothing
          (List.Perm.of_eq (List.append_nil _).symm) rfl
      apply givesUp_of_same same
      apply List.perm_nil.mp
      apply givenUp_of_accounts actor becomes accounts
      intro handle dialed
      rw [dialedFor?_of_none nothing] at dialed
      cases dialed
  | own who inside becomes effect =>
      rename_i task request phase phase'
      obtain ⟨lost, accounts, fates⟩ := accounts_of_effect effect
      have given := givenUp_of_accounts actor becomes accounts fun handle dialed => by
        rw [dialedFor?_of_effect effect dialed]
        exact unknown_idle owned inside
      constructor
      · rw [given.length_eq]
        exact accounts.destroyed
      · intro handle member
        refine ⟨task, who, ?_⟩
        rw [stage_after becomes]
        exact fates handle (given.subset member)

theorem count_brought? (id : PoolId) (request : Request) (phase : Phase) (handle : HandleId) :
    (request.brought? id phase).toList.count handle ≤ (request.brings phase).count handle := by
  unfold Request.brought? Request.brings
  split
  · cases returns : request.returnedTo? id with
    | none => exact Nat.zero_le _
    | some given => rw [handle?_of_returnedTo? returns]
  · exact Nat.le_refl _

theorem forlorn_of_panic (move : Move view depot (some task) next) (owned : Owned depot)
    (inside : id < depot.pools.length) (member : handle ∈ Turn.givenUp id ⟨some task, depot, next⟩)
    (panics : next.stage task = .finished (.panicked Gate.overflowText)) :
    Forlorn next handle := by
  obtain ⟨request, phase, phase', site, pool, held, effect, pools, tasks, called, kept, gained⟩ :=
    shift_of_move move
  rw [stage_after tasks] at panics
  subst panics
  have given := List.count_pos_iff.mpr member
  rw [Turn.givenUp, List.count_diff, List.count_append, List.count_append,
    returned_of_becomes tasks] at given
  dsimp only at given
  by_cases here : site = id
  · subst here
    have changed := live_of_becomes tasks pools called kept gained handle
    have brought := count_brought? site request phase handle
    have begun := begun_of_deed (deed_of_move move tasks)
    rw [pool_set_same pools inside] at given
    have none_left :
        (Phase.finished (.panicked Gate.overflowText)).hands.count handle = 0 := rfl
    have none_got :
        (Phase.finished (.panicked Gate.overflowText)).got?.toList.count handle = 0 := rfl
    apply forlorn_of_fewer move owned
    · omega
    · rw [begun]
      exact congrArg (List.count handle) (List.append_nil _)
  · obtain ⟨-, -, plain⟩ := stakes_of_effect effect here
    rw [pool_set_other pools here, brought?_of_plain plain, Option.toList_none, List.count_nil]
      at given
    omega

theorem destiny_of_givenUp (turn : Turn) (move : Move view turn.before turn.actor turn.after)
    (rest : Chain view turn.after later last) (owned : Owned turn.before)
    (inside : id < turn.before.pools.length) (member : handle ∈ turn.givenUp id) :
    ∃ task, turn.actor = some task ∧ Destiny turn later task handle := by
  obtain ⟨actor, depot, next⟩ := turn
  have owned' := owned.keeps move
  obtain ⟨task, rfl, fate⟩ :=
    (givesUp_of_move ⟨actor, depot, next⟩ move owned inside).fate handle member
  refine ⟨task, rfl, ?_⟩
  have unfinished_first (unfinished : (next.stage task).isOver = false)
      (ends : ∀ ending ∈ later, (ending.after.stage task).isOver = true →
        (handle ∈ ending.after.begun ↔ ∀ other ∈ later, ¬ other.Forsakes task handle)) :
      Destiny ⟨some task, depot, next⟩ later task handle := by
    apply Destiny.closes
    intro ending there isOver
    rcases List.mem_cons.mp there with rfl | after
    · rw [unfinished] at isOver
      cases isOver
    · exact ends ending after isOver
  cases fate with
  | dead closed => exact .dead closed
  | closing closes =>
      apply unfinished_first
      · cases isOver : (next.stage task).isOver with
        | false => rfl
        | true =>
            rw [closing?_of_isOver isOver] at closes
            cases closes
      · obtain ⟨request, phase, phase', site, pool, held, effect, pools, tasks, -⟩ :=
          shift_of_move move
        rw [stage_after tasks] at closes
        have begun : handle ∈ next.begun := by
          rw [begun_of_deed (deed_of_move move tasks), closes]
          exact List.mem_append_right _ (List.mem_singleton_self _)
        obtain ⟨always, never⟩ := ends_of_begun task rest owned' begun
        intro ending after _
        exact iff_of_true (always ending after) never
  | drained hands =>
      exact unfinished_first (unfinished_of_hands hands) (ends_of_hands rest owned' hands)
  | lost panics =>
      have forlorn := forlorn_of_panic move owned inside member panics
      apply Destiny.lost panics
      intro ending there
      rcases List.mem_cons.mp there with rfl | after
      · exact forlorn.unclosed
      · exact forlorn.stays rest ending after

/-- All along every run a pool counts as destroyed just what it gives up. By the time that the task
which gave a handle up is over, the handle was closed already or its close was begun, but for those
that the task had drained and still in hand when it was dropped, and those that went with a slot for
which the gate had no room. -/
theorem givenUp_closed_or_forsaken (id : PoolId) (actions : List Action) {first later : List Turn}
    (splits : ({} : Depot).turns actions = first ++ turn :: later)
    (inside : id < turn.before.pools.length) :
    (turn.after.pool id).destroyed =
        (turn.before.pool id).destroyed + (turn.givenUp id).length ∧
      ∀ handle ∈ turn.givenUp id,
        ∃ task, turn.actor = some task ∧ Destiny turn later task handle := by
  obtain ⟨view, chain⟩ := exists_chain actions
  rw [splits] at chain
  have owned := (chain.front.keeps Owned.keeps owned_empty).1
  cases chain.back with
  | cons move rest =>
      exact ⟨(givesUp_of_move ⟨_, _, _⟩ move owned inside).destroyed, fun handle member =>
        destiny_of_givenUp ⟨_, _, _⟩ move rest owned inside member⟩

/-- The first shutdown drains two handles and is dropped while it closes the newer one. The second
finds the pool closed. -/
def halfShut : List Action :=
  [.makeDialer "dialer" (.counted {}), .makePool "pool" (some 0) "" { maxActive := 2 },
   .checkout 0 {}, .checkout 0 {}, .giveBack 0 0, .giveBack 0 0,
   .mark 1 { closeDelay := some 1000 }, .shut 0, .drop 4, .shut 0, .elapse 2000]

theorem length_halfShut : (({} : Depot).turns halfShut).length = 19 := by decide

theorem givenUp_closed_or_forsaken_halfShut :
    ∃ first turn later, ({} : Depot).turns halfShut = first ++ turn :: later ∧
      0 < turn.before.pools.length ∧
      (turn.after.pool 0).destroyed = (turn.before.pool 0).destroyed + (turn.givenUp 0).length ∧
      0 ∈ turn.givenUp 0 ∧ ∃ task, turn.actor = some task ∧ Destiny turn later task 0 := by
  obtain ⟨first, later, splits, -⟩ :=
    split_at (List.getElem?_eq_getElem (length_halfShut ▸ (by decide : 12 < 19)))
  obtain ⟨destroyed, fate⟩ := givenUp_closed_or_forsaken 0 halfShut splits (by decide)
  exact ⟨first, _, later, splits, by decide, destroyed, by decide, fate 0 (by decide)⟩

def LeavesNoneOpen (id : PoolId) (turns : List Turn) : Prop :=
  ∀ (start stop : Nat) (turn ending : Turn) (task : TaskId) (handle : HandleId), start ≤ stop →
    turns[start]? = some turn → turns[stop]? = some ending → turn.actor = some task →
    handle ∈ turn.givenUp id → (ending.after.stage task).isOver = true →
    turn.before.isClosed handle = true ∨ handle ∈ ending.after.begun

theorem halfShut_leaves_one_open : ¬ LeavesNoneOpen 0 (({} : Depot).turns halfShut) := by
  intro closes
  have early := List.getElem?_eq_getElem (length_halfShut ▸ (by decide : 12 < 19))
  have late := List.getElem?_eq_getElem (length_halfShut ▸ (by decide : 18 < 19))
  have closed := closes 12 18 _ _ 4 0 (by decide) early late (by decide) (by decide) (by decide)
  revert closed
  decide

end Depot

end HandlePool
