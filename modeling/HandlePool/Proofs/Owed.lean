import HandlePool.Proofs.Ownership
import Mathlib.Data.Multiset.AddSub

/-!
What a pool is owed: the handles that are idle in it or were checked out of it, but for those that
came back. Its `active` never counts more than these and the dials in progress, whatever else is
given to the pool.
-/
namespace HandlePool

def Phase.dialedFor? (id : PoolId) (phase phase' : Phase) : Option HandleId :=
  if phase.isDialing id then phase'.checkedOut? id else none

def Request.brought? (id : PoolId) (request : Request) (phase : Phase) : Option HandleId :=
  if phase = .asked then request.returnedTo? id else none

namespace Depot

def owed (depot : Depot) (id : PoolId) : Multiset HandleId :=
  (depot.checkedOut id ++ (depot.pool id).idleList : List HandleId) -
    (depot.cameBack id : Multiset HandleId)

variable {id view site : PoolId} {depot next : Depot} {task : TaskId} {request : Request}
  {phase phase' : Phase} {pool : Pool} {handle : HandleId}

/-- No handle of a pool is lost out of its books: those destroyed are as many as are missing. -/
structure Accounts (id : PoolId) (before after : Pool) (request : Request) (phase phase' : Phase)
    (lost : List HandleId) : Prop where
  handles : (before.idleList ++ (request.brought? id phase).toList ++
      (phase.dialedFor? id phase').toList).Perm
    (after.idleList ++ (phase'.checkedOut? id).toList ++ lost)
  destroyed : after.destroyed = before.destroyed + lost.length

/-- What becomes at once of a handle that is given up in a move. If the slot that comes back with it
overflows the gate nothing does. -/
inductive Fate (depot : Depot) (phase' : Phase) (handle : HandleId) : Prop where
  | dead (closed : depot.isClosed handle = true)
  | closing (closes : phase'.closing? = some handle)
  | drained (member : handle ∈ phase'.hands)
  | lost (panics : phase' = .finished (.panicked Gate.overflowText))

theorem brought?_of_plain (plain : phase = .asked → request.returnedTo? id = none) :
    request.brought? id phase = none := by
  unfold Request.brought?
  split
  · rename_i asked
    exact plain asked
  · rfl

theorem brought?_of_checkout {context : Context} (asks : request = .checkout site context) :
    request.brought? id phase = none :=
  brought?_of_plain fun _ => by rw [asks]; rfl

theorem brought?_of_begun (begun : phase ≠ .asked) : request.brought? id phase = none :=
  if_neg begun

theorem brought?_own {handle : HandleId} (brings : request.returned? = some (id, handle)) :
    request.brought? id .asked = some handle := by
  simp [Request.brought?, Request.returnedTo?, brings]

theorem dialedFor?_of_none (nothing : phase'.checkedOut? id = none) :
    phase.dialedFor? id phase' = none := by
  unfold Phase.dialedFor?
  split
  · exact nothing
  · rfl

theorem accounts_lost {before after : Pool} {lost : List HandleId}
    (brought : request.brought? id phase = none) (nothing : phase'.checkedOut? id = none)
    (handles : before.idleList.Perm (after.idleList ++ lost))
    (destroyed : after.destroyed = before.destroyed + lost.length) :
    Accounts id before after request phase phase' lost := by
  refine ⟨?_, destroyed⟩
  rw [brought, nothing, dialedFor?_of_none nothing]
  simpa using handles

theorem accounts_kept {before after : Pool} (brought : request.brought? id phase = none)
    (nothing : phase'.checkedOut? id = none) (idle : after.idleList = before.idleList)
    (destroyed : after.destroyed = before.destroyed) :
    ∃ lost, Accounts id before after request phase phase' lost ∧
      ∀ handle ∈ lost, Fate depot phase' handle :=
  ⟨[], accounts_lost brought nothing (by simp [idle]) destroyed, by simp⟩

theorem accounts_grant {passed : Pool} {slot : Bool} {waited : Option Nat}
    (grant : depot.Grant task request id phase passed slot waited) :
    ∃ lost, Accounts id (depot.pool id) ((passed.recordWait waited).prune depot.isClosed).1 request
        phase (.scanning id slot) lost ∧
      ∀ handle ∈ lost, Fate depot (.scanning id slot) handle := by
  have brought : request.brought? id phase = none := by
    cases grant with
    | free asks => exact brought?_of_checkout asks
    | taken asks => exact brought?_of_checkout asks
    | collected => exact brought?_of_begun (by simp)
  have same : (passed.recordWait waited).idleList = (depot.pool id).idleList ∧
      (passed.recordWait waited).destroyed = (depot.pool id).destroyed := by
    rw [Pool.recordWait_eq]
    cases grant <;> exact ⟨rfl, rfl⟩
  refine ⟨(passed.recordWait waited).stale depot.isClosed, accounts_lost brought rfl ?_ ?_,
    fun handle member => .dead (Pool.closed_of_mem_stale _ _ member)⟩
  · rw [← same.1]
    exact List.Perm.of_eq (Pool.idleList_split _ _)
  · rw [Pool.destroyed_prune, same.2]

theorem accounts_of_effect (effect : Effect depot task request id phase phase' pool) :
    ∃ lost, Accounts id (depot.pool id) pool request phase phase' lost ∧
      ∀ handle ∈ lost, Fate depot phase' handle := by
  cases effect with
  | aside apart apart' begun plain =>
      refine accounts_kept (brought?_of_plain fun asked => ?_)
        (checkedOut?_eq_none (stake?_ne_of_none id apart')) rfl rfl
      rw [Request.returnedTo?, Request.returned?_of_plain (plain asked)]
      rfl
  | turnedAway asks => exact accounts_kept (brought?_of_checkout asks) rfl rfl rfl
  | queue asks => exact accounts_kept (brought?_of_checkout asks) rfl rfl rfl
  | pass grant => exact accounts_grant grant
  | bounce asks =>
      exact accounts_kept (brought?_of_checkout asks) (checkedOut?_refused _ _ rfl) rfl rfl
  | quit =>
      exact accounts_kept (brought?_of_begun (by simp)) (checkedOut?_refused _ _ rfl) rfl rfl
  | leave | dial | rescan => exact accounts_kept (brought?_of_begun (by simp)) rfl rfl rfl
  | reuse taken usable =>
      rename_i slot handle
      obtain ⟨split, same⟩ := Pool.takeNewest_eq_some taken
      refine ⟨[], ⟨?_, by rw [same]; rfl⟩, by simp⟩
      rw [brought?_of_begun (by simp), checkedOut?_own, split]
      simpa [Phase.dialedFor?, Phase.isDialing] using List.perm_append_singleton handle _ |>.symm
  | reject taken unusable goes dead =>
      rename_i slot handle rest
      obtain ⟨split, same⟩ := Pool.takeNewest_eq_some taken
      have nothing : phase'.checkedOut? id = none := by
        rcases goes with rfl | ⟨due, rfl⟩ <;> rfl
      refine ⟨[handle], accounts_lost (brought?_of_begun (by simp)) nothing ?_ (by rw [same]; rfl),
        fun given member => ?_⟩
      · rw [split]
        exact (List.perm_append_singleton handle rest.idleList).symm
      · rw [List.mem_singleton.mp member]
        rcases goes with goes | ⟨due, goes⟩
        · exact .dead (dead goes)
        · exact .closing (by rw [goes]; rfl)
  | deny | refuse | panic =>
      exact accounts_kept (brought?_of_begun (by simp)) (checkedOut?_refused _ _ rfl)
        (Pool.idleList_handBack _ _ _) (Pool.destroyed_handBack _ _ _)
  | unconfigured =>
      exact accounts_kept (brought?_of_begun (by simp)) (checkedOut?_refused _ _ rfl)
        (Pool.idleList_handBack _ _ _) (Pool.destroyed_handBack _ _ _)
  | letGo =>
      exact accounts_kept (brought?_of_begun (by simp)) rfl
        (Pool.idleList_handBack _ _ _) (Pool.destroyed_handBack _ _ _)
  | abandon held =>
      have begun : phase ≠ .asked := by rcases held with rfl | ⟨handle, due, rfl⟩ <;> simp
      exact accounts_kept (brought?_of_begun begun) rfl
        (Pool.idleList_handBack _ _ _) (Pool.destroyed_handBack _ _ _)
  | connect answer =>
      rename_i slot call handle
      refine ⟨[], ⟨?_, rfl⟩, by simp⟩
      rw [brought?_of_begun (by simp), Phase.dialedFor?, isDialing_own, if_pos rfl, checkedOut?_own]
      simp [Pool.recordDial, Pool.idleList]
  | giveBack asks goes =>
      rename_i handle
      have nothing : phase'.checkedOut? id = none := by
        rcases goes with ⟨-, rfl⟩ | ⟨-, rfl⟩ | ⟨oldest, due, -, rfl⟩ <;> rfl
      have books := ((depot.pool id).shelve_books handle).2
      refine ⟨((depot.pool id).evicted handle).toList, ⟨?_, ?_⟩, fun given member => ?_⟩
      · rw [brought?_own (by rw [asks]; rfl), nothing, dialedFor?_of_none nothing,
          Pool.releaseSlot_eq, Pool.idleList_changeGate]
        have perm := (depot.pool id).perm_shelve handle
        simpa using (perm.trans (List.perm_append_singleton handle _).symm).symm
      · rw [Pool.releaseSlot_eq, Pool.destroyed_changeGate, books]
        rfl
      · rcases goes with ⟨-, rfl⟩ | ⟨kept, -⟩ | ⟨oldest, due, evicted, rfl⟩
        · exact .lost rfl
        · rw [kept] at member
          cases member
        · rw [evicted, Option.mem_toList] at member
          exact .closing member
  | discard asks goes dead =>
      rename_i handle
      have nothing : phase'.checkedOut? id = none := by
        rcases goes with ⟨-, rfl⟩ | rfl | ⟨due, rfl⟩ <;> rfl
      refine ⟨[handle], ⟨?_, ?_⟩, fun given member => ?_⟩
      · rw [brought?_own (by rw [asks]; rfl), nothing, dialedFor?_of_none nothing,
          Pool.releaseSlot_eq, Pool.idleList_changeGate]
        simp
      · rw [Pool.releaseSlot_eq]
        rfl
      · rw [List.mem_singleton.mp member]
        rcases goes with ⟨-, rfl⟩ | goes | ⟨due, rfl⟩
        · exact .lost rfl
        · exact .dead (dead goes)
        · exact .closing rfl
  | shut isOpen =>
      refine ⟨(depot.pool id).idleList, accounts_lost (brought?_of_begun (by simp)) rfl ?_ ?_,
        fun given member => .drained ?_⟩
      · simp [Pool.idleList]
      · rw [Pool.shut_books]
        rfl
      · rw [Phase.hands, Pool.drained_shut]
        exact member

theorem Entry.active_le_of {before after : Figures} {dial dial' out back : Nat}
    (entry : Entry before after dial dial' out back) :
    after.active ≤ before.active + dial' + dial * out -
      (dial + (after.destroyed - before.destroyed)) := by
  cases entry with
  | kept => omega
  | culled count enough => dsimp only; omega
  | lent enough => dsimp only; omega
  | reserved => dsimp only; omega
  | connected => dsimp only; omega
  | undone => dsimp only; omega
  | returned count once => dsimp only; omega

theorem card_dialedFor? (id : PoolId) (phase phase' : Phase) :
    (phase.dialedFor? id phase').toList.length =
      (phase.isDialing id).toNat * (phase'.checkedOut? id).toList.length := by
  unfold Phase.dialedFor?
  split
  · rename_i dials
    rw [dials, Bool.toNat_true, Nat.one_mul]
  · rename_i quiet
    rw [Bool.eq_false_iff.mpr quiet, Bool.toNat_false, Nat.zero_mul]
    rfl

theorem card_owed_le {before after back came fresh lost : List HandleId}
    (apart : ∀ handle ∈ fresh, handle ∉ back)
    (handles : (before ++ came ++ fresh).Perm (after ++ lost)) :
    ((before : Multiset HandleId) - back).card + fresh.length ≤
      ((after : Multiset HandleId) - (back ++ came : List HandleId)).card + lost.length := by
  rw [← Multiset.coe_card fresh, ← Multiset.coe_card lost, ← Multiset.card_add, ← Multiset.card_add]
  apply Multiset.card_le_card
  rw [Multiset.le_iff_count]
  intro handle
  have counted := handles.count_eq handle
  have new : 0 < fresh.count handle → back.count handle = 0 := fun there =>
    List.count_eq_zero_of_not_mem (apart handle (List.count_pos_iff.mp there))
  simp only [Multiset.count_add, Multiset.count_sub, Multiset.coe_count, List.count_append]
    at counted ⊢
  omega

theorem dialedFor?_of_effect (effect : Effect depot task request id phase phase' pool)
    (dialed : phase.dialedFor? id phase' = some handle) : handle = depot.handles.length := by
  unfold Phase.dialedFor? at dialed
  split at dialed
  · rename_i dials
    have isOver := checkedOut?_eq_some dialed
    cases effect with
    | aside apart =>
        rw [isDialing_of_apart (stake?_ne_of_none id apart)] at dials
        cases dials
    | connect answer =>
        rename_i slot call given
        cases isOver
        rcases depot.endDial_handles call with ⟨made, same, length, -⟩ | ⟨nothing, -⟩
        · rw [answer] at same
          cases same
          exact length
        · exact absurd answer (nothing _)
    | refuse | panic =>
        unfold overflowOr at isOver
        split at isOver <;> cases isOver
    | pass | letGo | abandon => cases isOver
    | _ => cases dials
  · cases dialed

def Brought (id : PoolId) (depot : Depot) : Prop :=
  ∀ handle ∈ depot.cameBack id, handle < depot.handles.length

def Covered (id : PoolId) (depot : Depot) : Prop :=
  (depot.pool id).active ≤ depot.dialing id + (depot.owed id).card

theorem covered_of_accounts {lost : List HandleId}
    (becomes : Becomes depot.tasks request task phase phase' next.tasks)
    (accounts : Accounts id (depot.pool id) (next.pool id) request phase phase' lost)
    (entry : Entry (figures (depot.pool id)) (figures (next.pool id)) (phase.isDialing id).toNat
      (phase'.isDialing id).toNat (phase'.checkedOut? id).toList.length
      (bringsBack id request phase))
    (new : ∀ handle, phase.dialedFor? id phase' = some handle → handle = depot.handles.length)
    (brought : Brought id depot) (covered : Covered id depot) : Covered id next := by
  have active := entry.active_le_of
  have tally := tally_of_becomes id becomes
  have destroyed := accounts.destroyed
  have fresh := card_dialedFor? id phase phase'
  have dialing := tally.dialing
  have changes : (depot.owed id).card + (phase.dialedFor? id phase').toList.length ≤
      (next.owed id).card + lost.length := by
    have out := checkedOut_of_becomes id becomes
    have back : next.cameBack id = depot.cameBack id ++ (request.brought? id phase).toList := by
      rw [cameBack, cameBack_of_becomes id becomes]
      unfold Request.brought?
      split <;> rfl
    unfold owed
    rw [back]
    apply card_owed_le
    -- What is dialed just now is new to the depot, so it cannot have come back to the pool before.
    · intro handle member old
      have last := new handle (Option.mem_toList.mp member)
      exact Nat.lt_irrefl _ (last ▸ brought handle old)
    · have handles := accounts.handles
      rw [List.perm_iff_count] at out handles ⊢
      intro handle
      have outs := out handle
      have accounted := handles handle
      simp only [checkedOut, List.count_append] at outs accounted ⊢
      omega
  unfold Covered at *
  simp only [figures] at active
  omega

theorem known_lasts {actor : Option TaskId} (move : Move view depot actor next)
    (dialed : handle < depot.handles.length) : handle < next.handles.length := by
  cases actor with
  | some task =>
      obtain ⟨request, phase, phase', site, pool, held, effect, pools, tasks, -⟩ :=
        shift_of_move move
      have fresh := known_of_deed (deed_of_move move tasks) handle
      have before : known depot handle = 1 := by simp [known, dialed]
      by_contra unknown
      have after : known next handle = 0 := by simp [known, unknown]
      omega
  | none =>
      cases move with
      | outside resting tasks held pools acts =>
          obtain ⟨action, isOutside, rfl⟩ := acts
          have idles : Idles depot (depot.act action) := idles_outside isOutside
          rw [idles.handles]
          exact dialed

theorem handle?_of_returnedTo? (returns : request.returnedTo? id = some handle) :
    request.handle? = some handle := by
  obtain ⟨⟨pool, given⟩, gives, found⟩ := Option.bind_eq_some_iff.mp returns
  simp only [Option.ite_none_right_eq_some, Option.some.injEq] at found
  rw [← found.2]
  cases request with
  | giveBack => cases gives; rfl
  | discard => cases gives; rfl
  | _ => cases gives

theorem dialed_of_called {held : List Holding} (called : depot.Called view request held)
    (owned : Owned depot) (brings : request.handle? = some handle) :
    handle < depot.handles.length := by
  have there := count_called called handle
  have once := owned.once handle
  rw [Request.brings, if_pos rfl, brings, Option.toList_some, List.count_singleton_self] at there
  by_contra unknown
  have none_known : known depot handle = 0 := by simp [known, unknown]
  simp only [live] at once
  omega

theorem Brought.keeps {actor : Option TaskId} (move : Move view depot actor next)
    (owned : Owned depot) (brought : Brought id depot) : Brought id next := by
  intro handle member
  cases actor with
  | some task =>
      obtain ⟨request, phase, phase', site, pool, held, effect, pools, tasks, called, -, -⟩ :=
        shift_of_move move
      apply known_lasts move
      rw [cameBack, cameBack_of_becomes id tasks, List.mem_append] at member
      rcases member with old | new
      · exact brought handle old
      · split at new
        · rename_i asked
          have returned := Option.mem_toList.mp new
          exact dialed_of_called (called asked) owned (handle?_of_returnedTo? returned)
        · cases new
  | none =>
      have lasts : handle < depot.handles.length → handle < next.handles.length :=
        known_lasts move
      cases move with
      | outside resting tasks =>
          rw [cameBack, tasks] at member
          exact lasts (brought handle member)

theorem Covered.keeps {actor : Option TaskId} (move : Move view depot actor next)
    (brought : Brought id depot) (covered : Covered id depot) : Covered id next := by
  cases (touch_of_move move : Touch id depot actor next) with
  | missing outside outside' =>
      rw [Covered, next.pool_of_length_le outside']
      exact Nat.zero_le _
  | fresh outside fresh =>
      have unused : (next.pool id).active = 0 := congrArg Figures.active (figures_fresh fresh)
      rw [Covered, unused]
      exact Nat.zero_le _
  | still same tasks =>
      rw [Covered, owed, dialing, census, checkedOut, cameBack, same, tasks]
      exact covered
  | other who same becomes apart apart' plain =>
      rename_i task request phase phase'
      have nothing := checkedOut?_eq_none apart'
      have accounts : Accounts id (depot.pool id) (next.pool id) request phase phase' [] := by
        rw [same]
        exact accounts_lost (brought?_of_plain plain) nothing
          (List.Perm.of_eq (List.append_nil _).symm) rfl
      refine covered_of_accounts becomes accounts ?_ (fun handle dialed => ?_) brought covered
      · rw [isDialing_of_apart apart, isDialing_of_apart apart', nothing, same,
          bringsBack_of_none plain]
        exact .kept
      · rw [dialedFor?_of_none nothing] at dialed
        cases dialed
  | own who inside becomes effect =>
      obtain ⟨lost, accounts, -⟩ := accounts_of_effect effect
      exact covered_of_accounts becomes accounts (entry_of_effect effect)
        (fun handle => dialedFor?_of_effect effect) brought covered

theorem active_le_idle (covered : Covered id depot)
    (settled : (depot.checkedOut id).Subperm (depot.cameBack id)) (quiet : depot.dialing id = 0) :
    (depot.pool id).active ≤ (depot.pool id).idleList.length := by
  have few : (depot.owed id).card ≤ ((depot.pool id).idleList : Multiset HandleId).card := by
    apply Multiset.card_le_card
    rw [owed, Multiset.sub_le_iff_le_add, ← Multiset.coe_add, Multiset.add_comm]
    exact Multiset.add_le_add_iff_left.mpr (Multiset.coe_le.mpr settled)
  rw [Covered, quiet] at covered
  rw [Multiset.coe_card] at few
  omega

end Depot

end HandlePool
