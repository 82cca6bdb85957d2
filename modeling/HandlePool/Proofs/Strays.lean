import HandlePool.Proofs.Forsaken
import HandlePool.Proofs.Ledger

/-!
The books of a pool into which callers put handles that were not checked out of it. Such a stray is
not counted when it comes, but it is when it is given up, and it brings a slot that nobody took. So
with every stray the books may be off by one more.
-/
namespace HandlePool

namespace Turn

def restored (id : PoolId) (turn : Turn) : List HandleId :=
  (turn.returned id).filter (· ∈ Depot.heldOf id turn.before.held)

def strays (id : PoolId) (turn : Turn) : List HandleId :=
  if id < turn.before.pools.length then
    (turn.returned id).filter (· ∉ Depot.heldOf id turn.before.held)
  else []

end Turn

namespace Depot

variable {id view : PoolId} {depot next last : Depot} {task : TaskId} {actor : Option TaskId}
  {request : Request} {phase phase' : Phase} {pool : Pool} {own stray : Nat}

theorem length_returned (move : Move view depot actor next) :
    (next.cameBack id).length =
      (depot.cameBack id).length + (Turn.returned id ⟨actor, depot, next⟩).length := by
  have grows := cameBack_grows id move
  rw [Turn.returned, List.length_drop]
  dsimp only
  omega

theorem length_returned_of_inside (turn : Turn) (inside : id < turn.before.pools.length) :
    (turn.restored id).length + (turn.strays id).length = (turn.returned id).length := by
  rw [Turn.restored, Turn.strays, if_pos inside,
    (turn.returned id).length_eq_length_filter_add (· ∈ heldOf id turn.before.held)]
  simp

theorem strays_of_missing (turn : Turn) (outside : turn.before.pools.length ≤ id) :
    turn.strays id = [] :=
  if_neg (Nat.not_lt_of_le outside)

theorem restored_of_nil {turn : Turn} (nothing : turn.returned id = []) :
    turn.restored id = [] := by
  rw [Turn.restored, nothing]
  rfl

theorem strays_of_nil {turn : Turn} (nothing : turn.returned id = []) : turn.strays id = [] := by
  rw [Turn.strays, nothing, List.filter_nil, ite_self]

theorem returned_of_tasks (id : PoolId) (actor : Option TaskId) (tasks : next.tasks = depot.tasks) :
    Turn.returned id ⟨actor, depot, next⟩ = [] := by
  rw [Turn.returned, cameBack, cameBack, tasks]
  exact List.drop_length

theorem length_heldOf_surrendered {held : List Holding} {place : Nat} {holding : Holding}
    (there : held[place]? = some holding) (once : (held.map (·.handle)).count holding.handle ≤ 1)
    (mine : holding.handle ∈ heldOf id held) :
    (heldOf id (held.eraseIdx place)).length + 1 = (heldOf id held).length := by
  obtain ⟨inside, here⟩ := List.getElem?_eq_some_iff.mp there
  have perm := List.getElem_cons_eraseIdx_perm inside
  rw [here] at perm
  have fewer := perm.filterMap fun holding : Holding =>
    if holding.pool = some id then some holding.handle else none
  by_cases came : holding.pool = some id
  · have counted := fewer.length_eq
    simp only [List.filterMap_cons, came, if_true, List.length_cons] at counted
    exact counted
  -- Otherwise another holding would be one of the same handle.
  · simp only [List.filterMap_cons, came, if_false] at fewer
    obtain ⟨other, member, found⟩ := List.mem_filterMap.mp (fewer.symm.subset mine)
    simp only [Option.ite_none_right_eq_some, Option.some.injEq] at found
    have twice : holding.handle ∈ (held.eraseIdx place).map (·.handle) :=
      List.mem_map.mpr ⟨other, member, found.2⟩
    rw [← (perm.map (·.handle)).count_eq, List.map_cons, List.count_cons_self] at once
    have positive := List.count_pos_iff.mpr twice
    omega

theorem length_heldOf_called (id : PoolId) {held : List Holding}
    (called : depot.Called view request held) (owned : Owned depot) :
    (heldOf id held).length +
        ((request.brought? id .asked).toList.filter (· ∈ heldOf id depot.held)).length ≤
      (heldOf id depot.held).length := by
  cases called with
  | plain keeps =>
      rw [brought?_of_plain fun _ => by rw [Request.returnedTo?, keeps]; rfl]
      exact Nat.le_refl _
  | surrendered there own brings =>
      rename_i place holding
      have fewer : (heldOf id (depot.held.eraseIdx place)).length ≤
          (heldOf id depot.held).length :=
        ((List.eraseIdx_sublist depot.held place).filterMap _).length_le
      cases returned : request.brought? id .asked with
      | none => exact fewer
      | some handle =>
          have same : holding.handle = handle := by
            rw [Request.brought?, if_pos rfl] at returned
            rw [handle?_of_returnedTo? returned] at brings
            exact (Option.some.inj brings).symm
          subst same
          rw [Option.toList_some, List.filter_cons, List.filter_nil]
          split
          · rename_i mine
            have once := owned.once holding.handle
            have limit := known_le_one depot holding.handle
            have counted := length_heldOf_surrendered there
              (by unfold live heldHandles at once; omega) (of_decide_eq_true mine)
            exact Nat.le_of_eq counted
          · exact fewer

theorem length_heldOf_of_move (id : PoolId) (move : Move view depot actor next)
    (owned : Owned depot) :
    (heldOf id next.held).length + (Turn.restored id ⟨actor, depot, next⟩).length +
        (depot.checkedOut id).length ≤
      (heldOf id depot.held).length + (next.checkedOut id).length := by
  cases actor with
  | none =>
      cases move with
      | outside resting tasks held =>
          have fewer : (heldOf id next.held).length ≤ (heldOf id depot.held).length :=
            (held.filterMap _).length_le
          rw [restored_of_nil (returned_of_tasks id none tasks), checkedOut, checkedOut, tasks]
          exact Nat.add_le_add_right fewer _
  | some task =>
      obtain ⟨request, phase, phase', site, pool, held, effect, pools, tasks, called, kept,
        gained⟩ := shift_of_move move
      have out := (tally_of_becomes id tasks).out
      rw [Turn.restored, returned_of_becomes tasks, gained, heldOf_append, heldOf_gains,
        List.length_append, out]
      by_cases asked : phase = .asked
      · subst asked
        have surrendered := length_heldOf_called id (called rfl) owned
        dsimp only
        omega
      · rw [kept asked, brought?_of_begun asked]
        simp
        omega

theorem Entry.strays {before after : Figures}
    {dial dial' out back dials dials' lent own' stray' : Nat}
    (entry : Entry before after dial dial' out back) (dialing : dials' + dial = dials + dial')
    (brought : own' + stray' = own + stray + back) (more : own ≤ own') (more' : stray ≤ stray')
    (owed : own' ≤ lent + out) (below : before.active + own ≤ before.idle + lent + dials)
    (above : before.idle + lent + dials ≤ before.active + own + stray) :
    after.active + own' ≤ after.idle + (lent + out) + dials' ∧
      after.idle + (lent + out) + dials' ≤ after.active + own' + stray' := by
  cases entry with
  | kept => omega
  | _ =>
      dsimp only
      omega

theorem Entry.fewer {before after : Figures} {dial out back : Nat}
    (entry : Entry before after dial 0 out back) :
    after.idle + out ≤ before.idle + dial + back := by
  cases entry with
  | kept => exact Nat.le_refl _
  | _ =>
      dsimp only
      omega

theorem Entry.begins {before after : Figures} {out back : Nat}
    (entry : Entry before after 0 1 out back) :
    after.idle = before.idle ∧ after.active = before.active + 1 ∧ out = 0 := by
  cases entry with
  | reserved => exact ⟨rfl, rfl, rfl⟩

structure Loose (id : PoolId) (own stray : Nat) (depot : Depot) : Prop where
  held : (heldOf id depot.held).length + own ≤ (depot.checkedOut id).length
  below : (depot.pool id).active + own ≤
    (depot.pool id).idleList.length + (depot.checkedOut id).length + depot.dialing id
  above : (depot.pool id).idleList.length + (depot.checkedOut id).length + depot.dialing id ≤
    (depot.pool id).active + own + stray
  within : (depot.pool id).limits.bounded = true →
    (depot.pool id).idleList.length + (depot.checkedOut id).length + depot.dialing id ≤
      (depot.pool id).limits.maxActive.toNat + own + stray
  brim : (depot.pool id).limits.bounded = true → (depot.pool id).limits.wait = false →
    (depot.pool id).active ≤ (depot.pool id).limits.maxActive.toNat

theorem within_of_gating {back : Nat} (gating : Gating id back depot)
    (waits : (depot.pool id).limits.boundedWait = true) :
    (depot.checkedOut id).length + depot.dialing id ≤
      (depot.pool id).limits.maxActive.toNat + back := by
  have gated := gating.gated
  rw [waits] at gated
  obtain ⟨gate, there⟩ := Option.isSome_iff_exists.mp gated
  have within := (gating.slots gate there).within
  have busy := busy_le_inside id depot
  omega

theorem loose_of_missing (custody : Custody view depot) (outside : depot.pools.length ≤ id)
    (held : (heldOf id depot.held).length + own ≤ (depot.checkedOut id).length) :
    Loose id own stray depot := by
  have missing := depot.pool_of_length_le outside
  have out := checkedOut_missing custody outside
  have dials : depot.dialing id = 0 :=
    census_missing custody outside (fun _ => isDialing_of_apart) rfl
  rw [out, List.length_nil] at held
  refine ⟨by rw [out]; exact held, ?_, ?_, fun bounded => ?_, fun bounded => ?_⟩
  · rw [missing]
    exact Nat.le_trans (Nat.le_of_eq (Nat.zero_add _)) (by omega)
  · rw [missing, out, dials]
    exact Nat.zero_le _
  · rw [missing] at bounded
    cases bounded
  · rw [missing] at bounded
    cases bounded

theorem loose_of_fresh (custody : Custody view depot) (outside : depot.pools.length ≤ id)
    (fresh : (next.pool id).IsFresh) (tasks : next.tasks = depot.tasks)
    (held : (heldOf id next.held).length + own ≤ (next.checkedOut id).length) :
    Loose id own stray next := by
  have out : next.checkedOut id = [] := by
    rw [checkedOut, tasks]
    exact checkedOut_missing custody outside
  have dials : next.dialing id = 0 := by
    rw [dialing, census, tasks]
    exact census_missing custody outside (fun _ => isDialing_of_apart) rfl
  have active : (next.pool id).active = 0 := congrArg Figures.active (figures_fresh fresh)
  have idle : (next.pool id).idleList.length = 0 := congrArg Figures.idle (figures_fresh fresh)
  rw [out, List.length_nil] at held
  refine ⟨by rw [out]; exact held, ?_, ?_, fun bounded => ?_, fun bounded waits => ?_⟩
  · omega
  · rw [idle, out, dials]
    exact Nat.zero_le _
  · rw [idle, out, dials]
    exact Nat.zero_le _
  · rw [active]
    exact Nat.zero_le _

theorem loose_of_entry {own' stray' dial dial' out back : Nat} (loose : Loose id own stray depot)
    (limits : (next.pool id).limits = (depot.pool id).limits)
    (tally : Tally id depot next dial dial' out back)
    (entry : Entry (figures (depot.pool id)) (figures (next.pool id)) dial dial' out back)
    (brought : own' + stray' = own + stray + back) (more : own ≤ own') (more' : stray ≤ stray')
    (held : (heldOf id next.held).length + own' ≤ (next.checkedOut id).length)
    (gating : Gating id (own' + stray') next)
    (begins : dial' = 0 ∨ dial = 0 ∧ dial' = 1 ∧ (depot.pool id).idleList = [] ∧
      ((depot.pool id).limits.wait = false → (depot.pool id).limits.bounded = true →
        (depot.pool id).active < (depot.pool id).limits.maxActive.toNat)) :
    Loose id own' stray' next := by
  have lent := tally.out
  obtain ⟨below, above⟩ :=
    entry.strays tally.dialing brought more more' (by omega) loose.below loose.above
  rw [← lent] at below above
  have brim (bounded : (next.pool id).limits.bounded = true)
      (waits : (next.pool id).limits.wait = false) :
      (next.pool id).active ≤ (next.pool id).limits.maxActive.toNat := by
    rw [limits] at bounded waits ⊢
    rcases begins with none_begins | ⟨rfl, rfl, -, compared⟩
    · subst none_begins
      exact Nat.le_trans entry.active_le (loose.brim bounded waits)
    · have room := compared waits bounded
      have reserves := entry.begins.2.1
      dsimp only [figures] at reserves
      omega
  refine ⟨held, below, above, fun bounded => ?_, brim⟩
  -- The books bound what is out where nobody waits. Else the slots do, once nothing is idle.
  cases waits : (next.pool id).limits.wait with
  | false =>
      have brim := brim bounded waits
      dsimp only [figures] at above
      omega
  | true =>
      rcases begins with none_begins | ⟨rfl, rfl, empty, -⟩
      · subst none_begins
        have fewer := entry.fewer
        have dialing := tally.dialing
        rw [limits] at bounded ⊢
        have within := loose.within bounded
        dsimp only [figures] at fewer
        omega
      · have within := within_of_gating gating (by rw [Limits.boundedWait, waits, bounded]; rfl)
        have idle := entry.begins.1
        dsimp only [figures] at idle
        rw [idle, empty, List.length_nil]
        omega

theorem length_cameBack_of_move (move : Move view depot actor next)
    (there : id < next.pools.length) : (next.cameBack id).length =
      (depot.cameBack id).length + ((Turn.restored id ⟨actor, depot, next⟩).length +
        (Turn.strays id ⟨actor, depot, next⟩).length) := by
  by_cases inside : id < depot.pools.length
  · rw [length_returned_of_inside ⟨actor, depot, next⟩ inside]
    exact length_returned move
  -- A pool is made while no task moves.
  · have tasks : next.tasks = depot.tasks := by
      cases actor with
      | none =>
          cases move with
          | outside resting tasks => exact tasks
      | some task =>
          obtain ⟨request, phase, phase', site, pool, held, effect, pools, -⟩ := shift_of_move move
          rw [pools, List.length_set] at there
          exact absurd there inside
    have nothing := returned_of_tasks id actor tasks
    rw [restored_of_nil nothing, strays_of_nil nothing, cameBack, cameBack, tasks]
    rfl

structure Straying (view id : PoolId) (own stray : Nat) (depot : Depot) : Prop where
  custody : Custody view depot
  owned : Owned depot
  loose : Loose id own stray depot
  gating : Gating id (own + stray) depot
  unused : depot.pools.length ≤ id → own + stray = 0

theorem Straying.keeps (move : Move view depot actor next)
    (kept : Straying view id own stray depot) :
    Straying view id (own + (Turn.restored id ⟨actor, depot, next⟩).length)
      (stray + (Turn.strays id ⟨actor, depot, next⟩).length) next := by
  obtain ⟨custody, owned, loose, gating, unused⟩ := kept
  have custody' := custody.keeps move
  have grown := pools_grow move
  have held : (heldOf id next.held).length +
      (own + (Turn.restored id ⟨actor, depot, next⟩).length) ≤ (next.checkedOut id).length := by
    have holds := length_heldOf_of_move id move owned
    have held := loose.held
    omega
  by_cases outside' : next.pools.length ≤ id
  · refine ⟨custody', owned.keeps move, loose_of_missing custody' outside' held,
      admission_missing custody' outside', fun _ => ?_⟩
    have outside := Nat.le_trans grown outside'
    have nothing := unused outside
    rw [checkedOut_missing custody' outside', List.length_nil] at held
    rw [strays_of_missing ⟨actor, depot, next⟩ outside, List.length_nil]
    omega
  · have there := Nat.lt_of_not_le outside'
    have came := length_cameBack_of_move move there
    have gating' : Gating id (own + (Turn.restored id ⟨actor, depot, next⟩).length +
        (stray + (Turn.strays id ⟨actor, depot, next⟩).length)) next := by
      rw [Nat.add_add_add_comm]
      exact gating_of_move move custody gating unused came
    refine ⟨custody', owned.keeps move, ?_, gating', fun outside' => by omega⟩
    have more := Nat.le_add_right own (Turn.restored id ⟨actor, depot, next⟩).length
    have more' := Nat.le_add_right stray (Turn.strays id ⟨actor, depot, next⟩).length
    cases (touch_of_move move : Touch id depot actor next) with
    | missing outside outside' => omega
    | fresh outside fresh resting tasks => exact loose_of_fresh custody outside fresh tasks held
    | still same tasks =>
        have tally : Tally id depot next 0 0 0 0 :=
          ⟨by rw [dialing, dialing, census, census, tasks],
            by rw [checkedOut, checkedOut, tasks]; rfl, by rw [cameBack, cameBack, tasks]; rfl⟩
        exact loose_of_entry loose (congrArg Pool.limits same) tally (same ▸ .kept)
          (by have back := tally.back; omega) more more' held gating' (Or.inl rfl)
    | other who same becomes apart apart' plain =>
        have tally := tally_of_becomes id becomes
        rw [isDialing_of_apart apart, isDialing_of_apart apart', checkedOut?_eq_none apart',
          bringsBack_of_none plain] at tally
        exact loose_of_entry loose (congrArg Pool.limits same) tally (same ▸ .kept)
          (by have back := tally.back; omega) more more' held gating' (Or.inl rfl)
    | own who inside becomes effect =>
        rename_i task request phase phase'
        have tally := tally_of_becomes id becomes
        apply loose_of_entry loose (fixed_of_effect effect).limits tally (entry_of_effect effect)
          (by have back := tally.back; omega) more more' held gating'
        cases dials : phase'.isDialing id with
        | false => exact Or.inl rfl
        | true =>
            have begins := dials_of_effect effect dials
            exact Or.inr ⟨by rw [begins.apart]; rfl, rfl, begins.empty,
              (allowed_of_refusal? begins.allowed).2⟩

theorem Chain.straying {turns : List Turn} (chain : Chain view depot turns last)
    (kept : Straying view id own stray depot) :
    Straying view id (own + (turns.flatMap (Turn.restored id)).length)
      (stray + (turns.flatMap (Turn.strays id)).length) last := by
  induction chain generalizing own stray with
  | nil => exact kept
  | cons move rest ih =>
      have kept := ih (kept.keeps move)
      rw [List.flatMap_cons, List.flatMap_cons, List.length_append, List.length_append,
        ← Nat.add_assoc, ← Nat.add_assoc]
      exact kept

theorem straying_empty (view id : PoolId) : Straying view id 0 0 {} := by
  refine ⟨custody_empty view, owned_empty, ?_, admission_empty id, fun _ => rfl⟩
  exact loose_of_missing (custody_empty view) (Nat.zero_le id) (Nat.le_refl 0)

def out (id : PoolId) (first : List Turn) (depot : Depot) : Nat :=
  (depot.checkedOut id).length - (first.flatMap (Turn.restored id)).length

/-- How far the books of a pool may be off after turns in which so many strays came to it. -/
structure OffBy (id : PoolId) (first : List Turn) (depot : Depot) (stray : Nat) : Prop where
  restored : (first.flatMap (Turn.restored id)).length ≤ (depot.checkedOut id).length
  below : (depot.pool id).active ≤
    (depot.pool id).idle.size + out id first depot + depot.dialing id
  above : (depot.pool id).idle.size + out id first depot + depot.dialing id ≤
    (depot.pool id).active + stray
  within : (depot.pool id).limits.bounded = true →
    (depot.pool id).idle.size + out id first depot + depot.dialing id ≤
      (depot.pool id).limits.maxActive.toNat + stray
  slots : ∀ gate, (depot.pool id).gate = some gate →
    gate.free + gate.granted.length ≤ (depot.pool id).limits.maxActive.toNat + stray ∧
      ((depot.pool id).closed = false →
        gate.free + gate.granted.length + depot.inside id + out id first depot =
          (depot.pool id).limits.maxActive.toNat + stray)

theorem offBy_of_straying {first : List Turn}
    (kept : Straying view id (first.flatMap (Turn.restored id)).length stray depot) :
    OffBy id first depot stray := by
  obtain ⟨held, below, above, within, -⟩ := kept.loose
  have size := (depot.pool id).size_idle
  have restored : (first.flatMap (Turn.restored id)).length ≤ (depot.checkedOut id).length := by
    omega
  refine ⟨restored, ?_, ?_, fun bounded => ?_, fun gate gated => ?_⟩
  · unfold out
    omega
  · unfold out
    omega
  · have within := within bounded
    unfold out
    omega
  · have slots := kept.gating.slots gate gated
    have all := slots.within
    simp only [Gate.slots] at all
    refine ⟨by omega, fun isOpen => ?_⟩
    have spread := slots.spread (slots.alike.trans isOpen)
    simp only [Gate.slots] at spread
    unfold out
    omega

/-- All along every run the books of a pool are off by no more than the strays that came to it: the
handles that are idle, out or being dialed are as many as are active and may be so many more, and so
are they within the limit, and the slots of the gate are just so many more. -/
theorem books_off_by_strays {actions : List Action} {first : List Turn}
    (reaches : Reaches actions first depot) (id : PoolId) :
    OffBy id first depot (first.flatMap (Turn.strays id)).length := by
  obtain ⟨view, large⟩ := returnsOwn_of_large actions
  have kept := (reaches.chain (large view (Nat.le_refl _) {})).straying (straying_empty view id)
  rw [Nat.zero_add, Nat.zero_add] at kept
  exact offBy_of_straying kept

def handFilled : List Action :=
  [.makeDialer "dialer" (.counted {}), .makePool "pool" none "" { maxActive := 1, wait := true },
   .dial 0 "", .dial 0 "", .giveBack 0 0, .giveBack 0 0]

theorem books_off_by_strays_handFilled :
    Reaches handFilled (({} : Depot).turns handFilled) (({} : Depot).run handFilled) ∧
      OffBy 0 (({} : Depot).turns handFilled) (({} : Depot).run handFilled)
        ((({} : Depot).turns handFilled).flatMap (Turn.strays 0)).length ∧
      (({} : Depot).turns handFilled).flatMap (Turn.strays 0) = [0, 1] :=
  ⟨reaches_run handFilled, books_off_by_strays (reaches_run handFilled) 0, by decide⟩

structure KeepsBooks (id : PoolId) (first : List Turn) (depot : Depot) : Prop where
  covered : (depot.pool id).idle.size ≤ (depot.pool id).active
  counted : (depot.pool id).active =
    (depot.pool id).idle.size + out id first depot + depot.dialing id
  within : (depot.pool id).limits.bounded = true →
    out id first depot ≤ (depot.pool id).limits.maxActive.toNat
  slots : ∀ gate, (depot.pool id).gate = some gate →
    gate.free ≤ (depot.pool id).limits.maxActive.toNat

theorem handFilled_breaks_books :
    ¬ KeepsBooks 0 (({} : Depot).turns handFilled) (({} : Depot).run handFilled) ∧
      ((({} : Depot).run handFilled).pool 0).active = 0 ∧
      ((({} : Depot).run handFilled).pool 0).idle.size = 2 ∧
      ((({} : Depot).run handFilled).pool 0).gate = some { free := 3 } ∧
      out 0 (({} : Depot).turns (handFilled ++ [.checkout 0 {}, .checkout 0 {}]))
        (({} : Depot).run (handFilled ++ [.checkout 0 {}, .checkout 0 {}])) = 2 := by
  refine ⟨fun keeps => ?_, by decide, by decide, by decide, by decide⟩
  have covered := keeps.covered
  revert covered
  decide

end Depot

end HandlePool
