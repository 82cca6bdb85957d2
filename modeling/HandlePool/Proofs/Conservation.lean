import HandlePool.Proofs.Custody

namespace HandlePool

def Phase.isDialing (id : PoolId) : Phase → Bool
  | .dialing pool _ _ => pool == id
  | _ => false

namespace Depot

def dialing (depot : Depot) (id : PoolId) : Nat := depot.census (Phase.isDialing id)

/-- The two accounts that a pool keeps: of room, and of handles. -/
structure Balanced (id : PoolId) (depot : Depot) : Prop where
  room : (depot.pool id).active + (depot.pool id).destroyed =
    (depot.pool id).created + depot.dialing id
  handles : (depot.pool id).created + (depot.cameBack id).length =
    (depot.pool id).destroyed + (depot.pool id).idleList.length + (depot.checkedOut id).length

def bringsBack (id : PoolId) (request : Request) (phase : Phase) : Nat :=
  if phase = .asked then (request.returnedTo? id).toList.length else 0

variable {id site : PoolId} {depot next : Depot} {task : TaskId} {request : Request}
  {phase phase' : Phase} {pool : Pool}

theorem bringsBack_of_none (plain : phase = .asked → request.returnedTo? id = none) :
    bringsBack id request phase = 0 := by
  unfold bringsBack
  split
  · rename_i asked
    rw [plain asked]
    rfl
  · rfl

theorem bringsBack_of_plain (plain : phase = .asked → request.pool? = none) :
    bringsBack id request phase = 0 :=
  bringsBack_of_none fun asked => by
    rw [Request.returnedTo?, Request.returned?_of_plain (plain asked)]
    rfl

theorem isDialing_of_apart (apart : phase.stake? ≠ some id) : phase.isDialing id = false := by
  cases phase with
  | dialing pool slot call => simpa [Phase.isDialing, Phase.stake?] using apart
  | _ => rfl

theorem stake?_ne_of_none (id : PoolId) (apart : phase.stake? = none) : phase.stake? ≠ some id := by
  rw [apart]
  simp

structure Figures where
  active : Nat
  created : Nat
  destroyed : Nat
  idle : Nat

def figures (pool : Pool) : Figures :=
  ⟨pool.active, pool.created, pool.destroyed, pool.idleList.length⟩

/-- The entries that moves make: the figures before and after, whether a dial was in progress before
and whether one is after, how many handles went out and how many came back. -/
inductive Entry (before : Figures) : Figures → Nat → Nat → Nat → Nat → Prop where
  | kept : Entry before before 0 0 0 0
  | culled (count : Nat) (enough : count ≤ before.idle) :
      Entry before { before with
        active := before.active - count
        destroyed := before.destroyed + count
        idle := before.idle - count } 0 0 0 0
  | lent (enough : 1 ≤ before.idle) : Entry before { before with idle := before.idle - 1 } 0 0 1 0
  | reserved : Entry before { before with active := before.active + 1 } 0 1 0 0
  | connected : Entry before { before with created := before.created + 1 } 1 0 1 0
  | undone : Entry before { before with active := before.active - 1 } 1 0 0 0
  | returned (count : Nat) (once : count ≤ 1) :
      Entry before { before with
        active := before.active - count
        destroyed := before.destroyed + count
        idle := before.idle + 1 - count } 0 0 0 1

theorem figures_prune (pool : Pool) (isClosed : HandleId → Bool) :
    figures (pool.prune isClosed).1 =
      { figures pool with
        active := pool.active - (pool.stale isClosed).length
        destroyed := pool.destroyed + (pool.stale isClosed).length
        idle := pool.idleList.length - (pool.stale isClosed).length } := by
  have split := congrArg List.length (pool.idleList_split isClosed)
  rw [List.length_append] at split
  simp only [figures, Pool.active_prune, Pool.destroyed_prune, Pool.created_prune]
  congr
  omega

theorem entry_of_prune (pool passed : Pool) (same : figures passed = figures pool)
    (waited : Option Nat) (isClosed : HandleId → Bool) :
    Entry (figures pool) (figures ((passed.recordWait waited).prune isClosed).1) 0 0 0 0 := by
  have recorded : figures (passed.recordWait waited) = figures pool := by
    rw [← same, Pool.recordWait_eq]
    rfl
  have split := congrArg List.length ((passed.recordWait waited).idleList_split isClosed)
  rw [List.length_append] at split
  rw [figures_prune, ← recorded]
  exact .culled _ (by simp only [figures]; omega)

theorem bringsBack_of_begun (begun : phase ≠ .asked) : bringsBack id request phase = 0 :=
  if_neg begun

theorem bringsBack_of_checkout {context : Context} (asks : request = .checkout site context) :
    bringsBack id request phase = 0 :=
  bringsBack_of_none fun _ => by rw [asks]; rfl

theorem checkedOut?_refused (overflow : Bool) (outcome : Outcome)
    (nothing : (Phase.finished outcome).checkedOut? id = none) :
    (Phase.finished (overflowOr overflow outcome)).checkedOut? id = none := by
  unfold overflowOr
  split
  · rfl
  · exact nothing

theorem isDialing_own (slot : Bool) (call : Call) :
    (Phase.dialing id slot call).isDialing id = true := beq_self_eq_true id

theorem checkedOut?_own (handle : HandleId) :
    (Phase.finished (.checkedOut id handle)).checkedOut? id = some handle := if_pos rfl

theorem bringsBack_own {handle : HandleId} (brings : request.returned? = some (id, handle)) :
    bringsBack id request .asked = 1 := by
  simp [bringsBack, Request.returnedTo?, brings]

theorem figures_handBack (pool : Pool) (slot reserved : Bool) :
    figures (pool.handBack slot reserved) =
      { figures pool with active := pool.active - reserved.toNat } := by
  simp [figures]

theorem figures_releaseSlot (pool : Pool) : figures pool.releaseSlot = figures pool := by
  rw [Pool.releaseSlot_eq]
  rfl

theorem figures_forget (pool : Pool) (count : Nat) :
    figures (pool.forget count) =
      { figures pool with
        active := (figures pool).active - count
        destroyed := (figures pool).destroyed + count } := rfl

theorem figures_shelve (pool : Pool) (handle : HandleId) :
    figures (pool.shelve handle).1 =
      { figures pool with
        active := pool.active - (pool.evicted handle).toList.length
        destroyed := pool.destroyed + (pool.evicted handle).toList.length
        idle := pool.idleList.length + 1 - (pool.evicted handle).toList.length } := by
  obtain ⟨shelved, same⟩ := pool.shelve_books handle
  have length : (pool.shelve handle).1.idleList.length =
      pool.idleList.length + 1 - (pool.evicted handle).toList.length := by omega
  rw [figures, length, same]
  rfl

theorem figures_taken {handle : HandleId} {pool rest : Pool}
    (entries : pool.idleList = handle :: rest.idleList)
    (same : rest = { pool with idle := rest.idle }) :
    figures rest = { figures pool with idle := pool.idleList.length - 1 } := by
  rw [entries, same]
  rfl

theorem entry_of_effect (effect : Effect depot task request id phase phase' pool) :
    Entry (figures (depot.pool id)) (figures pool) (phase.isDialing id).toNat
      (phase'.isDialing id).toNat (phase'.checkedOut? id).toList.length
      (bringsBack id request phase) := by
  cases effect with
  | aside apart apart' begun plain =>
      have apart := stake?_ne_of_none id apart
      have apart' := stake?_ne_of_none id apart'
      rw [bringsBack_of_plain plain, checkedOut?_eq_none apart', isDialing_of_apart apart,
        isDialing_of_apart apart']
      exact .kept
  | turnedAway asks =>
      rw [bringsBack_of_checkout asks]
      exact .kept
  | queue asks =>
      rw [bringsBack_of_checkout asks]
      exact .kept
  | pass grant =>
      cases grant with
      | free asks =>
          rw [bringsBack_of_checkout asks]
          exact entry_of_prune (depot.pool id) (depot.pool id) rfl _ _
      | taken asks =>
          rw [bringsBack_of_checkout asks]
          exact entry_of_prune (depot.pool id) ((depot.pool id).changeGate _) rfl _ _
      | collected =>
          rw [bringsBack_of_begun (by simp)]
          exact entry_of_prune (depot.pool id) ((depot.pool id).changeGate _) rfl _ _
  | bounce asks =>
      rw [bringsBack_of_checkout asks, checkedOut?_refused _ _ rfl]
      exact .kept
  | quit =>
      rw [bringsBack_of_begun (by simp), checkedOut?_refused _ _ rfl]
      exact .kept
  | leave =>
      rw [bringsBack_of_begun (by simp)]
      exact .kept
  | reuse taken =>
      obtain ⟨entries, rest⟩ := Pool.takeNewest_eq_some taken
      rw [bringsBack_of_begun (by simp), figures_taken entries rest, checkedOut?_own]
      exact .lent (by simp [figures, entries])
  | reject taken unusable goes =>
      obtain ⟨entries, rest⟩ := Pool.takeNewest_eq_some taken
      rw [bringsBack_of_begun (by simp), figures_forget, figures_taken entries rest]
      have there : 1 ≤ (figures (depot.pool id)).idle := by simp [figures, entries]
      rcases goes with rfl | ⟨due, rfl⟩
      · exact .culled 1 there
      · exact .culled 1 there
  | deny =>
      rw [bringsBack_of_begun (by simp), checkedOut?_refused _ _ rfl, figures_handBack]
      exact .kept
  | unconfigured =>
      rw [bringsBack_of_begun (by simp), checkedOut?_refused _ _ rfl, figures_handBack]
      exact .kept
  | dial =>
      rw [bringsBack_of_begun (by simp), isDialing_own]
      exact .reserved
  | connect =>
      rw [bringsBack_of_begun (by simp), isDialing_own, checkedOut?_own]
      exact .connected
  | refuse =>
      rw [bringsBack_of_begun (by simp), isDialing_own, checkedOut?_refused _ _ rfl,
        figures_handBack]
      exact .undone
  | panic =>
      rw [bringsBack_of_begun (by simp), isDialing_own, checkedOut?_refused _ _ rfl,
        figures_handBack]
      exact .undone
  | letGo =>
      rw [bringsBack_of_begun (by simp), isDialing_own, figures_handBack]
      exact .undone
  | rescan =>
      rw [bringsBack_of_begun (by simp)]
      exact .kept
  | abandon held =>
      rw [figures_handBack]
      rcases held with rfl | ⟨handle, due, rfl⟩
      · rw [bringsBack_of_begun (by simp)]
        exact .kept
      · rw [bringsBack_of_begun (by simp)]
        exact .kept
  | giveBack asks goes =>
      rename_i handle
      have once : ((depot.pool id).evicted handle).toList.length ≤ 1 := by
        cases (depot.pool id).evicted handle <;> simp
      rw [bringsBack_own (by rw [asks]; rfl), figures_releaseSlot, figures_shelve]
      rcases goes with ⟨-, rfl⟩ | ⟨-, rfl⟩ | ⟨oldest, due, -, rfl⟩
      · exact .returned _ once
      · exact .returned _ once
      · exact .returned _ once
  | discard asks goes =>
      rw [bringsBack_own (by rw [asks]; rfl), figures_releaseSlot, figures_forget]
      rcases goes with ⟨-, rfl⟩ | rfl | ⟨due, rfl⟩
      · exact .returned 1 (Nat.le_refl 1)
      · exact .returned 1 (Nat.le_refl 1)
      · exact .returned 1 (Nat.le_refl 1)
  | shut isOpen =>
      rw [bringsBack_of_begun (by simp), Pool.shut_books]
      have all : Entry (figures (depot.pool id)) _ 0 0 0 0 := .culled _ (Nat.le_refl _)
      rw [Nat.sub_self] at all
      exact all

section

variable {before after : Figures} {dial dial' out back dials dials' went came : Nat}

theorem Entry.created_eq (entry : Entry before after dial dial' out back) :
    after.created = before.created + dial * out := by
  cases entry <;> rfl

theorem Entry.balances (entry : Entry before after dial dial' out back)
    (room : before.active + before.destroyed = before.created + dials)
    (handles : before.created + came = before.destroyed + before.idle + went)
    (dialed : dials' + dial = dials + dial') (owed : came ≤ went)
    (owed' : came + back ≤ went + out) :
    (after.active + after.destroyed = after.created + dials' ∧
      after.created + (came + back) = after.destroyed + after.idle + (went + out)) ∧
      before.destroyed ≤ after.destroyed ∧
      after.destroyed - before.destroyed ≤ before.active := by
  -- The two accounts together say that `active` covers what is idle, out and being dialed. As many
  -- came back as went out at most, so there is enough of it for all that is subtracted.
  have idle_fits : before.idle ≤ before.active := by omega
  cases entry with
  | culled count enough =>
      have fits : count ≤ before.active := Nat.le_trans enough idle_fits
      dsimp only
      omega
  | returned count once =>
      have fits : count ≤ before.active := by omega
      dsimp only
      omega
  | kept => omega
  | lent | reserved | connected | undone =>
      dsimp only
      omega

end

theorem balanced_missing (custody : Custody id depot) (outside : depot.pools.length ≤ id)
    (unused : figures (next.pool id) = ⟨0, 0, 0, 0⟩) (tasks : next.tasks = depot.tasks) :
    Balanced id next := by
  have dials : next.dialing id = 0 := by
    rw [dialing, census, tasks]
    exact census_missing custody outside (fun _ => isDialing_of_apart) rfl
  have out : next.checkedOut id = [] := by
    rw [checkedOut, tasks]
    exact checkedOut_missing custody outside
  have back : next.cameBack id = [] := by
    rw [cameBack, tasks]
    exact cameBack_missing custody outside
  injection unused with active created destroyed idle
  constructor
  · rw [active, created, destroyed, dials]
  · rw [created, destroyed, idle, out, back]

theorem figures_fresh (fresh : pool.IsFresh) : figures pool = ⟨0, 0, 0, 0⟩ := by
  obtain ⟨id, dialer, parameter, limits, gate, rfl⟩ := fresh.made
  rfl

theorem figures_missing (outside : depot.pools.length ≤ id) :
    figures (depot.pool id) = ⟨0, 0, 0, 0⟩ := by
  rw [depot.pool_of_length_le outside]
  rfl

structure Tally (id : PoolId) (depot next : Depot) (dial dial' out back : Nat) : Prop where
  dialing : next.dialing id + dial = depot.dialing id + dial'
  out : (next.checkedOut id).length = (depot.checkedOut id).length + out
  back : (next.cameBack id).length = (depot.cameBack id).length + back

theorem tally_of_becomes (id : PoolId)
    (becomes : Becomes depot.tasks request task phase phase' next.tasks) :
    Tally id depot next (phase.isDialing id).toNat (phase'.isDialing id).toNat
      (phase'.checkedOut? id).toList.length (bringsBack id request phase) where
  dialing := countP_of_becomes becomes (Phase.isDialing id) rfl
  out := by
    have out := (checkedOut_of_becomes id becomes).length_eq
    rw [List.length_append] at out
    exact out.trans (Nat.add_comm _ _)
  back := by
    rw [cameBack, cameBack_of_becomes id becomes, List.length_append, bringsBack]
    split <;> rfl

theorem balanced_of_entry {dial dial' out back : Nat} (custody : Custody id depot)
    (custody' : Custody id next) (balanced : Balanced id depot)
    (tally : Tally id depot next dial dial' out back)
    (entry : Entry (figures (depot.pool id)) (figures (next.pool id)) dial dial' out back) :
    Balanced id next ∧ (depot.pool id).destroyed ≤ (next.pool id).destroyed ∧
      (next.pool id).destroyed - (depot.pool id).destroyed ≤ (depot.pool id).active := by
  have owed := (cameBack_subperm custody).length_le
  have owed' := (cameBack_subperm custody').length_le
  rw [tally.out, tally.back] at owed'
  obtain ⟨⟨room, handles⟩, subtracted⟩ :=
    entry.balances balanced.room balanced.handles tally.dialing owed owed'
  refine ⟨⟨room, ?_⟩, subtracted⟩
  rw [tally.out, tally.back]
  exact handles

theorem balanced_of_move {actor : Option TaskId} (move : Move id depot actor next)
    (custody : Custody id depot) (balanced : Balanced id depot) :
    Balanced id next ∧ (depot.pool id).destroyed ≤ (next.pool id).destroyed ∧
      (next.pool id).destroyed - (depot.pool id).destroyed ≤ (depot.pool id).active := by
  have custody' := custody.keeps move
  cases touch_of_move move with
  | missing outside outside' =>
      have none_destroyed := congrArg Figures.destroyed (figures_missing outside)
      have none_destroyed' := congrArg Figures.destroyed (figures_missing outside')
      dsimp only [figures] at none_destroyed none_destroyed'
      refine ⟨balanced_missing custody' outside' (figures_missing outside') rfl, ?_⟩
      omega
  | fresh outside fresh resting tasks =>
      have unused := figures_fresh fresh
      have none_destroyed := congrArg Figures.destroyed (figures_missing outside)
      have none_destroyed' := congrArg Figures.destroyed unused
      dsimp only [figures] at none_destroyed none_destroyed'
      refine ⟨balanced_missing custody outside unused tasks, ?_⟩
      omega
  | still same tasks =>
      rw [same]
      obtain ⟨room, handles⟩ := balanced
      exact ⟨⟨by rw [same, dialing, census, tasks]; exact room,
        by rw [same, checkedOut, cameBack, tasks]; exact handles⟩, Nat.le_refl _, by simp⟩
  | other who same becomes apart apart' plain =>
      have tally := tally_of_becomes id becomes
      rw [isDialing_of_apart apart, isDialing_of_apart apart', checkedOut?_eq_none apart',
        bringsBack_of_none plain] at tally
      exact balanced_of_entry custody custody' balanced tally (by rw [same]; exact .kept)
  | own who inside becomes effect =>
      exact balanced_of_entry custody custody' balanced (tally_of_becomes id becomes)
        (entry_of_effect effect)

theorem balanced_empty (id : PoolId) : Balanced id {} := ⟨rfl, rfl⟩

def Conserved (id : PoolId) (depot : Depot) : Prop :=
  (depot.pool id).active =
    (depot.pool id).idle.size + (depot.away id).length + depot.dialing id

theorem conserved_of_balanced (custody : Custody id depot) (balanced : Balanced id depot) :
    Conserved id depot := by
  have room := balanced.room
  have handles := balanced.handles
  have away := length_away custody
  rw [Conserved, Pool.size_idle]
  omega

/-- What `active` loses in a turn it had, be it for handles destroyed or for a dial undone, and it
changes by just as much as that and what it gains. With a subtraction cut off it would not. -/
structure Exact (id : PoolId) (turn : Turn) : Prop where
  destroyed : (turn.before.pool id).destroyed ≤ (turn.after.pool id).destroyed
  forgets : (turn.after.pool id).destroyed - (turn.before.pool id).destroyed ≤
    (turn.before.pool id).active
  undoes : turn.before.dialing id ≤ (turn.before.pool id).active
  change : ((turn.after.pool id).active : Int) - (turn.before.pool id).active =
    ((turn.after.pool id).created - (turn.before.pool id).created) +
      (turn.after.dialing id - turn.before.dialing id) -
      ((turn.after.pool id).destroyed - (turn.before.pool id).destroyed)

theorem exact_of_move {turn : Turn} (move : Move id turn.before turn.actor turn.after)
    (custody : Custody id turn.before) (balanced : Balanced id turn.before) : Exact id turn := by
  obtain ⟨balanced', destroyed, forgets⟩ := balanced_of_move move custody balanced
  have conserved := conserved_of_balanced custody balanced
  have room := balanced.room
  have room' := balanced'.room
  unfold Conserved at conserved
  refine ⟨destroyed, forgets, ?_, ?_⟩
  · omega
  · omega

theorem books_keep {actor : Option TaskId} (move : Move id depot actor next)
    (books : Custody id depot ∧ Balanced id depot) : Custody id next ∧ Balanced id next :=
  ⟨books.1.keeps move, (balanced_of_move move books.1 books.2).1⟩

theorem balanced_turns {actions : List Action} (own : ({} : Depot).returnsOwn id actions = true) :
    (Custody id (({} : Depot).run actions) ∧ Balanced id (({} : Depot).run actions)) ∧
      ∀ turn ∈ ({} : Depot).turns actions,
        (Custody id turn.before ∧ Balanced id turn.before) ∧
          Custody id turn.after ∧ Balanced id turn.after :=
  turns_keep (fun depot => Custody id depot ∧ Balanced id depot)
    ⟨custody_empty id, balanced_empty id⟩
    books_keep own

/-- In every run in which what goes back to a pool was checked out of it, the pool's `active` counts
the handles that are idle, those that are away and the dials in progress, before and after every
turn, and nothing is ever subtracted from it that is not there. -/
theorem active_conserved {actions : List Action}
    (own : ({} : Depot).returnsOwn id actions = true) :
    Conserved id (({} : Depot).run actions) ∧
      ((({} : Depot).run actions).pool id).idle.size ≤
        ((({} : Depot).run actions).pool id).active ∧
      ∀ turn ∈ ({} : Depot).turns actions,
        Conserved id turn.before ∧ Conserved id turn.after ∧ Exact id turn := by
  obtain ⟨⟨custody, balanced⟩, all⟩ := balanced_turns own
  have conserved := conserved_of_balanced custody balanced
  refine ⟨conserved, ?_, fun turn member => ?_⟩
  · rw [conserved]
    omega
  · obtain ⟨⟨custody, balanced⟩, custody', balanced'⟩ := all turn member
    have move := (chain_turns id actions own resting_empty).move_of_mem member
    exact ⟨conserved_of_balanced custody balanced, conserved_of_balanced custody' balanced',
      exact_of_move move custody balanced⟩

def handedOn : List Action :=
  [.makeDialer "dialer" (.counted { delay := some 1000 }),
   .makePool "pool" (some 0) "" { maxActive := 2, wait := true },
   .checkout 0 {}, .elapse 2000, .poll 0, .checkout 0 {}, .checkout 0 {}, .giveBack 0 0, .poll 2]

theorem active_conserved_handedOn :
    ({} : Depot).returnsOwn 0 handedOn = true ∧ Conserved 0 (({} : Depot).run handedOn) ∧
      ((({} : Depot).run handedOn).pool 0).active = 2 :=
  ⟨by decide, (active_conserved (by decide)).1, by decide⟩

end Depot

end HandlePool
