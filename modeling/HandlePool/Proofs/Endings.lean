import HandlePool.Proofs.Scan
import HandlePool.Proofs.Unfailing
import Mathlib.Data.List.ReduceOption

namespace HandlePool

def Handle.label (handle : Handle) : DialerId × Nat := (handle.dialer, handle.serial)

def Dialer.counter? (dialer : Dialer) : Option Counter :=
  match dialer.conduct with
  | .counted counter => some counter
  | .scripted _ => none

def Action.adjust (dialer : DialerId) (counter : Counter) : Action → Counter
  | .failNext other count => if other = dialer then { counter with failures := count } else counter
  | .setDelay other delay => if other = dialer then { counter with delay := some delay } else counter
  | _ => counter

namespace Turn

/-- With what a dial of the dialer ended in the turn, a handle or nothing. One that is dropped does
not end. -/
def ending? (dialer : DialerId) (turn : Turn) : Option (Option HandleId) :=
  turn.actor.bind fun task =>
    if (turn.before.stage task).call?.any (·.dialer == dialer) ∧
        turn.after.stage task ≠ .dropped then
      some (turn.after.stage task).got?
    else none

theorem ending?_of_nobody {turn : Turn} {dialer : DialerId} (nobody : turn.actor = none) :
    turn.ending? dialer = none := by
  rw [ending?, nobody]
  rfl

def abandons (turn : Turn) : Bool :=
  turn.actor.any fun task =>
    (turn.before.stage task).call?.isSome && decide (turn.after.stage task = .dropped)

end Turn

def endings (dialer : DialerId) (turns : List Turn) : List (Option HandleId) :=
  turns.filterMap (Turn.ending? dialer)

/-- The first so many came to nothing, or all if there are fewer, and each later one to a handle. -/
def FailsFirst (count : Nat) (ended : List (Option HandleId)) : Prop :=
  ended.map Option.isNone =
    List.replicate (min count ended.length) true ++
      List.replicate (ended.length - count) false

namespace Depot

def labels (depot : Depot) : List (DialerId × Nat) := depot.handles.map Handle.label

def counter? (depot : Depot) (dialer : DialerId) : Option Counter :=
  depot.dialers[dialer]?.bind Dialer.counter?

structure Tallies (dialer : DialerId) (ended : List (Option HandleId)) (depot : Depot)
    (counter : Counter) : Prop where
  here : depot.counter? dialer = some counter
  handles : counter.handles = ended.reduceOption
  created : counter.created = counter.handles.length
  next : counter.nextSerial = counter.handles.length
  labels : counter.handles.map (depot.labels[·]?) =
    (List.range counter.handles.length).map fun serial => some (dialer, serial)

/-- A new dialer counts its dials as they end. At every time its numbers, its count and its handles
are those of the dials that came to a handle so far. None fails until it is told to fail, and then
just as many as it was told last, if so many end. One that is dropped leaves it as it was. -/
structure CountsEnds (dialer : DialerId) (made : Depot) : Prop where
  tallies : ∀ actions first, first <+: made.turns actions →
    ∃ counter, Tallies dialer (endings dialer first) (made.reached first) counter
  unbidden : ∀ actions, (∀ count, .failNext dialer count ∉ actions) →
    FailsFirst 0 (endings dialer (made.turns actions))
  bidden : ∀ past count since, (∀ other, .failNext dialer other ∉ since) →
    FailsFirst count (endings dialer ((made.run (past ++ [.failNext dialer count])).turns since))
  abandoned : ∀ actions, ∀ turn ∈ made.turns actions, turn.abandons = true →
    turn.after.dialers = turn.before.dialers

inductive Reckons (dialer : DialerId) (turn : Turn) (counter : Counter) : Counter → Prop where
  | silent (nothing : turn.ending? dialer = none) : Reckons dialer turn counter counter
  | told {action} (nobody : turn.actor = none) (acts : turn.after = turn.before.act action) :
      Reckons dialer turn counter (action.adjust dialer counter)
  | refused (ended : turn.ending? dialer = some none) (pending : 0 < counter.failures) :
      Reckons dialer turn counter { counter with failures := counter.failures - 1 }
  | connected {handle} (ended : turn.ending? dialer = some (some handle))
      (clear : counter.failures = 0)
      (label : turn.after.labels[handle]? = some (dialer, counter.nextSerial)) :
      Reckons dialer turn counter (counter.enroll handle)

variable {view : PoolId} {dialer : DialerId} {depot next last : Depot} {task : TaskId}
  {actor : Option TaskId} {request : Request} {phase phase' : Phase} {call : Call}
  {counter counter' : Counter} {turns : List Turn} {ended : List (Option HandleId)}

section Dialing

variable {name : String}

theorem counter?_eq_some_iff : depot.counter? dialer = some counter ↔
    ∃ name, depot.dialers[dialer]? = some ⟨name, .counted counter⟩ := by
  rw [counter?, Option.bind_eq_some_iff]
  constructor
  · rintro ⟨⟨name, conduct⟩, there, counts⟩
    cases conduct with
    | counted other =>
        cases counts
        exact ⟨name, there⟩
    | scripted script => cases counts
  · rintro ⟨name, there⟩
    exact ⟨_, there, rfl⟩

theorem counter?_of_dialers (same : next.dialers = depot.dialers) :
    next.counter? dialer = depot.counter? dialer := by
  rw [counter?, same, counter?]

theorem counter?_setDialer (inside : dialer < depot.dialers.length) (name : String)
    (counter : Counter) :
    (depot.setDialer dialer ⟨name, .counted counter⟩).counter? dialer = some counter :=
  counter?_eq_some_iff.mpr ⟨name, List.getElem?_set_self inside⟩

theorem counter?_setDialer_apart {id : DialerId} (apart : id ≠ dialer) (made : Dialer) :
    (depot.setDialer id made).counter? dialer = depot.counter? dialer := by
  rw [counter?, setDialer, List.getElem?_set_ne apart, counter?]

theorem dialer_of_getElem? {made : Dialer} (there : depot.dialers[dialer]? = some made) :
    depot.dialer dialer = made := by
  rw [Depot.dialer, List.getD_eq_getElem?_getD, there]
  rfl

theorem counter?_changeDialer (id : DialerId) (change : Dialer → Dialer)
    (adjust : Counter → Counter)
    (changes : ∀ name counter, change ⟨name, .counted counter⟩ = ⟨name, .counted (adjust counter)⟩)
    (here : depot.counter? dialer = some counter) :
    (depot.changeDialer id change).counter? dialer =
      some (if id = dialer then adjust counter else counter) := by
  by_cases same : id = dialer
  · subst same
    obtain ⟨name, there⟩ := counter?_eq_some_iff.mp here
    rw [if_pos rfl, changeDialer, dialer_of_getElem? there, changes]
    exact counter?_setDialer (List.getElem?_eq_some_iff.mp there).1 name _
  · rw [if_neg same, changeDialer, counter?_setDialer_apart same, here]

theorem endDial_counted (here : depot.counter? call.dialer = some counter) :
    (0 < counter.failures ∧ (depot.endDial call).1 = .refused Counter.refusalText ∧
      (depot.endDial call).2.counter? call.dialer =
        some { counter with failures := counter.failures - 1 }) ∨
    (counter.failures = 0 ∧ (depot.endDial call).1 = .connected depot.handles.length ∧
      (depot.endDial call).2.counter? call.dialer = some (counter.enroll depot.handles.length) ∧
      (depot.endDial call).2.labels = depot.labels ++ [(call.dialer, counter.nextSerial)]) := by
  obtain ⟨name, there⟩ := counter?_eq_some_iff.mp here
  have inside := (List.getElem?_eq_some_iff.mp there).1
  have found := dialer_of_getElem? there
  rcases Nat.eq_zero_or_pos counter.failures with clear | pending
  · right
    have connects : (depot.dialer call.dialer).conclude call.ending =
        (.connect { make := .numbered }, ⟨name, .counted counter⟩) := by
      rw [found]
      simp [Dialer.conclude, Counter.conclude, clear]
    have again : (depot.setDialer call.dialer ⟨name, .counted counter⟩).dialer call.dialer =
        ⟨name, .counted counter⟩ := by
      rw [dialer_setDialer, if_pos ⟨rfl, inside⟩]
    simp only [endDial, connects, addHandle, again]
    refine ⟨clear, rfl, ?_, List.map_append⟩
    exact counter?_setDialer (by simpa [setDialer] using inside) name _
  · left
    have refuses : (depot.dialer call.dialer).conclude call.ending =
        (.refuse Counter.refusalText,
          ⟨name, .counted { counter with failures := counter.failures - 1 }⟩) := by
      rw [found]
      simp [Dialer.conclude, Counter.conclude, pending]
    rw [endDial, refuses]
    exact ⟨pending, rfl, counter?_setDialer inside name _⟩

theorem counter?_endDial_apart (apart : call.dialer ≠ dialer) :
    (depot.endDial call).2.counter? dialer = depot.counter? dialer := by
  unfold endDial
  split
  rename_i ending made _
  have kept : (depot.setDialer call.dialer made).counter? dialer = depot.counter? dialer :=
    counter?_setDialer_apart apart made
  cases ending with
  | connect fitting => exact (counter?_setDialer_apart apart _).trans kept
  | refuse reason => exact kept
  | panic message => exact kept

theorem labels_endDial (depot : Depot) (call : Call) :
    depot.labels <+: (depot.endDial call).2.labels := by
  unfold endDial
  split
  rename_i ending made _
  cases ending with
  | connect fitting => exact (List.prefix_append depot.handles _).map Handle.label
  | refuse reason => exact List.prefix_refl _
  | panic message => exact List.prefix_refl _

end Dialing

section Moving

theorem labels_of_deed (deed : Deed depot request next phase phase') :
    depot.labels <+: next.labels := by
  have worked {mid : Depot} (rest : Untouched mid next) (grown : depot.labels <+: mid.labels) :
      depot.labels <+: next.labels := by
    have same : next.labels = mid.labels := congrArg (List.map Handle.label) rest.handles
    rwa [same]
  cases deed with
  | plain idle silent nothing rest => exact worked rest (List.prefix_refl _)
  | beginsClose closes rest => exact worked rest (List.prefix_refl _)
  | endsClose closed idle silent rest =>
      rename_i handle
      have same : (depot.endClose handle).labels = depot.labels :=
        views_changeHandle Handle.label depot handle fun _ => rfl
      exact worked rest ⟨[], (List.append_nil _).trans same.symm⟩
  | beginsDial calls who rest => exact worked rest (List.prefix_refl _)
  | endsDial called isOver yields rest => exact worked rest (labels_endDial depot _)

theorem labels_of_move (move : Move view depot actor next) : depot.labels <+: next.labels := by
  cases actor with
  | some task =>
      obtain ⟨request, phase, phase', site, pool, held, effect, pools, tasks, -⟩ :=
        shift_of_move move
      exact labels_of_deed (deed_of_move move tasks)
  | none =>
      cases move with
      | outside resting tasks held pools acts =>
          obtain ⟨action, isOutside, rfl⟩ := acts
          have same : (depot.act action).labels = depot.labels :=
            views_outside Handle.label isOutside (fun _ _ => rfl) fun handle => by
              rw [Handle.monitored_eq]
              rfl
          exact ⟨[], (List.append_nil _).trans same.symm⟩

theorem counter?_of_deed (deed : Deed depot request next phase phase')
    (silent : phase.call? = none) (here : depot.counter? dialer = some counter) :
    next.counter? dialer = some counter := by
  cases deed with
  | plain idle silent nothing rest => rwa [counter?_of_dialers rest.dialers]
  | beginsClose closes rest => rwa [counter?_of_dialers rest.dialers]
  | endsClose closed idle silent rest => rwa [counter?_of_dialers rest.dialers]
  | beginsDial calls who rest =>
      rename_i called parameter
      have there : (depot.record (.dial called
          ((depot.dialer called).shownParameter parameter))).counter? dialer = some counter := here
      have same := counter?_changeDialer called Dialer.advance id (fun _ _ => rfl) there
      rw [counter?_of_dialers rest.dialers]
      rwa [id, ite_self] at same
  | endsDial called =>
      rw [silent] at called
      cases called

theorem begun_of_call? (called : phase.call? = some call) : phase ≠ .asked := by
  rintro rfl
  cases called

theorem ends_or_drops (move : Move view depot (some task) next)
    (called : (depot.stage task).call? = some call) :
    Ends depot task call next ∨ next.stage task = .dropped ∧ Untouched depot next := by
  have begun := begun_of_call? called
  cases move with
  | begins => exact absurd depot.stage_length begun
  | steps here begun' unfinished moves goes =>
      rename_i found
      rw [stage_of_getElem? here] at called
      rcases goes with step | rfl
      · exact Or.inl (ends_of_stepFrom called step)
      · obtain ⟨marks, handles, dialers⟩ := depot.untouched_undo task found.phase
        refine Or.inr ⟨stage_modify begun ?_, ⟨marks, handles, dialers⟩⟩
        rw [tasks_enter, tasks_undo]

theorem reckons_of_ends (called : (depot.stage task).call? = some call)
    (ends : Ends depot task call next) (here : depot.counter? dialer = some counter) :
    ∃ counter', next.counter? dialer = some counter' ∧
      Reckons dialer ⟨some task, depot, next⟩ counter counter' := by
  obtain ⟨outcome, tasks, yields, rest⟩ := ends
  have there := stage_modify (begun_of_call? called) tasks
  have ending : Turn.ending? dialer ⟨some task, depot, next⟩ =
      if call.dialer = dialer then some (Phase.finished outcome).got? else none := by
    simp [Turn.ending?, called, there]
  by_cases mine : call.dialer = dialer
  · subst mine
    rw [if_pos rfl] at ending
    rcases endDial_counted here with ⟨pending, answer, now⟩ | ⟨clear, answer, now, grown⟩
    · refine ⟨_, (counter?_of_dialers rest.dialers).trans now, .refused ?_ pending⟩
      cases got : (Phase.finished outcome).got? with
      | none => rw [ending, got]
      | some handle =>
          have connected := (yields handle).mp got
          rw [answer] at connected
          cases connected
    · have got := (yields depot.handles.length).mpr answer
      refine ⟨_, (counter?_of_dialers rest.dialers).trans now, .connected (ending.trans
        (congrArg some got)) clear ?_⟩
      show next.labels[depot.handles.length]? = _
      rw [labels, rest.handles, ← labels, grown]
      simp [labels]
  · rw [if_neg mine] at ending
    refine ⟨counter, ?_, .silent ending⟩
    rw [counter?_of_dialers rest.dialers, counter?_endDial_apart mine, here]

theorem reckons_of_task (move : Move view depot (some task) next)
    (here : depot.counter? dialer = some counter) :
    ∃ counter', next.counter? dialer = some counter' ∧
      Reckons dialer ⟨some task, depot, next⟩ counter counter' := by
  cases called : (depot.stage task).call? with
  | none =>
      obtain ⟨request, phase, phase', site, pool, held, effect, pools, tasks, -⟩ :=
        shift_of_move move
      rw [stage_before tasks] at called
      refine ⟨counter, counter?_of_deed (deed_of_move move tasks) called here, .silent ?_⟩
      simp [Turn.ending?, stage_before tasks, called]
  | some call =>
      rcases ends_or_drops move called with ends | ⟨dropped, rest⟩
      · exact reckons_of_ends called ends here
      · refine ⟨counter, (counter?_of_dialers rest.dialers).trans here, .silent ?_⟩
        simp [Turn.ending?, dropped]

theorem counter?_outside {action : Action} (isOutside : action.isOutside = true)
    (here : depot.counter? dialer = some counter) :
    (depot.act action).counter? dialer = some (action.adjust dialer counter) := by
  have same (dialers : (depot.act action).dialers = depot.dialers) :
      (depot.act action).counter? dialer = some counter := by
    rw [counter?_of_dialers dialers, here]
  cases action with
  | makeDialer name conduct =>
      obtain ⟨old, there⟩ := counter?_eq_some_iff.mp here
      apply counter?_eq_some_iff.mpr
      refine ⟨old, ?_⟩
      show (depot.dialers ++ [_])[dialer]? = _
      rw [List.getElem?_append_left (List.getElem?_eq_some_iff.mp there).1, there]
      rfl
  | changeScript id plans =>
      have kept := counter?_changeDialer id (Dialer.extend plans) (fun counter => counter)
        (fun _ _ => rfl) here
      rwa [ite_self] at kept
  | failNext id count =>
      exact counter?_changeDialer id (Dialer.failNext count)
        (fun counter => { counter with failures := count }) (fun _ _ => rfl) here
  | setDelay id delay =>
      exact counter?_changeDialer id (Dialer.setDelay delay)
        (fun counter => { counter with delay := some delay }) (fun _ _ => rfl) here
  | makePool id dialer parameter limits =>
      exact same (depot.untouched_addPool? id dialer parameter limits).dialers
  | register directory key dialer parameter limits =>
      exact same (depot.untouched_register directory key dialer parameter limits).dialers
  | runMonitors => exact same depot.runMonitors_same.2.2.2
  | checkout | giveBack | discard | closeHeld | dial | shut | shutAll | poll | drop =>
      cases isOutside
  | _ => exact same rfl

theorem reckons_of_move (move : Move view depot actor next)
    (here : depot.counter? dialer = some counter) :
    ∃ counter', next.counter? dialer = some counter' ∧
      Reckons dialer ⟨actor, depot, next⟩ counter counter' := by
  cases actor with
  | some task => exact reckons_of_task move here
  | none =>
      cases move with
      | outside resting tasks held pools acts =>
          obtain ⟨action, isOutside, rfl⟩ := acts
          exact ⟨_, counter?_outside isOutside here, .told rfl rfl⟩

end Moving

section Tallying

theorem Tallies.labels_last (tallies : Tallies dialer ended depot counter)
    (grown : depot.labels <+: next.labels) : counter.handles.map (next.labels[·]?) =
      (List.range counter.handles.length).map fun serial => some (dialer, serial) := by
  rw [← tallies.labels]
  apply List.map_congr_left
  intro handle member
  have known : depot.labels[handle]? ∈ counter.handles.map (depot.labels[·]?) :=
    List.mem_map_of_mem member
  rw [tallies.labels] at known
  obtain ⟨serial, -, same⟩ := List.mem_map.mp known
  have inside := (List.getElem?_eq_some_iff.mp same.symm).1
  obtain ⟨more, split⟩ := grown
  rw [← split, List.getElem?_append_left inside]

theorem Tallies.still (tallies : Tallies dialer ended depot counter)
    (grown : depot.labels <+: next.labels) (there : next.counter? dialer = some counter')
    (handles : counter'.handles = counter.handles) (created : counter'.created = counter.created)
    (serial : counter'.nextSerial = counter.nextSerial) {ended' : List (Option HandleId)}
    (ends : ended'.reduceOption = ended.reduceOption) : Tallies dialer ended' next counter' := by
  refine ⟨there, ?_, ?_, ?_, ?_⟩
  · rw [handles, tallies.handles, ends]
  · rw [created, handles, tallies.created]
  · rw [serial, handles, tallies.next]
  · rw [handles]
    exact tallies.labels_last grown

theorem adjust_fields (action : Action) (dialer : DialerId) (counter : Counter) :
    (action.adjust dialer counter).handles = counter.handles ∧
      (action.adjust dialer counter).created = counter.created ∧
      (action.adjust dialer counter).nextSerial = counter.nextSerial := by
  unfold Action.adjust
  split
  · split <;> exact ⟨rfl, rfl, rfl⟩
  · split <;> exact ⟨rfl, rfl, rfl⟩
  · exact ⟨rfl, rfl, rfl⟩

theorem Tallies.keeps (move : Move view depot actor next)
    (tallies : Tallies dialer ended depot counter) : ∃ counter',
      Tallies dialer (ended ++ (Turn.ending? dialer ⟨actor, depot, next⟩).toList) next counter' := by
  obtain ⟨counter', there, reckons⟩ := reckons_of_move move tallies.here
  have grown := labels_of_move move
  refine ⟨counter', ?_⟩
  cases reckons with
  | silent nothing =>
      rw [nothing, Option.toList_none, List.append_nil]
      exact tallies.still grown there rfl rfl rfl rfl
  | told nobody =>
      rename_i action acts
      obtain ⟨handles, created, serial⟩ := adjust_fields action dialer counter
      rw [Turn.ending?_of_nobody nobody, Option.toList_none, List.append_nil]
      exact tallies.still grown there handles created serial rfl
  | refused ends pending =>
      rw [ends]
      exact tallies.still grown there rfl rfl rfl (by simp [List.reduceOption_append])
  | connected ends clear label =>
      rename_i handle
      rw [ends]
      refine ⟨there, ?_, ?_, ?_, ?_⟩
      · rw [Option.toList_some, List.reduceOption_append, ← tallies.handles]
        rfl
      · simp [Counter.enroll, tallies.created]
      · simp [Counter.enroll, tallies.next]
      · have old := tallies.labels_last grown
        simp only [Counter.enroll, List.map_append, List.length_append, List.length_singleton,
          List.range_succ, List.map_singleton, old, ← tallies.next]
        rw [label]

theorem endings_cons (turn : Turn) (turns : List Turn) :
    endings dialer (turn :: turns) = (turn.ending? dialer).toList ++ endings dialer turns := by
  rw [endings, List.filterMap_cons]
  cases turn.ending? dialer <;> rfl

theorem Chain.tallies (chain : Chain view depot turns last)
    (tallies : Tallies dialer ended depot counter) :
    ∃ counter', Tallies dialer (ended ++ endings dialer turns) last counter' := by
  induction chain generalizing ended counter with
  | nil =>
      refine ⟨counter, ?_⟩
      rw [endings, List.filterMap_nil, List.append_nil]
      exact tallies
  | cons move _ ih =>
      obtain ⟨counter', kept⟩ := tallies.keeps move
      rw [endings_cons, ← List.append_assoc]
      exact ih kept

end Tallying

section Failing

def Untold (dialer : DialerId) (turn : Turn) : Prop :=
  turn.actor = none → ∀ counter counter', turn.before.counter? dialer = some counter →
    turn.after.counter? dialer = some counter' → counter'.failures = counter.failures

theorem untold_of_quiet {actions : List Action} {turn : Turn}
    (quiet : ∀ count, .failNext dialer count ∉ actions) (member : turn ∈ depot.turns actions) :
    Untold dialer turn := by
  intro nobody counter counter' here there
  obtain ⟨action, among, isOutside, acts⟩ := action_of_nobody member nobody
  rw [acts, counter?_outside isOutside here] at there
  cases there
  unfold Action.adjust
  split
  · rename_i other count
    split
    · rename_i same
      exact absurd (same ▸ among) (quiet count)
    · rfl
  · split <;> rfl
  · rfl

theorem failsFirst_cons_none {count : Nat} (pending : 0 < count)
    (fails : FailsFirst (count - 1) ended) : FailsFirst count (none :: ended) := by
  obtain ⟨count, rfl⟩ := Nat.exists_eq_add_one.mpr pending
  rw [Nat.add_sub_cancel, FailsFirst] at fails
  rw [FailsFirst, List.map_cons, fails, List.length_cons, Nat.add_min_add_right,
    Nat.add_sub_add_right, List.replicate_succ]
  rfl

theorem failsFirst_cons_some (handle : HandleId) (fails : FailsFirst 0 ended) :
    FailsFirst 0 (some handle :: ended) := by
  rw [FailsFirst, Nat.zero_min, Nat.sub_zero] at fails
  rw [FailsFirst, List.map_cons, fails, List.length_cons, Nat.zero_min, Nat.sub_zero,
    List.replicate_succ]
  rfl

theorem Chain.failsFirst (chain : Chain view depot turns last)
    (here : depot.counter? dialer = some counter) (untold : ∀ turn ∈ turns, Untold dialer turn) :
    FailsFirst counter.failures (endings dialer turns) := by
  induction chain generalizing counter with
  | nil => simp [FailsFirst, endings]
  | cons move _ ih =>
      obtain ⟨counter', there, reckons⟩ := reckons_of_move move here
      have rest := ih there fun turn later => untold turn (List.mem_cons_of_mem _ later)
      rw [endings_cons]
      cases reckons with
      | silent nothing =>
          rw [nothing]
          exact rest
      | told nobody =>
          have same := untold _ List.mem_cons_self nobody _ _ here there
          rw [Turn.ending?_of_nobody nobody, ← same]
          exact rest
      | refused ends pending =>
          rw [ends]
          exact failsFirst_cons_none pending rest
      | connected ends clear =>
          rw [ends, clear]
          rw [Counter.enroll, clear] at rest
          exact failsFirst_cons_some _ rest

end Failing

theorem dialers_of_abandons {turn : Turn} (move : Move view turn.before turn.actor turn.after)
    (abandons : turn.abandons = true) : turn.after.dialers = turn.before.dialers := by
  obtain ⟨actor, depot, next⟩ := turn
  obtain ⟨task, rfl, dropped⟩ := (Option.any_eq_true _ _).mp abandons
  rw [Bool.and_eq_true, decide_eq_true_eq] at dropped
  obtain ⟨call, called⟩ := Option.isSome_iff_exists.mp dropped.1
  rcases ends_or_drops move called with ⟨outcome, tasks, -, -⟩ | ⟨-, rest⟩
  · have finished := (stage_modify (begun_of_call? called) tasks).symm.trans dropped.2
    cases finished
  · exact rest.dialers

/-- Every counted dialer that is made in the course of a run counts its dials as they end. -/
theorem dials_counted_as_they_end (earlier : List Action) (name : String) :
    CountsEnds (({} : Depot).run earlier).dialers.length
      (({} : Depot).run (earlier ++ [.makeDialer name (.counted {})])) := by
  obtain ⟨-, resting, -⟩ := exists_chain_of_resting resting_empty
    (earlier ++ [.makeDialer name (.counted {})])
  rw [run_append] at resting ⊢
  generalize ({} : Depot).run earlier = before at resting ⊢
  have start : Tallies before.dialers.length [] (before.run [.makeDialer name (.counted {})]) {} :=
    ⟨counter?_eq_some_iff.mpr ⟨name, List.getElem?_concat_length⟩, rfl, rfl, rfl, rfl⟩
  generalize before.run [.makeDialer name (.counted {})] = made at resting start ⊢
  constructor
  · intro actions first begins
    obtain ⟨view, -, chain⟩ := exists_chain_of_resting resting actions
    obtain ⟨rest, split⟩ := begins
    rw [← split] at chain
    exact chain.front.tallies start
  · intro actions quiet
    obtain ⟨view, -, chain⟩ := exists_chain_of_resting resting actions
    exact chain.failsFirst start.here fun turn member => untold_of_quiet quiet member
  · intro past count since quiet
    obtain ⟨view, rests, chain⟩ := exists_chain_of_resting resting past
    obtain ⟨counter, tallies⟩ := chain.tallies start
    obtain ⟨-, told, -⟩ := exists_chain_of_resting rests [.failNext before.dialers.length count]
    obtain ⟨view', -, later⟩ := exists_chain_of_resting told since
    have here : ((made.run past).act (.failNext before.dialers.length count)).counter?
        before.dialers.length = some { counter with failures := count } :=
      (counter?_outside rfl tallies.here).trans (congrArg some (if_pos rfl))
    rw [run_append]
    exact later.failsFirst here fun turn member => untold_of_quiet quiet member
  · intro actions turn member abandons
    obtain ⟨view, -, chain⟩ := exists_chain_of_resting resting actions
    exact dialers_of_abandons (chain.move_of_mem member) abandons

def underWay : List Action :=
  [.setDelay 1 2000, .dial 1 "", .setDelay 1 1000, .dial 1 "", .dial 1 "", .dial 1 ""]

def overtaking : List Action :=
  [.drop 1, .elapse 1000, .poll 3, .poll 2, .elapse 1000, .poll 0]

def twoDialers : Depot :=
  ({} : Depot).run [.makeDialer "idle" (.counted {}), .makeDialer "busy" (.counted {})]

theorem dials_counted_as_they_end_overtaking :
    endings 1 ((twoDialers.run (underWay ++ [.failNext 1 1])).turns overtaking) =
        [none, some 0, some 1] ∧
      FailsFirst 1 (endings 1 ((twoDialers.run (underWay ++ [.failNext 1 1])).turns overtaking)) ∧
      FailsFirst 0 (endings 1 (twoDialers.turns underWay)) ∧
      (∃ counter, Tallies 1 (endings 1 (twoDialers.turns (underWay ++ .failNext 1 1 :: overtaking)))
        (twoDialers.reached (twoDialers.turns (underWay ++ .failNext 1 1 :: overtaking))) counter) ∧
      ∃ turn ∈ twoDialers.turns (underWay ++ .failNext 1 1 :: overtaking),
        turn.abandons = true ∧ turn.after.dialers = turn.before.dialers := by
  obtain ⟨tallies, unbidden, bidden, abandoned⟩ :=
    dials_counted_as_they_end [.makeDialer "idle" (.counted {})] "busy"
  refine ⟨by decide, bidden underWay 1 overtaking (by simp [overtaking]),
    unbidden underWay (by simp [underWay]), tallies _ _ (List.prefix_refl _), ?_⟩
  obtain ⟨turn, member, abandons⟩ : ∃ turn ∈ twoDialers.turns
      (underWay ++ .failNext 1 1 :: overtaking), turn.abandons = true := by decide
  exact ⟨turn, member, abandons, abandoned _ turn member abandons⟩

end Depot

end HandlePool
