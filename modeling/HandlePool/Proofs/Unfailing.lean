import HandlePool.Proofs.Backdrop
import HandlePool.Proofs.Ownership

/-!
Depots that differ only in how closes of handles end: what they have in common, and that whatever
changes a depot keeps it in common.
-/
namespace HandlePool

def Fitting.unfailing (fitting : Fitting) : Fitting := { fitting with closeFailure := none }

def DialEnd.unfailing : DialEnd → DialEnd
  | .connect fitting => .connect fitting.unfailing
  | ending => ending

def DialPlan.unfailing (plan : DialPlan) : DialPlan := { plan with ending := plan.ending.unfailing }

def Conduct.unfailing : Conduct → Conduct
  | .counted counter => .counted counter
  | .scripted script => .scripted { script with plans := script.plans.map DialPlan.unfailing }

def Dialer.unfailing (dialer : Dialer) : Dialer :=
  { dialer with conduct := dialer.conduct.unfailing }

def Call.unfailing (call : Call) : Call :=
  { call with ending := call.ending.map DialEnd.unfailing }

/-- Two actions are the same but for how handles close that they plan for. -/
inductive Action.Alike : Action → Action → Prop where
  | same (action) : Alike action action
  | makeDialer (name) {first second} (same : first.unfailing = second.unfailing) :
      Alike (.makeDialer name first) (.makeDialer name second)
  | changeScript (dialer) {first second}
      (same : first.map DialPlan.unfailing = second.map DialPlan.unfailing) :
      Alike (.changeScript dialer first) (.changeScript dialer second)

def Handle.outline (handle : Handle) : Handle :=
  { handle with closed := false, closeFailure := none }

/-- Two handles are the same but for how their close ends. It shows only once they are closed. -/
structure Handle.Alike (one two : Handle) : Prop where
  outline : one.outline = two.outline
  closed : one.closeCalls = 0 ∨ one.closeFailure.isSome = two.closeFailure.isSome →
    one.closed = two.closed

def Outcome.ofClose : Option String → Outcome
  | none => .completed
  | some reason => .failed reason

inductive Phase.Alike (one two : List Handle) (request : Request) : Phase → Phase → Prop where
  | same {phase}
      (alone : ∀ handle due, phase = .closingAlone handle due → request = .closeHandle handle) :
      Alike one two request phase phase
  | dialing {pool slot first second} (same : first.unfailing = second.unfailing) :
      Alike one two request (.dialing pool slot first) (.dialing pool slot second)
  | calling {first second} (same : first.unfailing = second.unfailing) :
      Alike one two request (.calling first) (.calling second)
  | closed {handle first second} (asked : request = .closeHandle handle)
      (here : one[handle]? = some first) (there : two[handle]? = some second) :
      Alike one two request (.finished (.ofClose first.closeFailure))
        (.finished (.ofClose second.closeFailure))

structure Task.Alike (one two : List Handle) (first second : Task) : Prop where
  request : first.request = second.request
  phase : Phase.Alike one two first.request first.phase second.phase

def Event.isQuiet : Event → Bool
  | .closed _ _ => false
  | event => event.warning?.isNone

inductive Beat where
  | event (event : Event)
  | poolClose (pool : PoolId) (handle : HandleId)
  | callerClose (task : TaskId) (handle : HandleId)

/-- The close of a handle by a pool is noted once more if it fails. The close by a caller is the
caller's to know. -/
def Beat.events (failure : HandleId → Option String) : Beat → List Event
  | .event plain => [plain]
  | .poolClose pool handle =>
      .closed handle (failure handle) ::
        (failure handle).toList.map fun reason => .noted (.closeFailed pool reason)
  | .callerClose task handle =>
      [.closed handle (failure handle), .done task (.ofClose (failure handle))]

namespace Depot

def failure (depot : Depot) (handle : HandleId) : Option String :=
  (depot.handle handle).closeFailure

def request? (depot : Depot) (task : TaskId) : Option Request :=
  depot.tasks[task]?.map (·.request)

end Depot

def Beat.Fits (depot : Depot) : Beat → Prop
  | .event plain => plain.isQuiet = true
  | .poolClose _ handle => handle < depot.handles.length
  | .callerClose task handle =>
      handle < depot.handles.length ∧ depot.request? task = some (.closeHandle handle)

namespace Handle

variable {one two : Handle}

theorem Alike.closeOnce (alike : one.Alike two) : one.closeOnce.Alike two.closeOnce := by
  refine ⟨congrArg (fun handle => { handle with closeCalls := handle.closeCalls + 1 })
    alike.outline, fun seen => ?_⟩
  -- The flag is compared after a close only if both fail or neither does.
  have ends : one.closeFailure.isSome = two.closeFailure.isSome :=
    seen.resolve_left (Nat.succ_ne_zero _)
  have opens : one.closeFailure.isNone = two.closeFailure.isNone := by
    rw [← Option.not_isSome, ends, Option.not_isSome]
  simp only [Handle.closeOnce, alike.closed (Or.inr ends), opens]

theorem Alike.marked (alike : one.Alike two) (mark : Mark) :
    (one.marked mark).Alike (two.marked mark) := by
  refine ⟨congrArg (fun handle => (handle.marked mark).outline) alike.outline, fun seen => ?_⟩
  simp only [Handle.marked, alike.closed seen]

theorem Alike.monitor (alike : one.Alike two) : one.monitor = two.monitor := by
  have same := congrArg Handle.monitor alike.outline
  exact same

theorem Alike.closeDelay (alike : one.Alike two) : one.closeDelay = two.closeDelay := by
  have same := congrArg Handle.closeDelay alike.outline
  exact same

theorem Alike.usable (alike : one.Alike two) (closed : one.closed = two.closed) :
    one.usable = two.usable := by
  have reusable : one.isReusable = two.isReusable := by
    have same := congrArg Handle.isReusable alike.outline
    exact same
  rw [Handle.usable, reusable, closed, Handle.usable]

theorem monitored_eq (handle : Handle) :
    handle.monitored =
      { handle with
        closed := handle.closed || handle.monitor == some .close
        reusable := handle.reusable && handle.monitor != some .spoil } := by
  obtain ⟨_, _, _, _, _, _, _, _, monitor⟩ := handle
  rcases monitor with _ | _ | _ | _ <;> simp [Handle.monitored]

theorem Alike.monitored (alike : one.Alike two) : one.monitored.Alike two.monitored := by
  rw [monitored_eq, monitored_eq]
  refine ⟨congrArg (fun handle => { handle with
    reusable := handle.reusable && handle.monitor != some Monitor.spoil }) alike.outline,
    fun seen => ?_⟩
  simp only [alike.closed seen, alike.monitor]

theorem alike_ofFitting (dialer : DialerId) (serial : Nat) {first second : Fitting}
    (same : first.unfailing = second.unfailing) :
    (ofFitting dialer serial first).Alike (ofFitting dialer serial second) := by
  have outline := congrArg (fun fitting => (ofFitting dialer serial fitting).outline) same
  have closed := congrArg Fitting.closed same
  exact ⟨outline, fun _ => closed⟩

end Handle

namespace Dialer

variable (dialer : Dialer)

theorem unfailing_changeCounter (change : Counter → Counter) :
    (dialer.changeCounter change).unfailing = dialer.unfailing.changeCounter change := by
  obtain ⟨name, _ | _⟩ := dialer <;> rfl

theorem unfailing_extend (plans : List DialPlan) :
    (dialer.extend plans).unfailing = dialer.unfailing.extend (plans.map DialPlan.unfailing) := by
  obtain ⟨name, counter | script⟩ := dialer
  · rfl
  · simp [extend, changeScript, unfailing, Conduct.unfailing]

theorem unfailing_advance : dialer.advance.unfailing = dialer.unfailing.advance := by
  obtain ⟨name, counter | script⟩ := dialer
  · rfl
  · simp [advance, changeScript, unfailing, Conduct.unfailing]

theorem unfailing_enroll (handle : HandleId) :
    (dialer.enroll handle).unfailing = dialer.unfailing.enroll handle := by
  obtain ⟨name, _ | _⟩ := dialer <;> rfl

theorem serial_unfailing : dialer.unfailing.serial = dialer.serial := by
  obtain ⟨name, _ | _⟩ := dialer <;> rfl

theorem shownParameter_unfailing (parameter : String) :
    dialer.unfailing.shownParameter parameter = dialer.shownParameter parameter := by
  obtain ⟨name, _ | _⟩ := dialer <;> rfl

theorem next_unfailing :
    dialer.unfailing.next = (dialer.next.1, dialer.next.2.map DialEnd.unfailing) := by
  obtain ⟨name, counter | ⟨plans, made⟩⟩ := dialer
  · rfl
  · cases plans <;> rfl

theorem conclude_unfailing (ending : Option DialEnd) :
    dialer.unfailing.conclude (ending.map DialEnd.unfailing) =
      ((dialer.conclude ending).1.unfailing, (dialer.conclude ending).2.unfailing) := by
  obtain ⟨name, counter | script⟩ := dialer
  · simp only [unfailing, Conduct.unfailing, conclude, Counter.conclude]
    split <;> rfl
  · cases ending <;> rfl

end Dialer

def Lasting (handles later : List Handle) : Prop :=
  ∀ (handle : HandleId) (found : Handle), handles[handle]? = some found →
    ∃ found' : Handle, later[handle]? = some found' ∧ found'.closeFailure = found.closeFailure

theorem lasting_refl (handles : List Handle) : Lasting handles handles :=
  fun _ found here => ⟨found, here, rfl⟩

theorem lasting_append (handles added : List Handle) : Lasting handles (handles ++ added) := by
  intro handle found here
  have inside := (List.getElem?_eq_some_iff.mp here).1
  exact ⟨found, by rw [List.getElem?_append_left inside, here], rfl⟩

theorem lasting_modify (handles : List Handle) (id : HandleId) {change : Handle → Handle}
    (keeps : ∀ handle : Handle, (change handle).closeFailure = handle.closeFailure) :
    Lasting handles (handles.modify id change) := by
  intro handle found here
  rw [List.getElem?_modify, here]
  by_cases same : id = handle
  · exact ⟨change found, by simp [same], keeps found⟩
  · exact ⟨found, by simp [same], rfl⟩

theorem Task.Alike.lasts {handles handles' later later' : List Handle} {first second : Task}
    (alike : Task.Alike handles handles' first second) (lasting : Lasting handles later)
    (lasting' : Lasting handles' later') : Task.Alike later later' first second := by
  obtain ⟨request, phase⟩ := first
  obtain ⟨request', phase'⟩ := second
  obtain ⟨requests, phases⟩ := alike
  refine ⟨requests, ?_⟩
  dsimp only at phases ⊢
  cases phases with
  | same alone => exact .same alone
  | dialing same => exact .dialing same
  | calling same => exact .calling same
  | closed asked here there =>
      obtain ⟨found, here, ends⟩ := lasting _ _ here
      obtain ⟨found', there, ends'⟩ := lasting' _ _ there
      rw [← ends, ← ends']
      exact .closed asked here there

namespace Depot

def Echo (one two : Depot) : Prop :=
  ∃ beats : List Beat, (∀ beat ∈ beats, beat.Fits one) ∧
    one.trace = beats.flatMap (Beat.events one.failure) ∧
    two.trace = beats.flatMap (Beat.events two.failure)

def tell (depot : Depot) (beat : Beat) : Depot :=
  { depot with trace := depot.trace ++ beat.events depot.failure }

structure Alike (one two : Depot) : Prop where
  now : one.now = two.now
  signals : one.signals = two.signals
  pools : one.pools = two.pools
  directories : one.directories = two.directories
  held : one.held = two.held
  monitors : one.monitors = two.monitors
  dialers : List.Forall₂ (·.unfailing = ·.unfailing) one.dialers two.dialers
  handles : List.Forall₂ Handle.Alike one.handles two.handles
  tasks : List.Forall₂ (Task.Alike one.handles two.handles) one.tasks two.tasks
  trace : Echo one two

section Lists

variable {Item : Type} {R : Item → Item → Prop} {one two : List Item}

theorem rel_getElem? (related : List.Forall₂ R one two) (place : Nat) :
    Option.Rel R one[place]? two[place]? := by
  induction related generalizing place with
  | nil => exact .none
  | cons first rest ih =>
      cases place with
      | zero => exact .some first
      | succ place => exact ih place

theorem rel_getD (related : List.Forall₂ R one two) {spare : Item} (spared : R spare spare)
    (place : Nat) : R (one.getD place spare) (two.getD place spare) := by
  have found := rel_getElem? related place
  rw [List.getD_eq_getElem?_getD, List.getD_eq_getElem?_getD]
  generalize one[place]? = first, two[place]? = second at found
  cases found with
  | none => exact spared
  | some related => exact related

theorem rel_modify (related : List.Forall₂ R one two) (place : Nat) {first second : Item → Item}
    (changes : ∀ a b, one[place]? = some a → R a b → R (first a) (second b)) :
    List.Forall₂ R (one.modify place first) (two.modify place second) := by
  induction related generalizing place with
  | nil => cases place <;> exact .nil
  | cons here rest ih =>
      cases place with
      | zero => exact .cons (changes _ _ rfl here) rest
      | succ place => exact .cons here (ih place changes)

theorem set_getD (items : List Item) (spare : Item) (place : Nat) (change : Item → Item) :
    items.set place (change (items.getD place spare)) = items.modify place change := by
  rw [List.modify_eq_set_getElem?, List.getD_eq_getElem?_getD]
  by_cases inside : place < items.length
  · simp [inside]
  · simp [List.set_eq_of_length_le (Nat.le_of_not_lt inside), Nat.le_of_not_lt inside]

end Lists

variable {one two : Depot}

theorem handles_changeHandle (depot : Depot) (id : HandleId) (change : Handle → Handle) :
    (depot.changeHandle id change).handles = depot.handles.modify id change :=
  set_getD depot.handles default id change

theorem dialers_changeDialer (depot : Depot) (id : DialerId) (change : Dialer → Dialer) :
    (depot.changeDialer id change).dialers = depot.dialers.modify id change :=
  set_getD depot.dialers default id change

theorem getElem?_handle {depot : Depot} {handle : HandleId}
    (inside : handle < depot.handles.length) :
    depot.handles[handle]? = some (depot.handle handle) := by
  rw [Depot.handle, List.getD_eq_getElem?_getD, List.getElem?_eq_getElem inside, Option.getD_some]

theorem failure_of_lasting {depot next : Depot} (lasting : Lasting depot.handles next.handles)
    {handle : HandleId} (inside : handle < depot.handles.length) :
    handle < next.handles.length ∧ depot.failure handle = next.failure handle := by
  obtain ⟨found, there, same⟩ := lasting handle _ (getElem?_handle inside)
  have within := (List.getElem?_eq_some_iff.mp there).1
  rw [getElem?_handle within, Option.some.injEq] at there
  exact ⟨within, by rw [Depot.failure, Depot.failure, there, same]⟩

structure Steady (depot next : Depot) : Prop where
  handles : Lasting depot.handles next.handles
  requests : ∀ task request, depot.request? task = some request →
    next.request? task = some request

theorem Beat.Fits.keeps {beat : Beat} {depot next : Depot} (steady : Steady depot next)
    (fits : beat.Fits depot) : beat.Fits next := by
  cases beat with
  | event plain => exact fits
  | poolClose pool handle => exact (failure_of_lasting steady.handles fits).1
  | callerClose task handle =>
      exact ⟨(failure_of_lasting steady.handles fits.1).1, steady.requests _ _ fits.2⟩

theorem events_lasting {beat : Beat} {one two next : Depot} (fits : beat.Fits one)
    (length : one.handles.length = two.handles.length)
    (lasting : Lasting two.handles next.handles) :
    beat.events two.failure = beat.events next.failure := by
  cases beat with
  | event plain => rfl
  | poolClose pool handle =>
      rw [Beat.events, (failure_of_lasting lasting (length ▸ fits)).2, Beat.events]
  | callerClose task handle =>
      rw [Beat.events, (failure_of_lasting lasting (length ▸ fits.1)).2, Beat.events]

theorem Alike.grows {one' two' : Depot} (alike : Alike one two) (steady : Steady one one')
    (lasting : Lasting two.handles two'.handles) (later : List Beat)
    (fits : ∀ beat ∈ later, beat.Fits one')
    (grown : one'.trace = one.trace ++ later.flatMap (Beat.events one'.failure))
    (grown' : two'.trace = two.trace ++ later.flatMap (Beat.events two'.failure)) :
    Echo one' two' := by
  obtain ⟨beats, all, trace, trace'⟩ := alike.trace
  refine ⟨beats ++ later, ?_, ?_, ?_⟩
  · intro beat member
    rcases List.mem_append.mp member with early | late
    · exact Beat.Fits.keeps steady (all beat early)
    · exact fits beat late
  · rw [grown, trace, List.flatMap_append]
    congr 1
    exact List.flatMap_congr fun beat member => events_lasting (all beat member) rfl steady.handles
  · rw [grown', trace', List.flatMap_append]
    congr 1
    exact List.flatMap_congr fun beat member =>
      events_lasting (all beat member) alike.handles.length_eq lasting

theorem Alike.stays {one' two' : Depot} (alike : Alike one two) (steady : Steady one one')
    (lasting : Lasting two.handles two'.handles) (still : one'.trace = one.trace)
    (still' : two'.trace = two.trace) : Echo one' two' :=
  alike.grows steady lasting [] (by simp) (still.trans (List.append_nil _).symm)
    (still'.trans (List.append_nil _).symm)

section Views

variable {View : Type} (view : Handle → View)

theorem views_changeHandle (depot : Depot) (id : HandleId) {change : Handle → Handle}
    (keeps : ∀ handle, view (change handle) = view handle) :
    (depot.changeHandle id change).handles.map view = depot.handles.map view := by
  apply List.ext_getElem?
  intro other
  simp only [handles_changeHandle, List.getElem?_map, List.getElem?_modify]
  cases depot.handles[other]? with
  | none => rfl
  | some found =>
      by_cases same : id = other
      · simp [same, keeps]
      · simp [same]

theorem view_of_views {depot next : Depot} (same : next.handles.map view = depot.handles.map view)
    (handle : HandleId) : view (next.handle handle) = view (depot.handle handle) := by
  have shown (depot : Depot) :
      view (depot.handle handle) = (depot.handles.map view)[handle]?.getD (view default) := by
    rw [Depot.handle, List.getD_eq_getElem?_getD, List.getElem?_map, Option.getD_map]
  rw [shown, shown, same]

theorem views_outside {depot : Depot} {action : Action} (isOutside : action.isOutside = true)
    (marked : ∀ handle mark, view (handle.marked mark) = view handle)
    (monitored : ∀ handle, view handle.monitored = view handle) :
    (depot.act action).handles.map view = depot.handles.map view := by
  cases action with
  | mark id mark => exact views_changeHandle view depot id fun handle => marked handle mark
  | makePool id dialer parameter limits =>
      exact congrArg _ (depot.untouched_addPool? id dialer parameter limits).handles
  | register directory key dialer parameter limits =>
      exact congrArg _ (depot.untouched_register directory key dialer parameter limits).handles
  | runMonitors =>
      have each (handles : List HandleId) (start : Depot) :
          (handles.foldl runMonitor start).handles.map view = start.handles.map view := by
        induction handles generalizing start with
        | nil => rfl
        | cons first rest ih =>
            exact (ih (start.runMonitor first)).trans
              (views_changeHandle view start first monitored)
      exact each depot.monitors { depot with monitors := [] }
  | checkout | giveBack | discard | closeHeld | dial | shut | shutAll | poll | drop =>
      cases isOutside
  | _ => rfl

end Views

theorem failure_changeHandle (depot : Depot) (id : HandleId) {change : Handle → Handle}
    (keeps : ∀ handle : Handle, (change handle).closeFailure = handle.closeFailure) :
    (depot.changeHandle id change).failure = depot.failure :=
  funext (view_of_views _ (views_changeHandle Handle.closeFailure depot id keeps))

theorem request?_enter (depot : Depot) (task : TaskId) (phase : Phase) :
    (depot.enter task phase).request? = depot.request? := by
  funext other
  simp only [request?, tasks_enter, List.getElem?_modify]
  cases depot.tasks[other]? with
  | none => rfl
  | some found => by_cases same : task = other <;> simp [same]

theorem steady_enter (depot : Depot) (task : TaskId) (phase : Phase) :
    Steady depot (depot.enter task phase) :=
  ⟨lasting_refl _, fun _ _ asked => by rwa [request?_enter]⟩

theorem lasting_changeHandle (depot : Depot) (id : HandleId) {change : Handle → Handle}
    (keeps : ∀ handle : Handle, (change handle).closeFailure = handle.closeFailure) :
    Lasting depot.handles (depot.changeHandle id change).handles := by
  rw [handles_changeHandle]
  exact lasting_modify depot.handles id keeps

theorem failure_closeOnce (depot : Depot) (handle : HandleId) :
    (depot.changeHandle handle Handle.closeOnce).failure = depot.failure :=
  failure_changeHandle depot handle fun _ => rfl

theorem endPoolClose_eq (depot : Depot) (pool : PoolId) (handle : HandleId) :
    depot.endPoolClose pool handle =
      (depot.changeHandle handle Handle.closeOnce).tell (.poolClose pool handle) := by
  rw [tell, failure_closeOnce]
  simp only [endPoolClose, Beat.events, failure]
  cases ends : (depot.handle handle).closeFailure with
  | none => simp [endClose, record, ends]
  | some reason => simp [endClose, note, record, ends, changeHandle, setHandle]

theorem endCloseAlone_eq (depot : Depot) (task : TaskId) (handle : HandleId) :
    depot.endCloseAlone task handle =
      ((depot.changeHandle handle Handle.closeOnce).enter task
        (.finished (.ofClose (depot.failure handle)))).tell (.callerClose task handle) := by
  have kept (phase : Phase) :
      ((depot.changeHandle handle Handle.closeOnce).enter task phase).failure = depot.failure :=
    failure_closeOnce depot handle
  rw [tell, kept]
  simp only [endCloseAlone, Beat.events, failure]
  cases ends : (depot.handle handle).closeFailure with
  | none => simp [finish, endClose, record, enter, ends, Outcome.ofClose, Holding.ofOutcome?]
  | some reason =>
      simp [finish, endClose, record, enter, ends, Outcome.ofClose, Holding.ofOutcome?]

section Same

variable (alike : Alike one two)

include alike

theorem Alike.pool (id : PoolId) : one.pool id = two.pool id := by
  rw [Depot.pool, alike.pools, Depot.pool]

theorem Alike.directory (id : DirectoryId) : one.directory id = two.directory id := by
  rw [Depot.directory, alike.directories, Depot.directory]

theorem Alike.dialer (id : DialerId) : (one.dialer id).unfailing = (two.dialer id).unfailing :=
  rel_getD alike.dialers rfl id

theorem Alike.handle (id : HandleId) : (one.handle id).Alike (two.handle id) :=
  rel_getD alike.handles ⟨rfl, fun _ => rfl⟩ id

theorem Alike.timer (delay : Option Nat) : one.timer delay = two.timer delay := by
  rw [Depot.timer, alike.now, Depot.timer]

theorem Alike.elapsed (due : Option Nat) : one.elapsed due = two.elapsed due := by
  rw [Depot.elapsed.eq_def, alike.now, Depot.elapsed.eq_def]

theorem alike_setPool (id : PoolId) (pool : Pool) :
    Alike (one.setPool id pool) (two.setPool id pool) :=
  { alike with pools := congrArg (·.set id pool) alike.pools }

theorem alike_changePool (id : PoolId) (change : Pool → Pool) :
    Alike (one.changePool id change) (two.changePool id change) := by
  rw [changePool, changePool, alike.pool id]
  exact alike_setPool alike id _

theorem alike_setDirectory (id : DirectoryId) (directory : Directory) :
    Alike (one.setDirectory id directory) (two.setDirectory id directory) :=
  { alike with directories := congrArg (·.set id directory) alike.directories }

theorem alike_changeDialer (id : DialerId) {first second : Dialer → Dialer}
    (changes : ∀ a b : Dialer, a.unfailing = b.unfailing →
      (first a).unfailing = (second b).unfailing) :
    Alike (one.changeDialer id first) (two.changeDialer id second) := by
  refine { alike with dialers := ?_ }
  rw [dialers_changeDialer, dialers_changeDialer]
  exact rel_modify alike.dialers id fun a b _ => changes a b

theorem alike_tell {beat : Beat} (fits : beat.Fits one) :
    Alike (one.tell beat) (two.tell beat) := by
  refine { alike with trace := ?_ }
  refine alike.grows ⟨lasting_refl _, fun _ _ => id⟩ (lasting_refl _) [beat]
    (fun _ member => List.mem_singleton.mp member ▸ fits) ?_ ?_
  all_goals
    rw [List.flatMap_singleton]
    rfl

theorem alike_record {event : Event} (quiet : event.isQuiet = true) :
    Alike (one.record event) (two.record event) := by
  have fits : Beat.Fits one (.event event) := quiet
  exact alike_tell alike fits

theorem alike_note {note : Note} (quiet : (Event.noted note).isQuiet = true) :
    Alike (one.note note) (two.note note) :=
  alike_record alike quiet

theorem alike_enter (task : TaskId) {first second : Phase}
    (goes : ∀ request, one.request? task = some request →
      Phase.Alike one.handles two.handles request first second) :
    Alike (one.enter task first) (two.enter task second) := by
  refine { alike with tasks := ?_, trace := ?_ }
  · refine rel_modify alike.tasks task fun a b here related => ⟨related.request, goes _ ?_⟩
    rw [request?, here, Option.map_some]
  · exact alike.stays (steady_enter one task first) (lasting_refl _) rfl rfl

theorem alike_finish (task : TaskId) (outcome : Outcome) :
    Alike (one.finish task outcome) (two.finish task outcome) :=
  { alike_record (alike_enter alike task fun _ _ => .same (by simp)) rfl with
    held := congrArg (· ++ _) alike.held }

theorem alike_changeHandle (id : HandleId) {change : Handle → Handle}
    (changes : ∀ a b : Handle, a.Alike b → (change a).Alike (change b))
    (keeps : ∀ handle : Handle, (change handle).closeFailure = handle.closeFailure) :
    Alike (one.changeHandle id change) (two.changeHandle id change) := by
  have lasting := one.lasting_changeHandle id keeps
  have lasting' := two.lasting_changeHandle id keeps
  refine { alike with
    handles := ?_
    tasks := alike.tasks.imp fun _ _ related => related.lasts lasting lasting'
    trace := alike.stays ⟨lasting, fun _ _ asked => asked⟩ lasting' rfl rfl }
  rw [handles_changeHandle, handles_changeHandle]
  exact rel_modify alike.handles id fun a b _ => changes a b

theorem alike_setDialer (id : DialerId) {first second : Dialer}
    (same : first.unfailing = second.unfailing) :
    Alike (one.setDialer id first) (two.setDialer id second) :=
  alike_changeDialer alike id fun _ _ _ => same

theorem alike_addHandle (id : DialerId) {first second : Fitting}
    (same : first.unfailing = second.unfailing) :
    Alike (one.addHandle id first) (two.addHandle id second) := by
  have dialer := alike.dialer id
  have length := alike.handles.length_eq
  have serial : (one.dialer id).serial = (two.dialer id).serial := by
    rw [← Dialer.serial_unfailing, dialer, Dialer.serial_unfailing]
  have enrolled : Alike (one.setDialer id ((one.dialer id).enroll one.handles.length))
      (two.setDialer id ((two.dialer id).enroll two.handles.length)) :=
    alike_setDialer alike id
      (by rw [Dialer.unfailing_enroll, dialer, length, Dialer.unfailing_enroll])
  have lasting (depot : Depot) (fitting : Fitting) :
      Lasting depot.handles (depot.addHandle id fitting).handles :=
    lasting_append depot.handles _
  refine { enrolled with
    handles := List.rel_append alike.handles (.cons ?_ .nil)
    tasks := alike.tasks.imp fun _ _ related =>
      related.lasts (lasting one first) (lasting two second)
    trace := alike.stays ⟨lasting one first, fun _ _ asked => asked⟩ (lasting two second) rfl rfl }
  rw [serial]
  exact Handle.alike_ofFitting id _ same

theorem alike_enroll (held : List Holding) (request : Request) :
    Alike (one.enroll held request) (two.enroll held request) := by
  have asked : Task.Alike one.handles two.handles { request } { request } :=
    ⟨rfl, .same (by simp)⟩
  refine { alike with held := rfl, tasks := ?_, trace := ?_ }
  · exact List.rel_append alike.tasks (.cons asked .nil)
  · refine alike.stays ⟨lasting_refl _, fun task request there => ?_⟩ (lasting_refl _) rfl rfl
    obtain ⟨found, here, rfl⟩ := Option.map_eq_some_iff.mp there
    have inside := (List.getElem?_eq_some_iff.mp here).1
    simp [request?, enroll, List.getElem?_append_left inside, here]

theorem alike_startMonitor (handle : HandleId) :
    Alike (one.startMonitor handle) (two.startMonitor handle) := by
  unfold startMonitor
  rw [(alike.handle handle).monitor]
  split
  · exact alike
  · exact { alike with monitors := congrArg (· ++ [handle]) alike.monitors }

theorem alike_runMonitors : Alike one.runMonitors two.runMonitors := by
  have each (handles : List HandleId) {one two : Depot} (alike : Alike one two) :
      Alike (handles.foldl runMonitor one) (handles.foldl runMonitor two) := by
    induction handles generalizing one two with
    | nil => exact alike
    | cons handle rest ih =>
        exact ih (alike_record (alike_changeHandle alike handle
          (fun _ _ => Handle.Alike.monitored) fun handle => by rw [Handle.monitored_eq]) rfl)
  rw [runMonitors, runMonitors, alike.monitors]
  exact each two.monitors { alike with monitors := rfl }

theorem alike_beginDial (id : DialerId) (parameter : String) :
    (one.beginDial id parameter).1.unfailing = (two.beginDial id parameter).1.unfailing ∧
      Alike (one.beginDial id parameter).2 (two.beginDial id parameter).2 := by
  have same := alike.dialer id
  have next := congrArg Dialer.next same
  rw [Dialer.next_unfailing, Dialer.next_unfailing, Prod.mk.injEq] at next
  have shown : (one.dialer id).shownParameter parameter =
      (two.dialer id).shownParameter parameter := by
    rw [← Dialer.shownParameter_unfailing, same, Dialer.shownParameter_unfailing]
  constructor
  · simp only [beginDial, Call.unfailing, next.1, next.2, alike.timer]
  · simp only [beginDial, shown]
    refine alike_changeDialer (alike_record alike rfl) id fun a b same => ?_
    rw [Dialer.unfailing_advance, same, Dialer.unfailing_advance]

theorem alike_endDial {first second : Call} (same : first.unfailing = second.unfailing) :
    (one.endDial first).1 = (two.endDial second).1 ∧
      Alike (one.endDial first).2 (two.endDial second).2 := by
  obtain ⟨dialer, due, ending⟩ := first
  obtain ⟨dialer', due', ending'⟩ := second
  simp only [Call.unfailing, Call.mk.injEq] at same
  obtain ⟨rfl, -, endings⟩ := same
  have concludes := congrArg₂ Dialer.conclude endings (alike.dialer dialer)
  rw [Dialer.conclude_unfailing, Dialer.conclude_unfailing, Prod.mk.injEq] at concludes
  unfold endDial
  generalize (one.dialer dialer).conclude ending = first at concludes
  generalize (two.dialer dialer).conclude ending' = second at concludes
  obtain ⟨first, advanced⟩ := first
  obtain ⟨second, advanced'⟩ := second
  obtain ⟨ends, dialers⟩ := concludes
  have set := alike_setDialer alike dialer dialers
  cases first with
  | connect fitting =>
      cases second with
      | connect fitting' =>
          have answer : one.handles.length = two.handles.length := alike.handles.length_eq
          exact ⟨congrArg Answer.connected answer,
            alike_addHandle set dialer (DialEnd.connect.inj ends)⟩
      | _ => cases ends
  | refuse reason =>
      cases second with
      | refuse reason' => exact ⟨congrArg Answer.refused (DialEnd.refuse.inj ends), set⟩
      | _ => cases ends
  | panic message =>
      cases second with
      | panic message' => exact ⟨congrArg Answer.panicked (DialEnd.panic.inj ends), set⟩
      | _ => cases ends

theorem alike_closeOnce (handle : HandleId) :
    Alike (one.changeHandle handle Handle.closeOnce) (two.changeHandle handle Handle.closeOnce) :=
  alike_changeHandle alike handle (fun _ _ => Handle.Alike.closeOnce) fun _ => rfl

theorem alike_endPoolClose (pool : PoolId) {handle : HandleId}
    (inside : handle < one.handles.length) :
    Alike (one.endPoolClose pool handle) (two.endPoolClose pool handle) := by
  rw [endPoolClose_eq, endPoolClose_eq]
  apply alike_tell (alike_closeOnce alike handle)
  rwa [Beat.Fits, handles_changeHandle, List.length_modify]

theorem alike_endCloseAlone {task : TaskId} {handle : HandleId}
    (inside : handle < one.handles.length)
    (asked : one.request? task = some (.closeHandle handle)) :
    Alike (one.endCloseAlone task handle) (two.endCloseAlone task handle) := by
  have closed (depot : Depot) (inside : handle < depot.handles.length) :
      (depot.changeHandle handle Handle.closeOnce).handles[handle]? =
        some (depot.handle handle).closeOnce := by
    rw [handles_changeHandle, List.getElem?_modify, getElem?_handle inside]
    simp
  rw [endCloseAlone_eq, endCloseAlone_eq]
  refine alike_tell (alike_enter (alike_closeOnce alike handle) task fun request there => ?_) ?_
  · have ended := Phase.Alike.closed (Option.some.inj (there.symm.trans asked))
      (closed one inside) (closed two (alike.handles.length_eq ▸ inside))
    exact ended
  · refine ⟨?_, by rw [request?_enter]; exact asked⟩
    simpa [enter, handles_changeHandle] using inside

end Same

end Depot

end HandlePool
