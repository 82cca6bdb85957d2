import HandlePool.Proofs.Census

/-!
What a move does besides the books: it begins or ends the close of a handle or a dial, or none of
these.
-/
namespace HandlePool

def Event.isMark : Event → Bool
  | .noted _ | .done _ _ => false
  | _ => true

def Event.begins? : Event → Option HandleId
  | .close handle => some handle
  | _ => none

def Event.dials? : Event → Option DialerId
  | .dial dialer _ => some dialer
  | _ => none

def Phase.call? : Phase → Option Call
  | .dialing _ _ call | .calling call => some call
  | _ => none

def Phase.got? : Phase → Option HandleId
  | .finished (.checkedOut _ handle) | .finished (.dialed handle) => some handle
  | _ => none

namespace Depot

def marks (depot : Depot) : List Event := depot.trace.filter Event.isMark

def begun (depot : Depot) : List HandleId := depot.trace.filterMap Event.begins?

def called (depot : Depot) : List DialerId := depot.trace.filterMap Event.dials?

structure Untouched (depot next : Depot) : Prop where
  marks : next.marks = depot.marks
  handles : next.handles = depot.handles
  dialers : next.dialers = depot.dialers

def Calls (depot : Depot) (request : Request) (phase : Phase) (dialer : DialerId) : Prop :=
  (∃ id slot, phase = .scanning id slot ∧ (depot.pool id).dialer = some dialer) ∨
    phase = .asked ∧ ∃ parameter, request = .dial dialer parameter

/-- The work in a move from one phase to another, and that nothing else is touched. -/
inductive Deed (depot : Depot) (request : Request) (next : Depot) : Phase → Phase → Prop where
  | plain {phase phase'} (idle : phase'.closing? = none) (silent : phase'.call? = none)
      (nothing : phase.call? = none ∨ phase'.got? = none) (rest : Untouched depot next) :
      Deed depot request next phase phase'
  | beginsClose {phase phase' handle} (closes : phase'.closing? = some handle)
      (rest : Untouched (depot.record (.close handle)) next) :
      Deed depot request next phase phase'
  | endsClose {phase phase' handle} (closed : phase.closing? = some handle)
      (idle : phase'.closing? = none) (silent : phase'.call? = none)
      (rest : Untouched (depot.endClose handle) next) : Deed depot request next phase phase'
  | beginsDial {phase phase' dialer parameter}
      (calls : phase'.call? = some (depot.beginDial dialer parameter).1)
      (who : depot.Calls request phase dialer)
      (rest : Untouched (depot.beginDial dialer parameter).2 next) :
      Deed depot request next phase phase'
  | endsDial {phase phase' call} (called : phase.call? = some call) (isOver : phase'.isOver = true)
      (yields : ∀ handle, phase'.got? = some handle ↔ (depot.endDial call).1 = .connected handle)
      (rest : Untouched (depot.endDial call).2 next) : Deed depot request next phase phase'

inductive Acts (depot : Depot) (task : TaskId) (request : Request) (phase : Phase) (next : Depot) :
    Prop where
  | intro (phase' : Phase)
      (tasks : next.tasks = depot.tasks.modify task ({ · with phase := phase' }))
      (deed : Deed depot request next phase phase')

inductive Ends (depot : Depot) (task : TaskId) (call : Call) (next : Depot) : Prop where
  | intro (outcome : Outcome)
      (tasks : next.tasks = depot.tasks.modify task ({ · with phase := .finished outcome }))
      (yields : ∀ handle, (Phase.finished outcome).got? = some handle ↔
        (depot.endDial call).1 = .connected handle)
      (rest : Untouched (depot.endDial call).2 next)

variable {id : PoolId} {depot mid next worked : Depot} {task : TaskId} {request : Request}
  {phase phase' : Phase} {outcome : Outcome}

theorem marks_note (depot : Depot) (taken : Note) : (depot.note taken).marks = depot.marks := by
  simp [marks, note, record, Event.isMark]

theorem marks_finish (depot : Depot) (task : TaskId) (outcome : Outcome) :
    (depot.finish task outcome).marks = depot.marks := by
  simp [marks, finish, enter, record, Event.isMark]

theorem untouched_refl (depot : Depot) : Untouched depot depot := ⟨rfl, rfl, rfl⟩

theorem untouched_setPool (depot : Depot) (id : PoolId) (pool : Pool) :
    Untouched depot (depot.setPool id pool) := ⟨rfl, rfl, rfl⟩

theorem untouched_changePool (depot : Depot) (id : PoolId) (change : Pool → Pool) :
    Untouched depot (depot.changePool id change) := ⟨rfl, rfl, rfl⟩

section Untouching

variable (untouched : Untouched depot mid)

include untouched

theorem untouched_note (taken : Note) : Untouched depot (mid.note taken) :=
  ⟨(marks_note mid taken).trans untouched.marks, untouched.handles, untouched.dialers⟩

theorem untouched_finish (task : TaskId) (outcome : Outcome) :
    Untouched depot (mid.finish task outcome) :=
  ⟨(marks_finish mid task outcome).trans untouched.marks, untouched.handles, untouched.dialers⟩

theorem untouched_handBack (id : PoolId) (slot reserved : Bool) :
    Untouched depot (mid.handBack id slot reserved) := by
  obtain ⟨marks, handles, dialers⟩ := untouched
  cases slot <;> cases reserved <;> exact ⟨marks, handles, dialers⟩

theorem untouched_startMonitor (handle : HandleId) : Untouched depot (mid.startMonitor handle) := by
  unfold startMonitor
  split
  · exact untouched
  · exact ⟨untouched.marks, untouched.handles, untouched.dialers⟩

theorem untouched_close (handle : HandleId) :
    Untouched (depot.record (.close handle)) (mid.record (.close handle)) := by
  refine ⟨?_, untouched.handles, untouched.dialers⟩
  have before := untouched.marks
  simp only [marks] at before
  simp [marks, record, before]

end Untouching

theorem untouched_addPool? (depot : Depot) (name : String) (dialer : Option DialerId)
    (parameter : String) (limits : Limits) :
    Untouched depot ((depot.addPool? name dialer parameter limits).getD depot) := by
  cases made : depot.addPool? name dialer parameter limits with
  | none => exact untouched_refl depot
  | some added =>
      obtain ⟨pool, -, rfl⟩ := Option.map_eq_some_iff.mp made
      exact ⟨rfl, rfl, rfl⟩

theorem untouched_register (depot : Depot) (directory : DirectoryId) (key : String)
    (dialer : Option DialerId) (parameter : String) (limits : Limits) :
    Untouched depot (depot.register directory key dialer parameter limits).2 := by
  have noted := untouched_note (untouched_refl depot) (.registered key)
  have registers := depot.registering directory key dialer parameter limits
  generalize depot.register directory key dialer parameter limits = answered at registers ⊢
  cases registers with
  | found => exact untouched_refl depot
  | failed => exact noted
  | made => exact ⟨noted.marks, noted.handles, noted.dialers⟩

section Acting

variable (tasks : mid.tasks = depot.tasks) (rest : Untouched depot mid)

include tasks rest

theorem acts_end (quiet : phase.call? = none) :
    Acts depot task request phase (mid.finish task outcome) :=
  .intro (.finished outcome) (by rw [tasks_finish, tasks])
    (.plain rfl rfl (Or.inl quiet) (untouched_finish rest task outcome))

theorem acts_go (idle : phase'.closing? = none) (silent : phase'.call? = none)
    (nothing : phase.call? = none ∨ phase'.got? = none) :
    Acts depot task request phase (mid.enter task phase') :=
  .intro phase' (by rw [tasks_enter, tasks])
    (.plain idle silent nothing ⟨rest.marks, rest.handles, rest.dialers⟩)

theorem acts_fail {slot reserved : Bool} (quiet : phase.call? = none) :
    Acts depot task request phase (mid.fail task id slot reserved outcome) :=
  acts_end ((tasks_handBack mid id slot reserved).trans tasks)
    (untouched_handBack rest id slot reserved) quiet

theorem acts_close {handle : HandleId} (closes : phase'.closing? = some handle) :
    Acts depot task request phase ((mid.record (.close handle)).enter task phase') := by
  obtain ⟨marks, handles, dialers⟩ := untouched_close rest handle
  exact .intro phase' (by rw [tasks_enter, tasks_record, tasks])
    (.beginsClose closes ⟨marks, handles, dialers⟩)

theorem acts_beginClose {handle : HandleId} {errand : Errand} :
    Acts depot task request phase (mid.beginClose task id handle errand) :=
  acts_close tasks rest rfl

end Acting

theorem acts_note (acts : Acts depot task request phase next) (taken : Note) :
    Acts depot task request phase (next.note taken) := by
  obtain ⟨phase', tasks, deed⟩ := acts
  refine .intro phase' tasks ?_
  cases deed with
  | plain idle silent nothing rest =>
      exact .plain idle silent nothing (untouched_note rest taken)
  | beginsClose closes rest => exact .beginsClose closes (untouched_note rest taken)
  | endsClose closed idle silent rest =>
      exact .endsClose closed idle silent (untouched_note rest taken)
  | beginsDial calls who rest => exact .beginsDial calls who (untouched_note rest taken)
  | endsDial called isOver yields rest =>
      exact .endsDial called isOver yields (untouched_note rest taken)

theorem acts_admitted (tasks : mid.tasks = depot.tasks) (rest : Untouched depot mid) {slot : Bool}
    {waited : Option Nat} : Acts depot task request phase (mid.admitted task id slot waited) := by
  have entered (pool : Pool) :
      Acts depot task request phase ((mid.setPool id pool).enter task (.scanning id slot)) :=
    acts_go tasks ⟨rest.marks, rest.handles, rest.dialers⟩ rfl rfl (Or.inr rfl)
  unfold admitted
  dsimp only
  split
  · exact entered _
  · exact acts_note (entered _) _

theorem acts_passGate (tasks : mid.tasks = depot.tasks) (rest : Untouched depot mid)
    (quiet : phase.call? = none) {context : Context} {waited : Option Nat} :
    Acts depot task request phase (mid.passGate task id context waited) := by
  unfold passGate
  split
  · exact acts_admitted tasks rest
  · exact acts_end tasks ⟨rest.marks, rest.handles, rest.dialers⟩ quiet

theorem acts_checkout (depot : Depot) (task : TaskId) (id : PoolId) (context : Context) :
    Acts depot task request .asked (depot.checkout task id context) := by
  unfold checkout
  split
  · exact acts_admitted rfl (untouched_refl depot)
  · dsimp only
    split
    · exact acts_end rfl (untouched_refl depot) rfl
    · split
      · exact acts_end rfl (untouched_refl depot) rfl
      · split
        · exact acts_go rfl ⟨rfl, rfl, rfl⟩ rfl rfl (Or.inl rfl)
        · exact acts_passGate (tasks_changePool _ _ _) (untouched_changePool depot id _) rfl

theorem acts_look {context : Context} {since : Option Nat}
    (looked : depot.look task id context since = some next) :
    Acts depot task request (.queued id context since) next := by
  unfold look at looked
  split at looked
  · cases looked
    exact acts_end rfl ⟨rfl, rfl, rfl⟩ rfl
  · cases looked
  · split at looked
    · cases looked
      exact acts_end rfl ⟨rfl, rfl, rfl⟩ rfl
    · split at looked
      · cases looked
        exact acts_passGate (tasks_changePool _ _ _) (untouched_changePool depot id _) rfl
      · cases looked

theorem acts_reserve {slot : Bool} :
    Acts depot task request (.scanning id slot) (depot.reserve task id slot) := by
  unfold reserve
  dsimp only
  split
  · split
    · exact acts_fail (by rfl) (untouched_note (untouched_refl depot) _) rfl
    · exact acts_fail rfl (untouched_refl depot) rfl
  · split
    · exact acts_fail (by rfl) (untouched_note (untouched_setPool depot id _) _) rfl
    · rename_i dialer there
      refine .intro _ rfl (.beginsDial rfl (Or.inl ⟨id, slot, rfl, there⟩) ⟨rfl, rfl, rfl⟩)

theorem acts_scan {slot : Bool} :
    Acts depot task request (.scanning id slot) (depot.scan task id slot) := by
  unfold scan
  split
  · exact acts_reserve
  · dsimp only
    split
    · exact acts_end (tasks_note _ _) (untouched_note (untouched_setPool depot id _) _) rfl
    · split
      · exact acts_go rfl ⟨rfl, rfl, rfl⟩ rfl rfl (Or.inl rfl)
      · exact acts_beginClose (tasks_setPool _ _ _) (untouched_setPool depot id _)

theorem ends_of_answer {call : Call} {answer : Answer} {ended : Depot}
    (answered : depot.endDial call = (answer, ended)) (tasks : mid.tasks = ended.tasks)
    (rest : Untouched ended mid)
    (yields : ∀ handle, (Phase.finished outcome).got? = some handle ↔ answer = .connected handle) :
    Ends depot task call (mid.finish task outcome) := by
  have same := tasks_endDial depot call
  rw [answered] at same
  refine .intro outcome (by rw [tasks_finish, tasks, same]) ?_ ?_
  · rw [answered]
    exact yields
  · rw [answered]
    exact untouched_finish rest task outcome

theorem got?_of_failed (overflow : Bool) (outcome : Outcome)
    (nothing : (Phase.finished outcome).got? = none) :
    (Phase.finished (if overflow then .panicked Gate.overflowText else outcome)).got? = none := by
  split
  · rfl
  · exact nothing

theorem ends_endCheckoutDial {slot : Bool} {call : Call} :
    Ends depot task call (depot.endCheckoutDial task id slot call) := by
  unfold endCheckoutDial
  split
  · rename_i handle ended answered
    have recorded := booked_changePool (booked_refl ended id) Pool.recordDial
    have started := booked_startMonitor recorded handle
    have rest := untouched_startMonitor (untouched_changePool ended id Pool.recordDial) handle
    refine ends_of_answer answered started.tasks (untouched_note rest _) fun other => ?_
    simp [Phase.got?]
  · rename_i reason ended answered
    refine ends_of_answer answered (tasks_handBack _ id slot true)
      (untouched_handBack (untouched_note (untouched_refl ended) _) id slot true) fun handle => ?_
    rw [got?_of_failed _ _ rfl]
    simp
  · rename_i message ended answered
    refine ends_of_answer answered (tasks_handBack _ id slot true)
      (untouched_handBack (untouched_refl ended) id slot true) fun handle => ?_
    rw [got?_of_failed _ _ rfl]
    simp

theorem ends_endCall {call : Call} : Ends depot task call (depot.endCall task call) := by
  unfold endCall
  split
  all_goals
    rename_i answered
    refine ends_of_answer answered rfl (untouched_refl _) fun handle => ?_
    simp [Phase.got?]

theorem ends_of_stepFrom {call : Call} (called : phase.call? = some call)
    (step : depot.stepFrom task request phase = some next) : Ends depot task call next := by
  cases phase with
  | dialing id slot pending =>
      cases called
      rw [stepFrom] at step
      split at step <;> cases step
      exact ends_endCheckoutDial
  | calling pending =>
      cases called
      rw [stepFrom] at step
      split at step <;> cases step
      exact ends_endCall
  | _ => cases called

theorem acts_of_ends {call : Call} (called : phase.call? = some call)
    (ends : Ends depot task call next) : Acts depot task request phase next := by
  obtain ⟨outcome, tasks, yields, rest⟩ := ends
  exact .intro (.finished outcome) tasks (.endsDial called rfl yields rest)

theorem acts_endCheckoutDial {slot : Bool} {call : Call} :
    Acts depot task request (.dialing id slot call) (depot.endCheckoutDial task id slot call) :=
  acts_of_ends rfl ends_endCheckoutDial

theorem acts_giveBack (depot : Depot) (task : TaskId) (id : PoolId) (handle : HandleId) :
    Acts depot task request .asked (depot.giveBack task id handle) := by
  unfold giveBack
  dsimp only
  split
  · exact acts_end rfl ⟨rfl, rfl, rfl⟩ rfl
  · split
    · exact acts_end rfl ⟨rfl, rfl, rfl⟩ rfl
    · exact acts_beginClose (by rfl) (untouched_note (untouched_setPool depot id _) _)

theorem acts_discard (depot : Depot) (task : TaskId) (id : PoolId) (handle : HandleId) :
    Acts depot task request .asked (depot.discard task id handle) := by
  unfold discard
  dsimp only
  split
  · exact acts_end rfl ⟨rfl, rfl, rfl⟩ rfl
  · split
    · exact acts_end rfl ⟨rfl, rfl, rfl⟩ rfl
    · exact acts_beginClose (tasks_setPool _ _ _) (untouched_setPool depot id _)

theorem acts_answer (depot : Depot) (task : TaskId) (request : Request) :
    Acts depot task request .asked (depot.answer task request) := by
  cases request with
  | checkout id context => exact acts_checkout depot task id context
  | giveBack id handle => exact acts_giveBack depot task id handle
  | discard id handle => exact acts_discard depot task id handle
  | closeHandle handle => exact acts_close rfl (untouched_refl depot) rfl
  | dial dialer parameter =>
      exact .intro _ rfl (.beginsDial rfl (Or.inr ⟨rfl, parameter, rfl⟩) ⟨rfl, rfl, rfl⟩)
  | shut id => exact acts_go rfl (untouched_refl depot) rfl rfl (Or.inl rfl)
  | shutAll directory order => exact acts_go rfl ⟨rfl, rfl, rfl⟩ rfl rfl (Or.inl rfl)

theorem acts_shutNext (pools : List PoolId) :
    Acts depot task request (.shutting pools) (depot.shutNext task pools) := by
  cases pools with
  | nil => exact acts_end rfl (untouched_refl depot) rfl
  | cons id later =>
      rw [shutNext]
      split
      · exact acts_go rfl (untouched_refl depot) rfl rfl (Or.inl rfl)
      · exact acts_go (tasks_note _ _) (untouched_note (untouched_setPool depot id _) _) rfl rfl
          (Or.inl rfl)

theorem acts_drainNext {later : List PoolId} (handles : List HandleId) :
    Acts depot task request (.draining id handles later)
      (depot.drainNext task id later handles) := by
  cases handles with
  | nil => exact acts_go rfl (untouched_refl depot) rfl rfl (Or.inl rfl)
  | cons handle rest => exact acts_close rfl (untouched_refl depot) rfl

theorem untouched_endPoolClose (depot : Depot) (id : PoolId) (handle : HandleId) :
    Untouched (depot.endClose handle) (depot.endPoolClose id handle) := by
  unfold endPoolClose
  dsimp only
  split
  · exact untouched_refl _
  · exact untouched_note (untouched_refl _) _

theorem acts_resume {handle : HandleId} {due : Option Nat} {errand : Errand} :
    Acts depot task request (.closing id handle due errand)
      ((depot.endPoolClose id handle).resume task id errand) := by
  have rest := untouched_endPoolClose depot id handle
  have same := (booked_endPoolClose depot id handle 0).tasks
  cases errand with
  | conclude =>
      exact .intro _ (by rw [resume, tasks_finish, same])
        (.endsClose rfl rfl rfl (untouched_finish rest task _))
  | _ =>
      exact .intro _ (by rw [resume, tasks_enter, same])
        (.endsClose rfl rfl rfl ⟨rest.marks, rest.handles, rest.dialers⟩)

theorem acts_endCloseAlone {handle : HandleId} {due : Option Nat} :
    Acts depot task request (.closingAlone handle due) (depot.endCloseAlone task handle) :=
  .intro _ rfl (.endsClose rfl rfl rfl (untouched_finish (untouched_refl _) task _))

theorem acts_stepFrom (step : depot.stepFrom task request phase = some next) :
    Acts depot task request phase next := by
  unfold stepFrom at step
  split at step
  · cases step
    exact acts_answer depot task request
  · exact acts_look step
  · cases step
    exact acts_scan
  · split at step <;> cases step
    exact acts_endCheckoutDial
  · split at step <;> cases step
    exact acts_resume
  · cases step
    exact acts_drainNext _
  · cases step
    exact acts_shutNext _
  · split at step <;> cases step
    exact acts_of_ends rfl ends_endCall
  · split at step <;> cases step
    exact acts_endCloseAlone
  · cases step
  · cases step

theorem tasks_undo (depot : Depot) (task : TaskId) (phase : Phase) :
    (depot.undo task phase).tasks = depot.tasks := by
  unfold undo
  split
  · rfl
  · exact tasks_handBack depot _ _ _
  · exact tasks_handBack depot _ _ _
  · exact tasks_handBack depot _ _ _
  · rfl

theorem untouched_undo (depot : Depot) (task : TaskId) (phase : Phase) :
    Untouched depot (depot.undo task phase) := by
  have handed (id : PoolId) (slot reserved : Bool) :=
    untouched_handBack (untouched_refl depot) id slot reserved
  unfold undo
  split
  · exact untouched_changePool depot _ _
  · exact handed _ _ _
  · exact handed _ _ _
  · exact handed _ _ _
  · exact untouched_refl depot

theorem acts_drop (depot : Depot) (task : TaskId) (request : Request) (phase : Phase) :
    Acts depot task request phase ((depot.undo task phase).enter task .dropped) :=
  acts_go (tasks_undo depot task phase) (untouched_undo depot task phase) rfl rfl (Or.inr rfl)

theorem deed_of_move {view : PoolId} (move : Move view depot (some task) next)
    (becomes : Becomes depot.tasks request task phase phase' next.tasks) :
    Deed depot request next phase phase' := by
  have there := phase_of_becomes becomes
  have before := before_of_becomes becomes
  cases move with
  | begins called moves answers =>
      rename_i asked held
      obtain ⟨later, tasks, deed⟩ := acts_answer (depot.enroll held asked) depot.tasks.length asked
      rw [← answers] at tasks deed
      rw [tasks, List.getElem?_modify, tasks_enroll] at there
      simp only [Option.map_eq_map, Option.map_some, if_true] at there
      cases there
      have begins := before.resolve_right fun old => by simp at old
      rw [begins.1]
      -- A task that is asked has nothing under way that it could end.
      cases deed with
      | plain idle silent nothing rest =>
          exact .plain idle silent nothing ⟨rest.marks, rest.handles, rest.dialers⟩
      | beginsClose closes rest =>
          exact .beginsClose closes ⟨rest.marks, rest.handles, rest.dialers⟩
      | endsClose closed => cases closed
      | beginsDial calls who rest =>
          exact .beginsDial calls who ⟨rest.marks, rest.handles, rest.dialers⟩
      | endsDial called => cases called
  | steps here begun unfinished moves goes =>
      rename_i found
      have same := before.resolve_left fun new => by simp [here] at new
      rw [here] at same
      cases same.2
      have acts : Acts depot task request phase next := by
        rcases goes with step | dropped
        · exact acts_stepFrom step
        · rw [dropped]
          exact acts_drop depot task request phase
      obtain ⟨later, tasks, deed⟩ := acts
      rw [tasks, List.getElem?_modify, here] at there
      simp only [Option.map_eq_map, Option.map_some, if_true] at there
      cases there
      exact deed

theorem picked_of_untouched {Item : Type} (pick : Event → Option Item)
    (marked : ∀ event, pick event ≠ none → event.isMark = true) (rest : Untouched depot next) :
    next.trace.filterMap pick = depot.trace.filterMap pick := by
  have through (depot : Depot) : depot.trace.filterMap pick = depot.marks.filterMap pick := by
    rw [marks, List.filterMap_filter]
    congr 1
    funext event
    split
    · rfl
    · rename_i unmarked
      by_contra picked
      exact unmarked (marked event picked)
  rw [through, through, rest.marks]

theorem begun_of_untouched (rest : Untouched depot next) : next.begun = depot.begun :=
  picked_of_untouched Event.begins? (fun event picked => by cases event <;> trivial) rest

theorem called_of_untouched (rest : Untouched depot next) : next.called = depot.called :=
  picked_of_untouched Event.dials? (fun event picked => by cases event <;> trivial) rest

theorem begun_record (depot : Depot) (event : Event) :
    (depot.record event).begun = depot.begun ++ event.begins?.toList := by
  cases event <;> simp [begun, record, Event.begins?]

theorem trace_endDial (depot : Depot) (call : Call) :
    (depot.endDial call).2.trace = depot.trace := by
  unfold endDial
  split
  rename_i ending dialer _
  cases ending <;> rfl

theorem checkedOut?_of_got? (nothing : phase.got? = none) : phase.checkedOut? id = none := by
  cases out : phase.checkedOut? id with
  | none => rfl
  | some handle =>
      rw [checkedOut?_eq_some out] at nothing
      cases nothing

theorem closing?_of_isOver (isOver : phase.isOver = true) : phase.closing? = none := by
  cases phase with
  | finished outcome => rfl
  | dropped => rfl
  | _ => cases isOver

theorem call?_of_isOver (isOver : phase.isOver = true) : phase.call? = none := by
  cases phase with
  | finished outcome => rfl
  | dropped => rfl
  | _ => cases isOver

theorem idle_of_call? {call : Call} (calls : phase.call? = some call) :
    phase.closing? = none ∧ phase.got? = none := by
  cases phase with
  | dialing id slot call => exact ⟨rfl, rfl⟩
  | calling call => exact ⟨rfl, rfl⟩
  | _ => cases calls

theorem silent_of_closing? {handle : HandleId} (closes : phase.closing? = some handle) :
    phase.call? = none ∧ phase.got? = none := by
  cases phase with
  | closing id handle due errand => exact ⟨rfl, rfl⟩
  | closingAlone handle due => exact ⟨rfl, rfl⟩
  | _ => cases closes

theorem begun_of_deed (deed : Deed depot request next phase phase') :
    next.begun = depot.begun ++ phase'.closing?.toList := by
  cases deed with
  | plain idle silent nothing rest =>
      rw [idle, begun_of_untouched rest]
      exact (List.append_nil _).symm
  | beginsClose closes rest =>
      rw [closes, begun_of_untouched rest, begun_record]
      rfl
  | endsClose closed idle silent rest =>
      rw [idle, begun_of_untouched rest]
      exact begun_record _ _
  | beginsDial calls who rest =>
      rw [(idle_of_call? calls).1, begun_of_untouched rest]
      exact begun_record depot _
  | endsDial called isOver yields rest =>
      rw [closing?_of_isOver isOver, begun_of_untouched rest, begun, trace_endDial]
      exact (List.append_nil _).symm

theorem called_of_deed (deed : Deed depot request next phase phase')
    (silent : phase'.call? = none) : next.called = depot.called := by
  cases deed with
  | plain idle silent nothing rest => exact called_of_untouched rest
  | beginsClose closes rest =>
      rw [called_of_untouched rest]
      simp [called, record, Event.dials?]
  | endsClose closed idle silent rest =>
      rw [called_of_untouched rest]
      simp [called, endClose, changeHandle, setHandle, record, Event.dials?]
  | beginsDial calls =>
      rw [calls] at silent
      cases silent
  | endsDial _ isOver yields rest => rw [called_of_untouched rest, called, trace_endDial, called]

end Depot

end HandlePool
