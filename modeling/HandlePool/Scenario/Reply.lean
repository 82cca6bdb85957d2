import HandlePool.Depot.Rows

namespace HandlePool.Scenario

open Json

inductive Reply where
  | nothing
  | absent
  | text (value : String)
  | flag (value : Bool)
  | panicked (message : String)
  | counterState (counter : Counter) (handles : List Handle)
  | handleState (handle : Handle)
  | poolState (pool : Pool)
  | entry (pool : Pool)
  | verdict (abort : Option Abort) (deadline : Option Nat)
  | directoryState (directory : Directory)

def abortName : Abort → String
  | .cancelled => "Cancelled"
  | .expired => "DeadlineExceeded"

def handleRow (handle : Handle) : Value :=
  .array [.natural handle.serial, .bool handle.closed, .natural handle.closeCalls]

def sortedKeys (directory : Directory) : List String :=
  directory.keys.mergeSort fun a b => decide (a ≤ b)

def Reply.toValue : Reply → Value
  | .nothing => .null
  | .absent => .string "none"
  | .text value => .string value
  | .flag value => .bool value
  | .panicked message => failureValue "Panic" message
  | .counterState counter handles =>
      .object [
        ("created", .natural counter.created),
        ("handles", .array (handles.map handleRow)),
        ("debug", .string counter.recordText)]
  | .handleState handle =>
      .object ([
        ("closed", .bool handle.closed),
        ("close_calls", .natural handle.closeCalls)] ++
        (handle.stateText?.map fun text => ("debug", .string text)).toList)
  | .poolState pool =>
      .object [
        ("id", .string pool.id),
        ("limits", pool.limits.toValue),
        ("debug", .string pool.recordText),
        ("stats", .string pool.statsText)]
  | .entry pool => .object [("id", .string pool.id), ("limits", pool.limits.toValue)]
  | .verdict abort deadline =>
      .object [
        ("fired", .optional (fun abort => .string (abortName abort)) abort),
        ("deadline_us", .optional .natural deadline)]
  | .directoryState directory =>
      .object [
        ("keys", .array ((sortedKeys directory).map .string)),
        ("len", .natural directory.size),
        ("empty", .bool directory.isEmpty),
        ("debug", .string directory.recordText)]

def poolValue (pool : Pool) : Value :=
  .object [
    ("closed", .bool pool.closed),
    ("active", .natural pool.active),
    ("idle", .natural pool.idle.size),
    ("waits", .natural pool.waitCount),
    ("wait_us", .natural pool.waitTime),
    ("created", .natural pool.created),
    ("destroyed", .natural pool.destroyed),
    ("permits", .optional (fun gate => .natural gate.free) pool.gate)]

end HandlePool.Scenario
