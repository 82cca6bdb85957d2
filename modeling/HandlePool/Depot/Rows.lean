import HandlePool.Depot.Basic
import HandlePool.Json.Value

namespace HandlePool

open Json

inductive Level where
  | trace
  | debug
  | warn
deriving DecidableEq, Repr

def Level.text : Level → String
  | .trace => "TRACE"
  | .debug => "DEBUG"
  | .warn => "WARN"

namespace Note

def level : Note → Level
  | reusing _ | pruned _ _ | evicting _ => .trace
  | closeFailed _ _ => .warn
  | _ => .debug

def message : Note → String
  | registered _ => "Registered pool"
  | reusing _ => "Reusing idle handle"
  | pruned _ _ => "Pruned closed idle handles"
  | exhausted _ _ _ => "Pool exhausted"
  | dialed _ _ => "Dialed new handle"
  | dialFailed _ _ => "Dial failed"
  | evicting _ => "Evicting handle on return"
  | closing _ _ => "Closing pool"
  | closeFailed _ _ => "Failed to close handle"

end Note

def Refusal.toValue (refusal : Refusal) : Value :=
  .object [
    ("error", .string refusal.name),
    ("message", .string refusal.message),
    ("pool_id", .string refusal.pool),
    ("retryable", .bool refusal.retryable),
    ("source", .optional .string refusal.reason?)]

def failureValue (kind message : String) : Value :=
  .object [("error", .string kind), ("message", .string message)]

namespace Depot

def label (depot : Depot) (id : HandleId) : String :=
  (depot.dialer (depot.handle id).dialer).name ++ "#" ++ Nat.repr (depot.handle id).serial

def labelValue (depot : Depot) (id : HandleId) : Value := .string (depot.label id)

def poolField (depot : Depot) (id : PoolId) : String × Value :=
  ("pool_id", .string (depot.pool id).id)

def noteFields (depot : Depot) : Note → List (String × Value)
  | .registered key => [("pool_id", .string key)]
  | .reusing pool | .evicting pool => [depot.poolField pool]
  | .pruned pool count => [depot.poolField pool, ("pruned", .natural count)]
  | .exhausted pool active limit =>
      [("active", .natural active), ("max_active", .natural limit), depot.poolField pool]
  | .dialed pool active => [("active", .natural active), depot.poolField pool]
  | .dialFailed pool refusal => [("error", .string refusal.message), depot.poolField pool]
  | .closing pool idle => [("idle", .natural idle), depot.poolField pool]
  | .closeFailed pool reason => [("error", .string reason), depot.poolField pool]

def outcomeValue (depot : Depot) : Outcome → Value
  | .checkedOut _ handle | .dialed handle => .object [("ok", depot.labelValue handle)]
  | .completed => .object [("ok", .null)]
  | .refused refusal => refusal.toValue
  | .failed message => failureValue "BoxError" message
  | .panicked message => failureValue "Panic" message

def row (depot : Depot) (number : TaskId → Nat) : Event → Value
  | .dial dialer parameter =>
      .array [.string "dial", .string (depot.dialer dialer).name, .optional .string parameter]
  | .close handle => .array [.string "close", depot.labelValue handle]
  | .closed handle failure =>
      .array [.string "closed", depot.labelValue handle, .optional .string failure]
  | .monitor handle => .array [.string "monitor", depot.labelValue handle]
  | .done task outcome =>
      .array [.string "done", .natural (number task), depot.outcomeValue outcome]
  | .noted note =>
      .array [.string "log", .string note.level.text, .string note.message,
        .object (depot.noteFields note)]

end Depot

end HandlePool
