import HandlePool.Depot.Work

namespace HandlePool.Depot

variable (depot : Depot)

@[simp] theorem pools_record (event : Event) : (depot.record event).pools = depot.pools := rfl

@[simp] theorem pools_note (note : Note) : (depot.note note).pools = depot.pools := rfl

@[simp] theorem pools_enter (task : TaskId) (phase : Phase) :
    (depot.enter task phase).pools = depot.pools := rfl

@[simp] theorem pools_finish (task : TaskId) (outcome : Outcome) :
    (depot.finish task outcome).pools = depot.pools := rfl

@[simp] theorem pools_setHandle (id : HandleId) (handle : Handle) :
    (depot.setHandle id handle).pools = depot.pools := rfl

@[simp] theorem pools_setDialer (id : DialerId) (dialer : Dialer) :
    (depot.setDialer id dialer).pools = depot.pools := rfl

@[simp] theorem pools_setDirectory (id : DirectoryId) (directory : Directory) :
    (depot.setDirectory id directory).pools = depot.pools := rfl

@[simp] theorem tasks_record (event : Event) : (depot.record event).tasks = depot.tasks := rfl

@[simp] theorem tasks_note (note : Note) : (depot.note note).tasks = depot.tasks := rfl

@[simp] theorem tasks_setPool (id : PoolId) (pool : Pool) :
    (depot.setPool id pool).tasks = depot.tasks := rfl

@[simp] theorem tasks_changePool (id : PoolId) (change : Pool → Pool) :
    (depot.changePool id change).tasks = depot.tasks := rfl

@[simp] theorem tasks_setHandle (id : HandleId) (handle : Handle) :
    (depot.setHandle id handle).tasks = depot.tasks := rfl

@[simp] theorem tasks_setDialer (id : DialerId) (dialer : Dialer) :
    (depot.setDialer id dialer).tasks = depot.tasks := rfl

@[simp] theorem tasks_setDirectory (id : DirectoryId) (directory : Directory) :
    (depot.setDirectory id directory).tasks = depot.tasks := rfl

@[simp] theorem tasks_enter (task : TaskId) (phase : Phase) :
    (depot.enter task phase).tasks = depot.tasks.modify task ({ · with phase }) := rfl

@[simp] theorem tasks_finish (task : TaskId) (outcome : Outcome) :
    (depot.finish task outcome).tasks =
      depot.tasks.modify task ({ · with phase := .finished outcome }) := rfl

@[simp] theorem pool_enter (task : TaskId) (phase : Phase) (id : PoolId) :
    (depot.enter task phase).pool id = depot.pool id := rfl

@[simp] theorem pool_record (event : Event) (id : PoolId) :
    (depot.record event).pool id = depot.pool id := rfl

@[simp] theorem pool_note (note : Note) (id : PoolId) :
    (depot.note note).pool id = depot.pool id := rfl

theorem pool_of_length_le {id : PoolId} (outside : depot.pools.length ≤ id) :
    depot.pool id = default := by
  simp [Depot.pool, List.getElem?_eq_none outside]

theorem pool_setPool (id other : PoolId) (pool : Pool) :
    (depot.setPool id pool).pool other =
      if id = other ∧ other < depot.pools.length then pool else depot.pool other := by
  simp only [Depot.pool, setPool, List.getD_eq_getElem?_getD, List.getElem?_set]
  by_cases same : id = other
  · by_cases inside : other < depot.pools.length
    · simp [same, inside]
    · simp [same, inside]
  · simp [same]

theorem dialer_setDialer (id other : DialerId) (dialer : Dialer) :
    (depot.setDialer id dialer).dialer other =
      if id = other ∧ other < depot.dialers.length then dialer else depot.dialer other := by
  simp only [Depot.dialer, setDialer, List.getD_eq_getElem?_getD, List.getElem?_set]
  by_cases same : id = other
  · by_cases inside : other < depot.dialers.length
    · simp [same, inside]
    · simp [same, inside]
  · simp [same]

end HandlePool.Depot
