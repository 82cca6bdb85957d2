import HandlePool.Depot.Work

namespace HandlePool.Depot

def shutNext (depot : Depot) (task : TaskId) : List PoolId → Depot
  | [] => depot.finish task .completed
  | id :: later =>
      if (depot.pool id).closed then depot.enter task (.shutting later)
      else
        let (pool, drained) := (depot.pool id).shut
        ((depot.setPool id pool).note (.closing id drained.length)).enter task
          (.draining id drained later)

def drainNext (depot : Depot) (task : TaskId) (id : PoolId) (later : List PoolId) :
    List HandleId → Depot
  | [] => depot.enter task (.shutting later)
  | handle :: rest => depot.beginClose task id handle (.drain rest later)

/-- The pools leave the directory before the first of them is shut. They come in the order in which
the directory happens to yield its keys. -/
def shutAll (depot : Depot) (task : TaskId) (id : DirectoryId) (order : List String) : Depot :=
  (depot.setDirectory id {}).enter task (.shutting ((depot.directory id).poolsBy order))

end HandlePool.Depot
