import HandlePool.Pool

namespace HandlePool

abbrev DirectoryId := Nat

structure Directory where
  entries : List (String × PoolId) := []
deriving DecidableEq, Repr, Inhabited

namespace Directory

def find? (directory : Directory) (key : String) : Option PoolId := directory.entries.lookup key

def insert (directory : Directory) (key : String) (pool : PoolId) : Directory :=
  ⟨directory.entries.filter (·.1 != key) ++ [(key, pool)]⟩

def erase (directory : Directory) (key : String) : Directory :=
  ⟨directory.entries.filter (·.1 != key)⟩

def keys (directory : Directory) : List String := directory.entries.map (·.1)

def pools (directory : Directory) : List PoolId := directory.entries.map (·.2)

/-- Entries in the order in which their keys are named. Those whose keys are not named come last. -/
def arrange : List String → List (String × PoolId) → List (String × PoolId)
  | [], entries => entries
  | key :: order, entries =>
      entries.filter (·.1 == key) ++ arrange order (entries.filter (·.1 != key))

def poolsBy (directory : Directory) (order : List String) : List PoolId :=
  (arrange order directory.entries).map (·.2)

def size (directory : Directory) : Nat := directory.entries.length

def isEmpty (directory : Directory) : Bool := directory.entries.isEmpty

def recordText (directory : Directory) : String :=
  Text.record "Registry" [("pool_count", Nat.repr directory.size)]

end Directory

end HandlePool
