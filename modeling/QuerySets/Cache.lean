/-!
Caches of a bounded size. The entries stand from the most to the least recently
used one, and the last one goes when there is no room. A cache without room, or
whose entries live for no time, keeps nothing.
-/

namespace QuerySets

/-- How many entries a cache holds, and for how many seconds. -/
structure CacheConfig where
  capacity : Nat
  lifetime : Nat
deriving DecidableEq

namespace CacheConfig

def default : CacheConfig := ⟨1024, 300⟩

def disabled : CacheConfig := ⟨0, 0⟩

def isEnabled (c : CacheConfig) : Bool := 0 < c.capacity && 0 < c.lifetime

end CacheConfig

structure Cache (α : Type) where
  capacity : Nat
  entries : List (String × α)

namespace Cache

variable {α ε : Type}

def new (config : CacheConfig) : Cache α :=
  ⟨if config.isEnabled then config.capacity else 0, []⟩

def isEnabled (c : Cache α) : Bool := 0 < c.capacity

def size (c : Cache α) : Nat := c.entries.length

/-- The entries of all other keys. -/
def others (key : String) (entries : List (String × α)) : List (String × α) :=
  entries.filter (·.1 ≠ key)

/-- Puts an entry in front; no more entries than there is room for stay. -/
def insert (c : Cache α) (key : String) (a : α) : Cache α :=
  { c with entries := ((key, a) :: others key c.entries).take c.capacity }

/-- Looks a key up, which makes it the most recently used one. -/
def get (c : Cache α) (key : String) : Option α × Cache α :=
  match c.entries.lookup key with
  | some a => (some a, { c with entries := (key, a) :: others key c.entries })
  | none => (none, c)

/-- Looks a key up, or loads its value and keeps it. A failed load changes nothing. -/
def getOrLoad (c : Cache α) (key : String) (load : Except ε α) : Except ε α × Cache α :=
  match c.get key with
  | (some a, c) => (.ok a, c)
  | (none, c) =>
    match load with
    | .ok a => (.ok a, c.insert key a)
    | .error e => (.error e, c)

def invalidate (c : Cache α) (key : String) : Cache α :=
  { c with entries := others key c.entries }

def clear (c : Cache α) : Cache α := { c with entries := [] }

end Cache

end QuerySets
