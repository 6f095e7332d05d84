/-!
# Caches that forget what was used longest ago

A cache holds at most as many entries as its capacity, ordered by their last
use.  Storing a key and finding it are uses; asking whether it is there is not.
A new key displaces the entry that was used longest ago when the cache is full.
-/

namespace UtilityCss

/-- Entries run from the least to the most recently used. -/
structure RecencyCache (κ : Type u) (ν : Type v) where
  capacity : Nat
  entries : List (κ × ν)
deriving Repr

namespace RecencyCache

variable {κ : Type u} {ν : Type v}

def empty (capacity : Nat) : RecencyCache κ ν := ⟨capacity, []⟩

/-- A cache needs room for one entry at least. -/
def create? (capacity : Int) : Option (RecencyCache κ ν) :=
  if 0 < capacity then some (empty capacity.toNat) else none

/-- What is said about a capacity that leaves no room. -/
def capacityMessage (capacity : Int) : String :=
  "Cache capacity must be positive, got " ++ toString capacity

/-- The keys from the least to the most recently used. -/
def keys (cache : RecencyCache κ ν) : List κ :=
  cache.entries.map Prod.fst

def size (cache : RecencyCache κ ν) : Nat :=
  cache.entries.length

def clear (cache : RecencyCache κ ν) : RecencyCache κ ν :=
  { cache with entries := [] }

/-- Forgets the entry used longest ago, if there is one. -/
def evictOldest (cache : RecencyCache κ ν) : RecencyCache κ ν :=
  { cache with entries := cache.entries.tail }

variable [DecidableEq κ]

def contains (cache : RecencyCache κ ν) (key : κ) : Bool :=
  cache.entries.any fun entry => decide (entry.1 = key)

/-- The value of a key, without using it. -/
def peek? (cache : RecencyCache κ ν) (key : κ) : Option ν :=
  (cache.entries.find? fun entry => decide (entry.1 = key)).map Prod.snd

def erase (cache : RecencyCache κ ν) (key : κ) : RecencyCache κ ν :=
  { cache with entries := cache.entries.filter fun entry => decide (entry.1 ≠ key) }

/-- Adds an entry as the most recently used one. -/
def push (cache : RecencyCache κ ν) (key : κ) (value : ν) : RecencyCache κ ν :=
  { cache with entries := cache.entries ++ [(key, value)] }

/-- The value of a key, which becomes the most recently used one if it is
there. -/
def get? (cache : RecencyCache κ ν) (key : κ) : Option ν × RecencyCache κ ν :=
  match cache.peek? key with
  | none => (none, cache)
  | some value => (some value, (cache.erase key).push key value)

/-- Stores a value under a key.  A key that is there already is replaced; a new
one makes room first if the cache is full. -/
def set (cache : RecencyCache κ ν) (key : κ) (value : ν) : RecencyCache κ ν :=
  if cache.contains key then
    (cache.erase key).push key value
  else if cache.capacity ≤ cache.size then
    cache.evictOldest.push key value
  else
    cache.push key value

end RecencyCache

end UtilityCss
