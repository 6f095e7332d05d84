import UtilityCss.Decimal.Shortest
import UtilityCss.Settings.Field

/-!
# The state of a cache in numbers
-/

namespace UtilityCss

open Decimal

structure CacheStatus where
  size : Int
  capacity : Int
  hits : Int
  misses : Int
deriving DecidableEq, Repr

namespace CacheStatus

/-- The part of all lookups that were hits, zero before the first lookup. -/
def hitRate (status : CacheStatus) : Binary64 :=
  let total := status.hits + status.misses
  if 0 < total then Binary64.ofSigned status.hits total.toNat
  else Binary64.zeroNumber false

/-- The hit rate with six places, if it is within reach. -/
def hitRateText? (status : CacheStatus) : Option String :=
  if status.hitRate.isFinite then some (status.hitRate.fixedText 6) else none

/-- What is said about a hit rate out of reach. -/
def unreachable : String := "integer division result too large for a float"

/-- The status with the given fields, the others zero. -/
def ofFields (field? : String → Option Value) : Except Invalid CacheStatus :=
  let read (name : String) := Field.orDefault Field.integer 0 (field? name)
  match read "size", read "capacity", read "hits", read "misses" with
  | Except.ok size, Except.ok capacity, Except.ok hits, Except.ok misses =>
      Except.ok ⟨size, capacity, hits, misses⟩
  | _, _, _, _ =>
      Except.error ⟨"CacheStatus",
        ["size", "capacity", "hits", "misses"].filterMap fun name =>
          Field.complaint? name (read name)⟩

end CacheStatus

end UtilityCss
