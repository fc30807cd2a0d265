import Wordweave.Wire.Filter
import Wordweave.Wire.Carrier
import Wordweave.Node

/-!
# Wordweave — lookups as bytes

A lookup is its table and its form, either of which may be absent, whether it is exclusive, its
filters, and its carrier behind a truth value that tells whether there is one.
-/

namespace Wordweave.Wire

/-- Writes a carrier that may be absent. -/
def writeCarrier? : Option Carrier → Except Error Bytes
  | some c => do return writeBool true ++ (← writeCarrier c)
  | none => return writeBool false

/-- Writes a lookup. -/
def writeLookup (q : Lookup) : Except Error Bytes := do
  let name ← writeText? q.name
  let subtype ← writeText? q.subtype
  let filters ← writeList writeFilter q.filters
  return name ++ subtype ++ writeBool q.exclusive ++ filters ++ (← writeCarrier? q.carrier)

/-- Reads a carrier that may be absent. -/
def readCarrier? : Reader (Option Carrier) := do
  if ← readBool then return some (← readCarrier) else return none

/-- Reads a lookup; filters of unknown kinds are dropped. -/
def readLookup : Reader Lookup := do
  let name ← readText?
  let subtype ← readText?
  let exclusive ← readBool
  let filters ← readList readFilter
  let carrier ← readCarrier?
  return ⟨name, subtype, exclusive, filters.filterMap id, carrier⟩

end Wordweave.Wire
