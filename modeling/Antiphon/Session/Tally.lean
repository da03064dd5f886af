/-!
# Counters of a session

The counters are words and wrap. `pending` counts the requests that were accepted and not
completed: `reserve` adds one unless the limit is reached, and `release` takes completed
ones off.
-/

namespace Antiphon

/-- What a session counts. -/
structure Tally where
  /-- Requests accepted and not completed. -/
  pending : UInt64
  /-- Frames handed to the writer. -/
  sent : UInt64
  /-- Frames cut out of the inbound stream. -/
  received : UInt64
  /-- Frames whose payload was not JSON. -/
  undecodable : UInt64
  /-- Frames that came when no request waited. -/
  unsolicited : UInt64
deriving DecidableEq, Repr

namespace Tally

/-- Nothing has happened. -/
def zero : Tally := ⟨0, 0, 0, 0, 0⟩

/-- Counts one more request, unless `limit` are already pending. -/
def reserve (tally : Tally) (limit : UInt64) : Option Tally :=
  if tally.pending < limit then some { tally with pending := tally.pending + 1 } else none

/-- Takes completed requests off. -/
def release (tally : Tally) (count : Nat) : Tally :=
  { tally with pending := tally.pending - count.toUInt64 }

/-- A reservation that is given back leaves no trace. -/
theorem release_of_reserve {tally reserved : Tally} {limit : UInt64}
    (success : tally.reserve limit = some reserved) : reserved.release 1 = tally := by
  unfold reserve at success
  split at success
  · cases success
    simp [release]
  · cases success

end Tally

end Antiphon
