import Antiphon.IoFault
import Antiphon.Octets

/-!
# The reading side of a stream

An inlet holds what has arrived and was not read: chunks, the end of the stream, and
faults. A read never crosses from one chunk into the next, and the end stays.
-/

namespace Antiphon

/-- What can arrive. -/
inductive Arrival
  | chunk (octets : Octets)
  | finish
  | fault (fault : IoFault)
deriving DecidableEq

/-- What has arrived, earliest first. -/
abbrev Inlet := List Arrival

namespace Inlet

/-- Adds an arrival; a chunk without octets is none. -/
def deliver (inlet : Inlet) : Arrival → Inlet
  | .chunk [] => inlet
  | arrival => inlet ++ [arrival]

/-- Reads at most `capacity` octets of what arrived first; answers `none` if nothing did. -/
def read (inlet : Inlet) (capacity : Nat) : Option (Arrival × Inlet) :=
  match inlet with
  | [] => none
  | .chunk octets :: rest =>
    match octets.splitAt capacity with
    | (front, []) => some (.chunk front, rest)
    | (front, back) => some (.chunk front, .chunk back :: rest)
  | .finish :: rest => some (.finish, .finish :: rest)
  | .fault fault :: rest => some (.fault fault, rest)

/-- A measure of what is left to read. -/
def load (inlet : Inlet) : Nat :=
  inlet.foldl (fun total arrival => total + match arrival with
    | .chunk octets => octets.length + 1
    | .finish | .fault _ => 1) 0

end Inlet

end Antiphon
