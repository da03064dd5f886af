import Antiphon.IoFault
import Antiphon.Octets

/-!
# The writing side of a stream

An outlet answers calls: it takes as many of the offered octets as its limits allow,
fails, or lets the caller wait. Each of the three calls, a write, a flush and a shutdown,
can be let wait for ever. How it will answer can be changed between any two calls, so every
sequence of answers can be had from it. Faults that are armed are used up by the call that
they fail.
-/

namespace Antiphon

/-- How a write call was answered. -/
inductive WriteAnswer
  | accepted (count : Nat)
  | failed (fault : IoFault)
deriving DecidableEq, Repr

/-- The writing side of a stream. `window` octets can still be accepted, and `perCall` by one
call; absent limits are none. -/
structure Outlet where
  window : Option Nat
  perCall : Option Nat
  writeFault : Option IoFault
  acceptsNothing : Bool
  flushFault : Option IoFault
  flushHangs : Bool
  shutdownFault : Option IoFault
  shutdownHangs : Bool
deriving DecidableEq, Repr

namespace Outlet

/-- Accepts everything at once. -/
def unlimited : Outlet := ⟨none, none, none, false, none, false, none, false⟩

/-- A count under a limit, if there is one. -/
def within (limit : Option Nat) (count : Nat) : Nat :=
  match limit with
  | none => count
  | some limit => min count limit

/-- Answers a call that offers `count` octets, or lets it wait. -/
def write (outlet : Outlet) (count : Nat) : Option (WriteAnswer × Outlet) :=
  match outlet.writeFault with
  | some fault => some (.failed fault, { outlet with writeFault := none })
  | none =>
    if outlet.acceptsNothing then some (.accepted 0, outlet)
    else if outlet.window = some 0 then none
    else
      let taken := within outlet.window (within outlet.perCall count)
      some (.accepted taken, { outlet with window := outlet.window.map (· - taken) })

/-- Answers a flush, or lets it wait; a fault is not met before the wait is over. -/
def flush (outlet : Outlet) : Option (Option IoFault × Outlet) :=
  if outlet.flushHangs then none
  else some (outlet.flushFault, { outlet with flushFault := none })

/-- Answers a shutdown, or lets it wait; a fault is not met before the wait is over. -/
def shutdown (outlet : Outlet) : Option (Option IoFault × Outlet) :=
  if outlet.shutdownHangs then none
  else some (outlet.shutdownFault, { outlet with shutdownFault := none })

end Outlet

end Antiphon
