import ControlLoop.Duration
import ControlLoop.Remote

/-!
# Scripted answers

A script lists the answers to the calls of one action.  An entry may answer
several calls or all further ones, let time pass before it answers, and cancel the
run.
-/

namespace ControlLoop.Simulation

/-- One scripted answer. -/
structure Entry where
  answer : Except RemoteError Json
  /-- How many calls it answers; without a number, all further ones. -/
  uses : Option Nat := some 1
  /-- The time that passes before it answers. -/
  advance : Duration := 0
  /-- Whether it cancels the run. -/
  cancels : Bool := false

/-- The answers to the calls of one action, in order. -/
abbrev Script : Type := List Entry

namespace Script

/-- The entry that answers the next call, and the script after it. -/
def next? : Script → Option (Entry × Script)
  | [] => none
  | entry :: rest =>
      match entry.uses with
      | none => some (entry, entry :: rest)
      | some 0 => next? rest
      | some 1 => some (entry, rest)
      | some (uses + 1) => some (entry, { entry with uses := some uses } :: rest)

/-- The failure of a call that no entry answers. -/
def exhausted (action : String) : RemoteError :=
  .decode ("script exhausted for " ++ action)

end Script

end ControlLoop.Simulation
