import Workflow.Event.Basic

/-!
# What scripts come to

A script is given the variables of a run and comes to a result with the variables as it left them,
or to an error.
-/

namespace Workflow

/-- A time in milliseconds in words: whole milliseconds below a second, seconds with a decimal
fraction from there on. -/
def durationText (ms : Nat) : String :=
  if ms = 0 then "0ns"
  else if ms < 1000 then Decimal.natText ms ++ "ms"
  else
    let fraction := (Nat.toDigits 10 (1000 + ms % 1000)).tail.reverse.dropWhile (· = '0')
    let tail := if fraction = [] then "" else "." ++ String.ofList fraction.reverse
    Decimal.natText (ms / 1000) ++ tail ++ "s"

/-- What a script comes to when it succeeds. -/
structure ScriptOutcome where
  /-- The value it resolved to, or that of its last expression. -/
  result : Value
  /-- The variables as it left them. -/
  vars : Bindings Value

/-- Why a script does not succeed. -/
inductive ScriptError where
  /-- It has rejected, or raised an error. -/
  | rejected (reason : String)
  /-- It has taken longer than its limit in milliseconds. -/
  | timedOut (limit : Nat)
  | cancelled
  | disabled
  /-- It cannot be run, or has left something that cannot be taken back. -/
  | unusable (reason : String)
deriving DecidableEq, Repr

/-- The text of why a script does not succeed. -/
def ScriptError.message : ScriptError → String
  | rejected r => "script rejected: " ++ r
  | timedOut limit => "script timed out after " ++ durationText limit
  | cancelled => "script cancelled"
  | disabled => "script execution is disabled"
  | unusable r => "script engine error: " ++ r

end Workflow
