import Workflow.Json.Parser
import Workflow.Value.Basic
import Workflow.Text.Blank

/-!
# Variables on the command line

A variable is given as a key and a value with an equals sign between them. A value that is a
document is read as one, and any other value is a text.

## Main definitions

* `Workflow.Variable.ofText` — the key and the value that a text gives.
-/

namespace Workflow.Variable

/-- Why a text gives no variable. -/
inductive Malformed where
  /-- There is no equals sign. -/
  | noValue (raw : String)
  /-- Nothing stands before the equals sign. -/
  | noKey (raw : String)
deriving DecidableEq, Repr

/-- The text of why a text gives no variable. -/
def Malformed.message : Malformed → String
  | noValue raw => "invalid --var '" ++ raw ++ "': expected KEY=VALUE"
  | noKey raw => "invalid --var '" ++ raw ++ "': key is empty"

/-- The value that a text gives. -/
def valueOf (s : String) : Value :=
  match Json.parse s with
  | some j => .ofJson j
  | none => .text s

/-- The key and the value that a text gives, around its first equals sign. -/
def ofText (raw : String) : Except Malformed (String × Value) :=
  let key := Text.trim (String.ofList (raw.toList.takeWhile (· ≠ '=')))
  match raw.toList.dropWhile (· ≠ '=') with
  | [] => .error (.noValue raw)
  | _ :: value => if key = "" then .error (.noKey raw) else .ok (key, valueOf (String.ofList value))

end Workflow.Variable
