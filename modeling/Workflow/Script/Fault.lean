import Workflow.Script.Datum
import Workflow.Script.Token

/-!
# What can go wrong

A fault is a cause at a place in the script, or a fault within the call of a function together with
the place of the call. Its text names the causes from the innermost call outwards, each with its
place. A script may catch a fault, unless the fault is one that ends the script; what it is given is
what was thrown, or a description of the fault.

## Main definitions

* `Workflow.Script.Cause`, `Workflow.Script.Fault` — causes and faults.
* `Workflow.Script.Fault.text` — the text of a fault.
* `Workflow.Script.Fault.caught?` — what a handler is given.
-/

namespace Workflow.Script

/-- The collections that have numbered places. -/
inductive Indexed where
  | array
  | text
  | bits
deriving DecidableEq, Repr

/-- Why something goes wrong. -/
inductive Cause where
  | unknownVariable (name : String)
  /-- There is no function of this name and these types of arguments. -/
  | unknownFunction (signature : String)
  | unknownModule (name : String)
  /-- There is nothing to be had, or to be changed, by an index of such a type. -/
  | unknownIndexer (signature : String)
  | mismatch (expected actual : String)
  | mismatchedOutcome (expected actual : String)
  | outOfBounds (collection : Indexed) (length : Nat) (index : Int64)
  | notIterable
  | constantChanged (name : String)
  /-- A method that changes its receiver is called on a constant. -/
  | constantMethod (name : String)
  | noReceiver
  | unknownProperty (message : String)
  | arithmetic (message : String)
  | thrown (d : Datum)
  | unreadable (message : String)
  | tooManyOperations
  | tooDeep
  | timedOut
  | cancelled

/-- A cause at a place, or a fault within a call. -/
inductive Fault where
  | plain (cause : Cause) (spot : Option Spot)
  | inCall (function : String) (inner : Fault) (spot : Option Spot)

instance : Inhabited Fault := ⟨.plain .tooDeep none⟩

/-! ### Texts -/

/-- How many there are of something. -/
def counted (n : Nat) (what : String) : String :=
  Decimal.natText n ++ " " ++ what ++ if n = 1 then "" else "s"

/-- The text of an index that a collection does not have. -/
def boundsText (collection : Indexed) (length : Nat) (index : Int64) : String :=
  let i := Decimal.intText index.toInt
  match collection with
  | .array =>
    "Array index " ++ i ++ " out of bounds: " ++
      if length = 0 then "array is empty" else "only " ++ counted length "element" ++ " in array"
  | .text =>
    "String index " ++ i ++ " out of bounds: " ++
      if length = 0 then "string is empty"
      else "only " ++ counted length "character" ++ " in string"
  | .bits =>
    "Bit-field index " ++ i ++ " out of bounds: only " ++ counted length "bit" ++ " in bit-field"

/-- The text of a cause. -/
def Cause.message : Cause → String
  | unknownVariable name => "Variable not found: " ++ name
  | unknownFunction signature => "Function not found: " ++ signature
  | unknownModule name => "Module not found: " ++ name
  | unknownIndexer signature => "Indexer unavailable: " ++ signature
  | mismatch expected actual =>
    "Data type incorrect: " ++ actual ++ " (expecting " ++ expected ++ ")"
  | mismatchedOutcome expected actual =>
    "Output type incorrect: " ++ actual ++ " (expecting " ++ expected ++ ")"
  | outOfBounds collection length index => boundsText collection length index
  | notIterable => "For loop expects iterable type"
  | constantChanged name => "Cannot modify constant: " ++ name
  | constantMethod name => "Non-pure method '" ++ name ++ "' cannot be called on constant"
  | noReceiver => "'this' not bound"
  | unknownProperty m => m
  | arithmetic m => m
  | thrown d =>
    match d with
    | .unit => "Runtime error"
    | .text "" => "Runtime error"
    | d => "Runtime error: " ++ d.reported
  | unreadable m => "Syntax error: " ++ m
  | tooManyOperations => "Too many operations"
  | tooDeep => "Stack overflow"
  | timedOut => "Script terminated"
  | cancelled => "Script terminated"

/-- A place behind a text. -/
def located (text : String) : Option Spot → String
  | some s => text ++ " (" ++ s.text ++ ")"
  | none => text

/-- The mark by which the names of closures begin. -/
def closureMark : String := "anon$"

/-- The name is that of a closure. -/
def isClosureName (name : String) : Bool := closureMark.toList.isPrefixOf name.toList

/-- The name of a call behind the text of the fault in it. -/
def callText (inner function : String) : String :=
  inner ++ if isClosureName function then "\nin closure call"
    else "\nin call to function '" ++ function ++ "'"

mutual

/-- The text of a fault with its place. -/
def Fault.text : Fault → String
  | .plain cause spot => located cause.message spot
  | .inCall function inner spot => located (callText inner.text function) spot

/-- The text of a fault without its own place. -/
def Fault.message : Fault → String
  | .plain cause _ => cause.message
  | .inCall function inner _ => callText inner.text function

end

/-! ### Places and calls -/

/-- The place of a fault. -/
def Fault.spot : Fault → Option Spot
  | plain _ spot => spot
  | inCall _ _ spot => spot

/-- The fault at a place, if it has none. -/
def Fault.at_ (place : Option Spot) : Fault → Fault
  | plain cause spot => plain cause (spot.or place)
  | inCall function inner spot => inCall function inner (spot.or place)

/-- The fault moved to a place. -/
def Fault.movedTo (place : Option Spot) : Fault → Fault
  | plain cause _ => plain cause place
  | inCall function inner _ => inCall function inner place

/-- The cause in the innermost call. -/
def Fault.innermost : Fault → Cause × Option Spot
  | plain cause spot => (cause, spot)
  | inCall _ inner _ => inner.innermost

/-- A fault with such a cause is that of the whole script and of no function in it. -/
def Cause.isOverall : Cause → Bool
  | unreadable _ => true
  | tooManyOperations => true
  | tooDeep => true
  | timedOut => true
  | cancelled => true
  | _ => false

/-- The fault as it leaves a function of a script. -/
def Fault.leaving (function : String) (call : Option Spot) : Fault → Fault
  | plain cause spot =>
    if cause.isOverall then plain cause call else inCall function (plain cause spot) call
  | inCall f inner spot => inCall function (inCall f inner spot) call

/-- The fault can be caught. -/
def Fault.isCatchable : Fault → Bool
  | plain cause _ => !cause.isOverall
  | inCall _ _ _ => true

/-! ### Descriptions -/

/-- The kind of a cause. -/
def Cause.kind : Cause → String
  | unknownVariable _ => "ErrorVariableNotFound"
  | unknownFunction _ => "ErrorFunctionNotFound"
  | unknownModule _ => "ErrorModuleNotFound"
  | unknownIndexer _ => "ErrorIndexingType"
  | mismatch _ _ => "ErrorMismatchDataType"
  | mismatchedOutcome _ _ => "ErrorMismatchOutputType"
  | outOfBounds .array _ _ => "ErrorArrayBounds"
  | outOfBounds .text _ _ => "ErrorStringBounds"
  | outOfBounds .bits _ _ => "ErrorBitFieldBounds"
  | notIterable => "ErrorFor"
  | constantChanged _ => "ErrorAssignmentToConstant"
  | constantMethod _ => "ErrorNonPureMethodCallOnConstant"
  | noReceiver => "ErrorUnboundThis"
  | unknownProperty _ => "ErrorDotExpr"
  | arithmetic _ => "ErrorArithmetic"
  | thrown _ => "ErrorRuntime"
  | unreadable _ => "ErrorParsing"
  | tooManyOperations => "ErrorTooManyOperations"
  | tooDeep => "ErrorStackOverflow"
  | timedOut => "ErrorTerminated"
  | cancelled => "ErrorTerminated"

/-- What is said of a cause beside its text. -/
def Cause.details : Cause → List (String × Datum)
  | unknownVariable name => [("variable", .text name)]
  | unknownFunction signature => [("function", .text signature)]
  | unknownModule name => [("module", .text name)]
  | unknownIndexer signature => [("type", .text signature)]
  | mismatch expected actual => [("requested", .text expected), ("actual", .text actual)]
  | mismatchedOutcome expected actual => [("requested", .text expected), ("actual", .text actual)]
  | outOfBounds _ length index => [("length", .int (Int64.ofNat length)), ("index", .int index)]
  | constantChanged name => [("variable", .text name)]
  | constantMethod name => [("function", .text name)]
  | unknownProperty m => [("property", .text m)]
  | _ => []

/-- What is said of a place. -/
def placeFields : Option Spot → List (String × Datum)
  | some s => [("line", .int (Int64.ofNat s.line)), ("position", .int (Int64.ofNat s.column))]
  | none => []

/-- The description of a fault. -/
def Fault.description (f : Fault) : Datum :=
  let details := match f with
    | plain cause _ => ("error", .text cause.kind) :: cause.details
    | inCall function _ _ =>
      [("error", .text "ErrorInFunctionCall"), ("function", .text function), ("source", .text "")]
  .ofBindings (("message", .text f.message) :: placeFields f.spot ++ details)

/-- What a handler is given of a fault, if it can be caught: what was thrown, or a description. -/
def Fault.caught? (f : Fault) : Option Datum :=
  if !f.isCatchable then none
  else match f.innermost.1 with
    | .thrown d => some d
    | _ => some f.description

end Workflow.Script
