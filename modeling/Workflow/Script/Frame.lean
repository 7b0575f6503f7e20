import Workflow.Script.Items
import Workflow.Script.Simplify

/-!
# Calls and walks

What a function is called on and what it sees, and what becomes of a datum that a chain of links is
followed through. Such a walk may change parts of the datum before it fails, and they stay changed.

A function sees its parameters, the first of which may share their data with variables, and what it
is called on. It is found by its name and the number of its parameters; one that is made for the
type of what it is called on goes before one that is made for any type.

## Main definitions

* `Workflow.Script.Receiver` — what a function is called on.
* `Workflow.Script.Machine.function?`, `Workflow.Script.Machine.method?` — functions by their names.
* `Workflow.Script.Step`, `Workflow.Script.Walk` — links with their arguments, and walks.
-/

namespace Workflow.Script

/-- What a function is called on. -/
structure Receiver where
  datum : Datum
  /-- The cell that it is in. -/
  cell : Option Nat
  /-- It cannot be changed. -/
  isFixed : Bool

/-- A datum that is held nowhere. -/
def Receiver.ofDatum (d : Datum) : Receiver := ⟨d, none, false⟩

/-- The variable under which a function finds what it is called on. -/
def Receiver.variable (r : Receiver) : Variable :=
  ⟨thisName, r.isFixed, match r.cell with
    | some cell => .inr cell
    | none => .inl r.datum⟩

/-- The variables of a function when its call begins, the last parameter nearest. -/
def frameOf (f : FunctionDef) (cells : List Nat) (args : List Datum) (this : Option Receiver) :
    List Variable :=
  let contents : List (Datum ⊕ Nat) := cells.map .inr ++ args.map .inl
  ((f.parameters.zip contents).map fun (n, c) => (⟨n, false, c⟩ : Variable)).reverse ++
    this.toList.map Receiver.variable

/-- The function of a name with a number of parameters that is made for a type, or for any. -/
def Machine.functionFor? (m : Machine) (receiver : Option String) (name : String) (arity : Nat) :
    Option FunctionDef :=
  m.functions.find? fun f =>
    f.name == name && f.parameters.length == arity && f.receiver == receiver

/-- The function of a name with a number of parameters. -/
def Machine.function? (m : Machine) (name : String) (arity : Nat) : Option FunctionDef :=
  m.functionFor? none name arity

/-- The function of a name that is called on a datum, with a number of parameters. -/
def Machine.method? (m : Machine) (d : Datum) (name : String) (arity : Nat) : Option FunctionDef :=
  (m.functionFor? (some d.typeName) name arity).or (m.function? name arity)

/-- The number of parameters of a closure that are not given yet. -/
def Machine.openParameters? (m : Machine) : Datum → Option Nat
  | .function name cells given =>
    if isClosureName name then
      (m.functions.find? (·.name == name)).map fun f =>
        f.parameters.length - cells.length - given.length
    else none
  | _ => none

/-! ### Walks -/

/-- A link with its index or its arguments. -/
inductive Step where
  | property (name : String) (joint : Joint)
  | item (index : Datum) (joint : Joint)
  /-- A method with its arguments and the place of the first one. -/
  | method (name : String) (args : List Datum) (first : Spot) (joint : Joint)

/-- The place of a step. -/
def Step.joint : Step → Joint
  | property _ j => j
  | item _ j => j
  | method _ _ _ j => j

/-- The step calls a method. -/
def Step.isCall : Step → Bool
  | method _ _ _ _ => true
  | _ => false

/-- What is assigned at the end of a chain, with an operator perhaps, and the place of that. -/
structure Assignment where
  operator : Option BinaryOp
  value : Datum
  spot : Spot

/-- What a walk along a chain is for. -/
structure Purpose where
  assigned : Option Assignment
  /-- The variable at the beginning of the chain. -/
  name : String
  spot : Spot

/-- How a walk from a datum ends. -/
structure Walk where
  outcome : Except Signal Datum
  /-- The datum, if it has been changed. -/
  left : Option Datum
  /-- It has been changed by an assignment or a function that does so. -/
  isUpdated : Bool

namespace Walk

/-- A walk that comes to a datum. -/
def reaching (d : Datum) : Walk := ⟨.ok d, none, false⟩

/-- A walk that ends early. -/
def failed (s : Signal) : Walk := ⟨.error s, none, false⟩

/-- A walk that assigns a datum. -/
def assigning (d : Datum) : Walk := ⟨.ok .unit, some d, true⟩

/-- The walk from what the datum is a part of. -/
def within (whole : Datum → Datum) (w : Walk) : Walk := { w with left := w.left.map whole }

/-- The walk from a datum that is held nowhere, followed from another one. -/
def elsewhere (w : Walk) : Walk := { w with left := none }

/-- A walk that may end early at each step. -/
def guarded (x : Act Walk) : Act Walk := do
  match ← observe x with
  | .ok w => pure w
  | .error s => pure (failed s)

end Walk

/-- A truth value. -/
def truth (d : Datum) (spot : Spot) : Act Bool :=
  match d with
  | .bool b => pure b
  | d => trouble (.mismatch "bool" d.typeName) spot

/-- A text. -/
def textOf (d : Datum) (spot : Spot) : Act String :=
  match d with
  | .text s => pure s
  | d => trouble (.mismatch "string" d.typeName) spot

/-- A datum with an operator applied in an assignment. The operators on truth values and numbers
make no operation of their own. -/
def update (op : BinaryOp) (a b : Datum) (spot : Spot) : Act Datum := do
  let quick := match a, b with
    | .bool _, .bool _ => true
    | .int _, .int _ => true
    | .float _, .float _ => true
    | .float _, .int _ => true
    | _, _ => false
  if quick then settle spot (Datum.apply op a b)
  else
    tick spot
    match Datum.into? op a b with
    | some d => pure d
    | none =>
      tick spot
      settle spot (Datum.apply op a b)

/-- A datum with something assigned to it as a whole. -/
def assignTo (p : Purpose) (a : Assignment) (d : Datum) (isFixed : Bool) : Act Datum :=
  if isFixed then trouble (.constantChanged p.name) p.spot
  else
    match a.operator with
    | none => pure a.value
    | some op => update op d a.value a.spot

/-- The items that a loop goes through one by one, or numbers. -/
inductive Source where
  | items (ds : List Datum)
  | numbers (first : Int) (count : Nat)
  | stream (s : Stream)

/-- The items of a datum, if it has some. -/
def Source.ofDatum? : Datum → Option Source
  | .array ds => some (items ds)
  | .blob bytes => some (items (bytes.map ofByte))
  | .text s => some (stream (.characters s.toList))
  | .range a b i => some (numbers a.toInt (rangeLength a b i))
  | .stream s => some (stream s)
  | _ => none

/-- The next item, and what is behind it. -/
def Source.next? : Source → Option (Datum × Source)
  | items [] => none
  | items (d :: ds) => some (d, items ds)
  | numbers _ 0 => none
  | numbers n (count + 1) => some (.int (Int64.ofInt n), numbers (n + 1) count)
  | stream s => s.next?.map fun (i, rest) => (Datum.ofStreamItem i, stream rest)

end Workflow.Script
