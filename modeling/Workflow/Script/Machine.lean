import Workflow.Event.Basic
import Workflow.Script.Library

/-!
# The state of a script

A script changes a machine: its variables, what it has logged and resolved to, the operations that
it has made and the time that it has slept. An action on the machine comes to a value or to a signal
that leaves the place where it stands; what was done before a signal stays done.

## Main definitions

* `Workflow.Script.Signal` — why an action is left.
* `Workflow.Script.Machine`, `Workflow.Script.Act` — the machine, and actions on it.
* `Workflow.Script.tick` — counts an operation.
* `Workflow.Script.outward?` — the functions that act on the surroundings of a script.
-/

namespace Workflow.Script

/-- What bounds a script. -/
structure Bounds where
  /-- The milliseconds that it may take. -/
  time : Option Nat
  /-- The operations that it may make. -/
  operations : Option Nat
  isCancelled : Bool

/-- Why an action is left before its end. -/
inductive Signal where
  | fault (f : Fault)
  | returned (d : Datum)
  | broken (d : Datum)
  | continued
  /-- The script is left as a whole. -/
  | exited (d : Datum)

instance : Inhabited Signal := ⟨.continued⟩

/-- A variable: its datum, or the number of the cell that it shares with functions. -/
structure Variable where
  name : String
  isConstant : Bool
  content : Datum ⊕ Nat

/-- A datum that variables share. -/
structure Cell where
  datum : Datum
  isConstant : Bool
deriving Inhabited

/-- The state of a script. -/
structure Machine where
  bounds : Bounds
  /-- The variables in sight, the nearest first. -/
  vars : List Variable
  cells : Array Cell
  /-- The constants that functions see as well. -/
  globals : List (String × Datum)
  functions : List FunctionDef
  log : Array (LogLevel × String)
  settled : Option Datum
  /-- The operations that count against the bound. -/
  operations : Nat
  /-- All operations. -/
  spent : Nat
  slept : Nat
  /-- How many functions are being called. -/
  depth : Nat
  /-- How many blocks are open. -/
  nesting : Nat

/-- An action on the machine. -/
abbrev Act := ExceptT Signal (StateM Machine)

/-- An action that ends with a fault. -/
def raise {α : Type} (f : Fault) : Act α := throw (.fault f)

/-- An action that ends with a cause at a place. -/
def trouble {α : Type} (c : Cause) (spot : Spot) : Act α := raise (.plain c (some spot))

/-- The value of an operator or a function. -/
def settle {α : Type} (spot : Spot) : Except Cause α → Act α
  | .ok a => pure a
  | .error c => trouble c spot

/-- An action together with how it ends. -/
def observe {α : Type} (x : Act α) : Act (Except Signal α) := fun m =>
  let (r, m) := x.run m
  (.ok r, m)

/-- How an action has ended. -/
def conclude {α : Type} : Except Signal α → Act α
  | .ok a => pure a
  | .error s => throw s

/-- A signal with its fault changed. -/
def Signal.mapFault (g : Fault → Fault) : Signal → Signal
  | fault f => fault (g f)
  | s => s

/-- The outcome of an action with its fault changed. -/
def mapFault {α : Type} (g : Fault → Fault) (r : Except Signal α) : Except Signal α :=
  r.mapError (Signal.mapFault g)

/-- An action whose faults stand at a place if they have none. -/
def placed {α : Type} (spot : Spot) (x : Act α) : Act α := do
  conclude (mapFault (Fault.at_ (some spot)) (← observe x))

/-! ### Bounds -/

/-- The operations that take a millisecond. -/
def operationsPerMillisecond : Nat := 1000

/-- The operations after which the time of a script is up in any case. -/
def mostOperations : Nat := 5000000

/-- The time of a script is up. -/
def Machine.isLate (m : Machine) : Bool :=
  match m.bounds.time with
  | some limit =>
    limit ≤ m.slept + m.spent / operationsPerMillisecond || mostOperations ≤ m.spent
  | none => false

/-- Counts an operation, which the bounds may forbid. -/
def tick (spot : Spot) : Act Unit := do
  let m ← get
  let m := { m with operations := m.operations + 1, spent := m.spent + 1 }
  set m
  match m.bounds.operations with
  | some most => if most < m.operations then trouble .tooManyOperations spot
  | none => pure ()
  if m.bounds.isCancelled then trouble .cancelled spot
  else if m.isLate then trouble .timedOut spot

/-- An action whose operations do not count any longer when it is over, one level further down. -/
def apart {α : Type} (x : Act α) : Act α := do
  let m ← get
  set { m with depth := m.depth + 1 }
  let r ← observe x
  modify fun n => { n with operations := m.operations, depth := m.depth }
  conclude r

/-- An action one level further down. -/
def further {α : Type} (x : Act α) : Act α := do
  let depth := (← get).depth
  modify fun m => { m with depth := depth + 1 }
  let r ← observe x
  modify fun m => { m with depth := depth }
  conclude r

/-- Lets time pass, but none beyond the bound. -/
def sleep (ms : Nat) : Act Unit := do
  let m ← get
  if m.bounds.isCancelled then pure ()
  else
    let slept := match m.bounds.time with
      | some limit => max m.slept (min limit (m.slept + ms))
      | none => m.slept + ms
    set { m with slept := slept }

/-! ### Variables -/

/-- The name under which a function finds what it is called on. -/
def thisName : String := "this"

/-- The datum of a variable. -/
def Machine.datum (m : Machine) (v : Variable) : Datum :=
  match v.content with
  | .inl d => d
  | .inr cell => (m.cells.getD cell default).datum

/-- The variable cannot be changed; what is shared is a constant as a whole. -/
def Machine.isFixed (m : Machine) (v : Variable) : Bool :=
  match v.content with
  | .inl _ => v.isConstant
  | .inr cell => (m.cells.getD cell default).isConstant

/-- The nearest variable of a name. -/
def Machine.nearest? (m : Machine) (name : String) : Option Variable :=
  m.vars.find? (·.name == name)

/-- The datum of the nearest variable of a name. -/
def Machine.value? (m : Machine) (name : String) : Option Datum :=
  (m.nearest? name).map m.datum

/-- Variables with the nearest one of a name holding a datum or sharing a cell. -/
def holding (name : String) (content : Datum ⊕ Nat) : List Variable → List Variable
  | [] => []
  | v :: rest =>
    if v.name = name then { v with content := content } :: rest
    else v :: holding name content rest

/-- The machine with a datum in a cell. -/
def Machine.fill (m : Machine) (cell : Nat) (d : Datum) : Machine :=
  { m with cells := m.cells.modify cell fun c => { c with datum := d } }

/-- The machine with a datum in the nearest variable of a name. -/
def Machine.store (m : Machine) (name : String) (d : Datum) : Machine :=
  match (m.nearest? name).map Variable.content with
  | some (.inr cell) => m.fill cell d
  | _ => { m with vars := holding name (.inl d) m.vars }

/-- The nearest variable of a name. -/
def findVariable (name : String) (spot : Spot) : Act Variable := do
  match (← get).nearest? name with
  | some v => pure v
  | none => trouble (if name = thisName then .noReceiver else .unknownVariable name) spot

/-- The datum of a variable. -/
def readVariable (name : String) (spot : Spot) : Act Datum := do
  let v ← findVariable name spot
  pure ((← get).datum v)

/-- Puts a datum into a variable, whatever it is. -/
def storeVariable (name : String) (d : Datum) : Act Unit := modify fun m => m.store name d

/-- Defines a variable. -/
def declare (name : String) (isConstant : Bool) (content : Datum ⊕ Nat) : Act Unit :=
  modify fun m => { m with vars := ⟨name, isConstant, content⟩ :: m.vars }

/-- An action whose variables are gone afterwards. -/
def enclosed {α : Type} (x : Act α) : Act α := do
  let m ← get
  set { m with nesting := m.nesting + 1 }
  let r ← observe x
  modify fun n =>
    { n with vars := n.vars.drop (n.vars.length - m.vars.length), nesting := m.nesting }
  conclude r

/-- The cell of the nearest variable of a name, which is moved there if it has none. -/
def shareVariable (name : String) (spot : Spot) : Act Nat := do
  let v ← findVariable name spot
  match v.content with
  | .inr cell => pure cell
  | .inl d => do
    let m ← get
    let cell := m.cells.size
    set { m with vars := holding name (.inr cell) m.vars, cells := m.cells.push ⟨d, v.isConstant⟩ }
    pure cell

/-- A variable shares its datum with functions. -/
def isShared (name : String) : Act Bool := do
  pure (((← get).nearest? name).any fun v => v.content matches .inr _)

/-! ### Functions of the surroundings -/

/-- Adds to the log. -/
def report (level : LogLevel) (text : String) : Act Unit :=
  modify fun m => { m with log := m.log.push (level, text) }

/-- Settles what the script comes to, unless it is settled. -/
def resolve (d : Datum) : Act Unit :=
  modify fun m => { m with settled := some (m.settled.getD d) }

/-- The milliseconds of a number of seconds. -/
def millisecondsOf (seconds : Float) : Nat :=
  if 0.0 < seconds then (seconds * 1000.0).toUInt64.toNat else 0

/-- The seconds that have passed since a moment. -/
def elapsedSince (t : Int) : Act Datum := do
  let passed : Int := (← get).slept - t
  if passed < 0 then raise (.plain (.arithmetic "Time-stamp is later than now") none)
  else pure (.float (Float.ofInt passed / 1000.0))

/-- The functions that act on the surroundings of a script. -/
def outward? (name : String) (args : List Datum) : Option (Act Datum) :=
  let done (x : Act Unit) : Option (Act Datum) := some do
    x
    pure Datum.unit
  match name, args with
  | "print", [d] => done (report .info d.plain)
  | "print", [] => done (report .info "")
  | "debug", [d] => done (report .debug d.marked)
  | "debug", [] => done (report .debug "")
  | "log", [.float _] => none
  | "log", [d] => done (report .info d.reported)
  | "warn", [d] => done (report .warn d.reported)
  | "error", [d] => done (report .error d.reported)
  | "resolve", [d] => done (resolve d)
  | "resolve", [] => done (resolve .unit)
  | "reject", [d] => some (raise (.plain (.thrown d) none))
  | "sleep", [.int n] => done (sleep (lengthOf n))
  | "sleep", [.float x] => done (sleep (millisecondsOf x))
  | "exit", [] => some (throw (.exited .unit))
  | "exit", [d] => some (throw (.exited d))
  | "timestamp", [] => some do
    pure (.moment (← get).slept)
  | "elapsed", [.moment t] => some (elapsedSince t)
  | _, _ => none

end Workflow.Script
