import Workflow.Script.Frame
import Workflow.Script.Parser

/-!
# Evaluating scripts

Expressions, statements and calls as actions on the machine. The links behind an operand are
followed one by one, after their indices and arguments have been evaluated from left to right; a
part that is changed on the way is put back into what it is a part of. A function sees its
parameters and what it is called on, and nothing else unless it is called with the variables in
sight. What takes a truth value takes nothing else for one.

Evaluation goes down with a fuel; each repetition of a loop takes some of it.

## Main definitions

* `Workflow.Script.eval`, `Workflow.Script.exec` — the values of expressions and statements.
* `Workflow.Script.walk` — the value at the end of a chain.
* `Workflow.Script.answer` — the value of a function.
-/

namespace Workflow.Script

/-- The calls of functions that may be open within one another. -/
def deepestCall : Nat := 8

/-- The module in which the constants of a script are found. -/
def ownModule : String := "global"

/-- The text of a path to a name in a module. -/
def pathText (path : List String) : String := "::".intercalate path

/-- The text for functions that are defined where none may be. -/
def misplacedFunctions : String :=
  "Function definitions must be at global level and cannot be inside a block or another function"

/-- An evaluation that goes deeper than any script can. -/
def outOfFuel {α : Type} : Act α := trouble .tooManyOperations ⟨1, 1⟩

/-- The value of a variable or a function of a module. -/
def foreignValue (path : List String) (name : String) (isCall : Bool) (spot : Spot) :
    Act Datum := do
  if path = [ownModule] ∧ !isCall then
    match (← get).globals.lookup name with
    | some d => pure d
    | none => trouble (.unknownVariable (pathText [ownModule, name])) spot
  else trouble (.unknownModule (pathText path)) spot

/-- Defines a variable; the constants at the top of a script with functions are seen by them. -/
def define (name : String) (isConstant : Bool) (d : Datum) : Act Unit := do
  declare name isConstant (.inl d)
  modify fun m =>
    if isConstant && m.nesting == 0 && !m.functions.isEmpty then
      { m with globals := (name, d) :: m.globals }
    else m

/-- What a walk leaves of a variable is put into it, and its outcome is that of the walk. -/
def settleWalk (name : String) (w : Walk) : Act Datum := do
  match w.left with
  | some d => storeVariable name d
  | none => pure ()
  conclude w.outcome

/-- A change of what a function is called on. -/
def changing (r : Receiver) (value : Datum) (receiver : Option Datum) : Act Walk := do
  match r.cell, receiver with
  | some cell, some d =>
    modify fun m => m.fill cell d
    pure (.reaching value)
  | _, receiver => pure ⟨.ok value, receiver, receiver.isSome⟩

/-- The datum that a handler gets of a signal, if it may. -/
def Signal.caught? : Signal → Option (Fault × Datum)
  | .fault f => f.caught?.map (f, ·)
  | _ => none

/-- A fault that a handler does not handle but raises again. -/
def rethrown (f : Fault) : Signal → Signal
  | .fault (.plain (.thrown .unit) spot) => .fault (f.movedTo spot)
  | s => s

/-- How the body of a loop ends: the loop may go on, or is left with a datum. -/
def turned (x : Act Datum) : Act (Option Datum) := do
  match ← observe x with
  | .ok _ => pure none
  | .error .continued => pure none
  | .error (.broken d) => pure (some d)
  | .error s => throw s

mutual

/-- The value of an expression, which counts as an operation. -/
def eval (fuel : Nat) (e : Expr) : Act Datum :=
  match fuel with
  | 0 => outOfFuel
  | fuel + 1 => do
    tick e.spot
    valueOf fuel e

/-- The values of expressions, from left to right. -/
def evalAll (fuel : Nat) (es : List Expr) : Act (List Datum) :=
  match fuel with
  | 0 => outOfFuel
  | fuel + 1 =>
    match es with
    | [] => pure []
    | e :: rest => do
      let d ← eval fuel e
      let ds ← evalAll fuel rest
      pure (d :: ds)

/-- The value of an expression, apart from the operation that it counts as. -/
def valueOf (fuel : Nat) (e : Expr) : Act Datum :=
  match fuel with
  | 0 => outOfFuel
  | fuel + 1 =>
    match e with
    | .constant d _ => pure d
    | .variable name spot => readVariable name spot
    | .this spot => readVariable thisName spot
    | .foreign path name args spot => do
      let _ ← evalAll fuel (args.getD [])
      foreignValue path name args.isSome spot
    | .template parts _ => do
      let ds ← evalAll fuel parts
      pure (.text (String.join (ds.map Datum.reported)))
    | .arrayOf items _ => Datum.array <$> evalAll fuel items
    | .mapOf fields _ => do
      let ds ← evalAll fuel (fields.map (·.2))
      pure (.ofBindings ((fields.map (·.1)).zip ds))
    | .both operands _ => connected fuel true operands
    | .either operands _ => connected fuel false operands
    | .coalesce operands _ => firstThere fuel operands
    | .binary op a b spot => do
      let x ← eval fuel a
      let y ← eval fuel b
      match Datum.atOnce? op x y with
      | some r => settle spot r
      | none => do
        tick spot
        settle spot (Datum.apply op x y)
    | .unary op a spot => do
      match op, ← eval fuel a with
      | .not, .bool b => pure (.bool !b)
      | op, d => do
        tick spot
        settle spot (Datum.applyUnary op d)
    | .call name style args spot => callByName fuel name style args spot
    | .chain root links => chain fuel root links none
    | .closure name captured spot => do
      tick spot
      let cells ← captured.mapM fun (name, spot) => shareVariable name spot
      tick spot
      tick spot
      let _ ← captured.mapM fun (_, spot) => tick spot
      pure (.function name cells [])
    | .perform body _ => enclosed (execAll fuel body)

/-- The first operand that is not as wanted decides, or else none does. -/
def connected (fuel : Nat) (wanted : Bool) (operands : List Expr) : Act Datum :=
  match fuel with
  | 0 => outOfFuel
  | fuel + 1 =>
    match operands with
    | [] => pure (.bool wanted)
    | e :: rest => do
      let b ← truth (← eval fuel e) e.spot
      if b == wanted then connected fuel wanted rest else pure (.bool b)

/-- The value of the first operand that is not nothing, or of the last one. -/
def firstThere (fuel : Nat) (operands : List Expr) : Act Datum :=
  match fuel with
  | 0 => outOfFuel
  | fuel + 1 =>
    match operands with
    | [] => pure .unit
    | e :: rest => do
      match ← eval fuel e with
      | .unit => firstThere fuel rest
      | d => pure d

/-- The steps of links, with their indices and arguments evaluated. -/
def stepsOf (fuel : Nat) (links : List Link) : Act (List Step) :=
  match fuel with
  | 0 => outOfFuel
  | fuel + 1 =>
    match links with
    | [.property name joint] => pure [.property name joint]
    | [.method name [] joint] => pure [.method name [] joint.spot joint]
    | [.item index joint] =>
      match index.value? with
      | some d => pure [.item d joint]
      | none => stepByStep fuel [.item index joint]
    | links => stepByStep fuel links

/-- The steps of links, each of which counts as an operation. -/
def stepByStep (fuel : Nat) (links : List Link) : Act (List Step) :=
  match fuel with
  | 0 => outOfFuel
  | fuel + 1 =>
    match links with
    | [] => pure []
    | link :: rest => do
      tick link.joint.spot
      let step ← match link with
        | .property name joint => pure (Step.property name joint)
        | .item index joint => do
          let d ← eval fuel index
          pure (Step.item d joint)
        | .method name args joint => do
          let ds ← evalAll fuel args
          pure (Step.method name ds (startOf args joint.spot) joint)
      let steps ← stepByStep fuel rest
      pure (step :: steps)

/-- The value at the end of a chain, or an assignment to it. -/
def chain (fuel : Nat) (root : Expr) (links : List Link) (assigned : Option Assignment) :
    Act Datum :=
  match fuel with
  | 0 => outOfFuel
  | fuel + 1 => do
    let steps ← stepsOf fuel links
    match root with
    | .variable name spot => follow fuel name spot steps assigned
    | .this spot => follow fuel thisName spot steps assigned
    | e => do
      let d ← eval fuel e
      let w ← walk fuel ⟨assigned, "", e.start⟩ steps (.ofDatum d)
      conclude w.outcome

/-- The value at the end of steps from a variable, or an assignment to it. -/
def follow (fuel : Nat) (name : String) (spot : Spot) (steps : List Step)
    (assigned : Option Assignment) : Act Datum :=
  match fuel with
  | 0 => outOfFuel
  | fuel + 1 => do
    tick spot
    let v ← findVariable name spot
    let m ← get
    let cell := match v.content with
      | .inl _ => none
      | .inr cell => some cell
    let w ← walk fuel ⟨assigned, name, spot⟩ steps ⟨m.datum v, cell, m.isFixed v⟩
    settleWalk name w

/-- The walk along steps from a datum. -/
def walk (fuel : Nat) (p : Purpose) (steps : List Step) (r : Receiver) : Act Walk :=
  match fuel with
  | 0 => outOfFuel
  | fuel + 1 => Walk.guarded do
    match steps with
    | [] =>
      match p.assigned with
      | none => pure (.reaching r.datum)
      | some a => do
        let d ← assignTo p a r.datum r.isFixed
        pure (.assigning d)
    | step :: rest =>
      match step.joint.lenient, r.datum with
      | true, .unit => pure (.reaching .unit)
      | _, d =>
        match step, d with
        | .property name joint, .map fields => walkField fuel p rest fields name r.isFixed joint
        | .item (.text name) joint, .map fields => walkField fuel p rest fields name r.isFixed joint
        | .property name joint, d => walkProperty fuel p rest d name joint
        | .item index joint, d => walkItem fuel p rest d index r.isFixed joint
        | .method name args first joint, _ => do
          let w ← Walk.guarded (callOn fuel name args first r joint.spot)
          match rest, w.outcome with
          | [], _ => pure w
          | _, .error _ => pure w
          | rest, .ok d => do
            let next ← walk fuel p rest (.ofDatum d)
            pure { w with outcome := next.outcome }

/-- The walk through a field of a map. A field that is missing comes into being when something is
assigned to it. -/
def walkField (fuel : Nat) (p : Purpose) (rest : List Step) (fields : List (String × Datum))
    (key : String) (isFixed : Bool) (joint : Joint) : Act Walk :=
  match fuel with
  | 0 => outOfFuel
  | fuel + 1 => do
    tick joint.mark
    let whole (d : Datum) : Datum := .map (Datum.insert fields key d)
    match fields.lookup key with
    | some d => do
      let w ← walk fuel p rest ⟨d, none, isFixed⟩
      pure (w.within whole)
    | none => do
      let w ← walk fuel p rest (.ofDatum .unit)
      if rest.isEmpty && p.assigned.isSome then
        pure { w with left := some (whole (w.left.getD .unit)) }
      else pure w.elsewhere

/-- The walk through a property of what is no map. -/
def walkProperty (fuel : Nat) (p : Purpose) (rest : List Step) (d : Datum) (name : String)
    (joint : Joint) : Act Walk :=
  match fuel with
  | 0 => outOfFuel
  | fuel + 1 => do
    let read : Act Datum := do
      tick joint.spot
      match d, name with
      | .moment t, "elapsed" => placed joint.spot (elapsedSince t)
      | d, name =>
        match d.property? name with
        | some (.ok e) => pure e.value
        | some (.error f) => raise (f.at_ (some joint.spot))
        | none => trouble (d.noProperty name) joint.spot
    match rest, p.assigned with
    | [], some a => do
      let value ← match a.operator with
        | some op => do
          let before ← read
          update op before a.value a.spot
        | none => pure a.value
      tick joint.spot
      trouble (d.noWritableProperty name value) joint.spot
    | rest, _ => do
      let part ← read
      let w ← walk fuel p rest (.ofDatum part)
      pure w.elsewhere

/-- The walk through an item of a collection. -/
def walkItem (fuel : Nat) (p : Purpose) (rest : List Step) (d index : Datum) (isFixed : Bool)
    (joint : Joint) : Act Walk :=
  match fuel with
  | 0 => outOfFuel
  | fuel + 1 => do
    tick joint.mark
    if !d.hasItems then
      tick joint.mark
      match rest, p.assigned with
      | [], some ⟨none, value, _⟩ => trouble (d.noIndexSetter index value) joint.mark
      | _, _ => trouble (d.noIndexer index) joint.mark
    else
      let (part, belonging) ← settle joint.spot (d.item index)
      match belonging with
      | .inside => do
        let w ← walk fuel p rest ⟨part, none, isFixed⟩
        pure (w.within fun part => (d.withItem index part).toOption.getD d)
      | .apart => do
        let w ← walk fuel p rest (.ofDatum part)
        pure w.elsewhere
      | .seen => do
        let w ← walk fuel p rest (.ofDatum part)
        let returns := match rest with
          | [] => true
          | step :: _ => step.isCall
        match w.left with
        | some part =>
          if returns && w.isUpdated then
            match d.withItem index part with
            | .ok d => pure { w with left := some d }
            | .error c =>
              trouble c ((p.assigned.map Assignment.spot).getD joint.spot)
          else pure w.elsewhere
        | none => pure w

/-- The value of a function that is called by its name. -/
def callByName (fuel : Nat) (name : String) (style : CallStyle) (args : List Expr) (spot : Spot) :
    Act Datum :=
  match fuel with
  | 0 => outOfFuel
  | fuel + 1 =>
    match name, args with
    | "call", e :: rest => do
      match ← eval fuel e with
      | .function g cells given => callWith fuel g cells given style rest spot
      | d => trouble (.mismatch "Fn" d.typeName) e.start
    | "Fn", [e] => do
      let s ← textOf (← eval fuel e) e.start
      if namesFunction s then pure (.function s [] []) else trouble (.unknownFunction s) e.start
    | "curry", e :: a :: rest => do
      match ← eval fuel e with
      | .function g cells given => do
        let ds ← evalAll fuel (a :: rest)
        pure (.function g cells (given ++ ds))
      | d => trouble (.mismatch "Fn" d.typeName) e.start
    | "is_shared", [.variable v s] => do
      tick s
      let _ ← findVariable v s
      Datum.bool <$> isShared v
    | "is_shared", [e] => do
      let _ ← eval fuel e
      pure (.bool false)
    | "is_def_fn", [e, n] => do
      let s ← textOf (← eval fuel e) e.start
      isDefined none s (← eval fuel n) n.start
    | "is_def_fn", [t, e, n] => do
      let t ← textOf (← eval fuel t) t.start
      let s ← textOf (← eval fuel e) e.start
      isDefined (some t) s (← eval fuel n) n.start
    | "is_def_var", [e] => do
      let s ← textOf (← eval fuel e) e.start
      pure (.bool ((← get).nearest? s).isSome)
    | "eval", [e] => do
      let s ← textOf (← eval fuel e) e.start
      conclude (mapFault (.inCall evalName · (some e.start)) (← observe (runText fuel s e.start)))
    | name, args => callWith fuel name [] [] style args spot
where
  /-- There is a function of a name with a number of parameters. -/
  isDefined (type : Option String) (name : String) (arity : Datum) (spot : Spot) : Act Datum := do
    match arity with
    | .int n => do
      let m ← get
      pure (.bool (0 ≤ n && (m.functionFor? type name (lengthOf n)).isSome))
    | d => trouble (.mismatch "i64" d.typeName) spot

/-- The value of a text as code, which sees the variables in sight and may define more. -/
def runText (fuel : Nat) (source : String) (spot : Spot) : Act Datum :=
  match fuel with
  | 0 => outOfFuel
  | fuel + 1 => do
    tick spot
    let text := Text.trim source
    if text = "" then pure .unit
    else
      match parse text with
      | .error e => raise (.plain (.unreadable e.message) e.spot)
      | .ok code =>
        if !code.functions.isEmpty then raise (.plain (.unreadable misplacedFunctions) none)
        else
          match ← observe (execAll fuel code.body) with
          | .error (.returned d) => pure d
          | r => conclude r

/-- The value of a function for arguments behind those that are given. An argument that is a
variable, as the first one, may be changed by the function. -/
def callWith (fuel : Nat) (name : String) (cells : List Nat) (given : List Datum)
    (style : CallStyle) (args : List Expr) (spot : Spot) : Act Datum :=
  match fuel with
  | 0 => outOfFuel
  | fuel + 1 => do
    let plainly : Act Datum := do
      let ds ← evalAll fuel args
      let w ← answer fuel name cells (given ++ ds) none style spot
      conclude w.outcome
    let changeable (v : String) (s : Spot) (rest : List Expr) : Act Datum := do
      tick s
      let ds ← evalAll fuel rest
      let found ← findVariable v s
      let m ← get
      let w ← answer fuel name [] (m.datum found :: ds) none style spot
      if !found.isConstant && found.content matches .inl _ then settleWalk v w
      else conclude w.outcome
    if style == CallStyle.withScope || isClosureName name || !given.isEmpty then plainly
    else
      match args with
      | .variable v s :: rest => changeable v s rest
      | .this s :: rest => if ← isShared thisName then plainly else changeable thisName s rest
      | _ => plainly

/-- The value of a method, and what becomes of what it is called on. -/
def callOn (fuel : Nat) (name : String) (args : List Datum) (first : Spot) (r : Receiver)
    (spot : Spot) : Act Walk :=
  match fuel with
  | 0 => outOfFuel
  | fuel + 1 =>
    match name, args, r.datum with
    | "call", args, .function g cells given =>
      answer fuel g cells (given ++ args) none .ordinary spot
    | "call", [], d => trouble (.mismatch "Fn" d.typeName) spot
    | "call", .function g cells given :: rest, _ =>
      answer fuel g cells (given ++ rest) (some r) .ordinary spot
    | "call", a :: _, _ => trouble (.mismatch "Fn" a.typeName) first
    | "curry", args, .function g cells given => pure (.reaching (.function g cells (given ++ args)))
    | "curry", _, d => trouble (.mismatch "Fn" d.typeName) spot
    | "is_shared", [], _ => pure (.reaching (.bool r.cell.isSome))
    | name, args, .map fields =>
      match fields.lookup name with
      | some (.function g cells given) =>
        answer fuel g cells (given ++ args) (some r) .ordinary spot
      | _ => answer fuel name [] args (some r) .ordinary spot
    | name, args, _ => answer fuel name [] args (some r) .ordinary spot

/-- The value of the function of a name, one of the script or one that is there from the
beginning. -/
def answer (fuel : Nat) (name : String) (cells : List Nat) (args : List Datum)
    (this : Option Receiver) (style : CallStyle) (spot : Spot) : Act Walk :=
  match fuel with
  | 0 => outOfFuel
  | fuel + 1 => do
    match name, this, args with
    | "type_of", some r, [] => pure (.reaching (.text r.datum.typeName))
    | "type_of", none, [d] => pure (.reaching (.text d.typeName))
    | name, this, args => further do
      let m ← get
      let arity := cells.length + args.length
      let found := match this with
        | some r => m.method? r.datum name arity
        | none => if style = CallStyle.builtin then none else m.function? name arity
      match found, this with
      | some f, this =>
        if f.body.isEmpty then pure (.reaching .unit)
        else callDefined fuel f cells args this (style == CallStyle.withScope) spot
      | none, some r => do
        let (d, receiver) ← native fuel name (r.datum :: args) r.isFixed spot
        changing r d receiver
      | none, none => do
        let taken := cells.map fun cell => (m.cells.getD cell default).datum
        let (d, receiver) ← native fuel name (taken ++ args) false spot
        pure ⟨.ok d, receiver, receiver.isSome⟩

/-- The value of a function of the script. -/
def callDefined (fuel : Nat) (f : FunctionDef) (cells : List Nat) (args : List Datum)
    (this : Option Receiver) (seesScope : Bool) (spot : Spot) : Act Walk :=
  match fuel with
  | 0 => outOfFuel
  | fuel + 1 => do
    tick spot
    let m ← get
    if deepestCall < m.depth then trouble .tooDeep spot
    let behind := if seesScope then m.vars else []
    set { m with vars := frameOf f cells args this ++ behind, nesting := m.nesting + 1 }
    let r ← observe (execAll fuel f.body)
    let kept ← get
    let left := match this with
      | some ⟨_, none, false⟩ => kept.value? thisName
      | _ => none
    let vars := if seesScope then kept.vars.drop (kept.vars.length - m.vars.length) else m.vars
    set { kept with vars := vars, nesting := m.nesting }
    let outcome := match r with
      | .error (.returned d) => .ok d
      | r => mapFault (.leaving f.name (some spot)) r
    pure ⟨outcome, left, false⟩

/-- The value of a function that is there from the beginning, and its first argument if it has
changed. -/
def native (fuel : Nat) (name : String) (args : List Datum) (isFixed : Bool) (spot : Spot) :
    Act (Datum × Option Datum) :=
  match fuel with
  | 0 => outOfFuel
  | fuel + 1 => do
    tick spot
    let isRefused := isFixed && args.head?.any (changesFirst name)
    match outward? name args with
    | some x => do
      let d ← placed spot x
      pure (d, none)
    | none =>
      match ← onItems? fuel name args spot with
      | some x =>
        if isRefused then trouble (.constantMethod name) spot
        else if silencing.contains name then x
        else conclude (mapFault (.inCall name · (some spot)) (← observe x))
      | none =>
        match name, args with
        | "parse_json", [.text s] => do
          let d ← placed spot (apart (runRecord fuel s))
          pure (d, none)
        | name, args =>
          match applied? name args with
          | some r =>
            if isRefused then trouble (.constantMethod name) spot
            else
              match r with
              | .ok e => pure (e.value, e.receiver)
              | .error f => raise (f.at_ (some spot))
          | none => trouble (Datum.missing name args) spot

/-- A function on a collection that calls another function, if there is one of this name. The other
function may be given by its name. -/
def onItems? (fuel : Nat) (name : String) (args : List Datum) (spot : Spot) :
    Act (Option (Act Outcome)) :=
  match fuel with
  | 0 => outOfFuel
  | fuel + 1 => do
    let m ← get
    let c : Calling := {
      call := fun f args this => do
        let w ← apart (callDatum fuel f args (this.map .ofDatum) spot)
        let d ← conclude w.outcome
        pure (d, w.left.or this)
      arity? := m.openParameters? }
    match args with
    | [.array xs, .array ys, .function g cells given] =>
      if name = "zip" then
        pure (some do
          let ds ← zipBy c (.function g cells given) 0 xs ys
          pure (.array ds, none))
      else pure none
    | .array items :: .function g cells given :: rest =>
      pure (onArray? c (.function g cells given) name items rest)
    | .array items :: .text g :: rest =>
      match byName.contains name, onArray? c (.function g [] []) name items rest with
      | true, some x =>
        if namesFunction g then pure (some x) else trouble (.unknownFunction g) spot
      | _, _ => pure none
    | [.map fields, .function g cells given] =>
      pure (onMap? c (.function g cells given) name fields)
    | _ => pure none

/-- The value of a function that is a datum. -/
def callDatum (fuel : Nat) (f : Datum) (args : List Datum) (this : Option Receiver) (spot : Spot) :
    Act Walk :=
  match fuel with
  | 0 => outOfFuel
  | fuel + 1 =>
    match f with
    | .function g cells given => do
      match this, (← get).openParameters? f with
      | this, some n =>
        if n = args.length then answerHere fuel g cells (given ++ args) this spot
        else answer fuel g cells (given ++ args) this .ordinary spot
      | this, none => answer fuel g cells (given ++ args) this .ordinary spot
    | d => trouble (.mismatch "Fn" d.typeName) spot

/-- The value of a closure with all its arguments. -/
def answerHere (fuel : Nat) (name : String) (cells : List Nat) (args : List Datum)
    (this : Option Receiver) (spot : Spot) : Act Walk :=
  match fuel with
  | 0 => outOfFuel
  | fuel + 1 => do
    match (← get).function? name (cells.length + args.length) with
    | some f => callDefined fuel f cells args this false spot
    | none => trouble (Datum.missing name args) spot

/-- The map that a text in the notation of documents writes. -/
def runRecord (fuel : Nat) (source : String) : Act Datum :=
  match fuel with
  | 0 => outOfFuel
  | fuel + 1 => do
    match parseRecord source with
    | .error e => raise (.plain (.unreadable e.message) e.spot)
    | .ok code => do
      let m ← get
      set { m with vars := [] }
      let r ← observe (execAll fuel code.body)
      modify fun n => { n with vars := m.vars }
      match ← conclude r with
      | .map fields => pure (.map fields)
      | d => raise (.plain (.mismatchedOutcome "map" d.typeName) none)

/-- The value of a statement, which counts as an operation. -/
def exec (fuel : Nat) (s : Stmt) : Act Datum :=
  match fuel with
  | 0 => outOfFuel
  | fuel + 1 => do
    tick s.spot
    match s with
    | .nothing _ => pure .unit
    | .expression e => eval fuel e
    | .action e => valueOf fuel e
    | .define name isConstant value _ => do
      let d ← eval fuel value
      define name isConstant d
      pure .unit
    | .assign target operator value spot => do
      let d ← eval fuel value
      let a : Assignment := ⟨operator, d, spot⟩
      match target with
      | .variable name at_ => follow fuel name at_ [] (some a)
      | .this at_ => follow fuel thisName at_ [] (some a)
      | .chain root links => chain fuel root links (some a)
      | e => trouble (.constantChanged "") e.start
    | .block body _ => enclosed (execAll fuel body)
    | .branch test yes no _ => do
      let b ← truth (← eval fuel test) test.spot
      enclosed (execAll fuel (if b then yes else no))
    | .choose subject cases otherwise _ => do
      let d ← eval fuel subject
      let fitting :=
        if cases.any (Case.holds d) then cases.filter (Case.holds d)
        else cases.filter (Case.spans d)
      chooseFrom fuel fitting otherwise
    | .whileLoop test body _ => whileLoop fuel test body
    | .endless body spot => endlessLoop fuel body spot
    | .doLoop body test outcome _ => doLoop fuel body test outcome
    | .forLoop name counter source body spot => do
      match Source.ofDatum? (← eval fuel source) with
      | some items => enclosed do
        match counter with
        | some c => declare c false (.inl (.int 0))
        | none => pure ()
        declare name false (.inl .unit)
        forItems fuel name counter body spot 0 items
      | none => trouble .notIterable source.start
    | .breakOut value _ => do
      let d ← optional fuel value
      throw (.broken d)
    | .continueOn _ => throw .continued
    | .returnWith value _ => do
      let d ← optional fuel value
      throw (.returned d)
    | .throwWith value spot => do
      let d ← optional fuel value
      trouble (.thrown d) spot
    | .tryCatch body name handler _ => do
      match ← observe (enclosed (execAll fuel body)) with
      | .ok d => pure d
      | .error s =>
        match s.caught? with
        | none => throw s
        | some (f, d) => do
          let r ← observe <| enclosed do
            match name with
            | some n => declare n false (.inl d)
            | none => pure ()
            enclosed (execAll fuel handler)
          match r with
          | .ok _ => pure .unit
          | .error s => throw (rethrown f s)
    | .importModule path _ => do
      let name ← textOf (← eval fuel path) path.spot
      trouble (.unknownModule name) path.start
    | .exportName name spot => do
      let _ ← findVariable name spot
      pure .unit

/-- The value of an expression, or nothing. -/
def optional (fuel : Nat) (e : Option Expr) : Act Datum :=
  match fuel with
  | 0 => outOfFuel
  | fuel + 1 =>
    match e with
    | some e => eval fuel e
    | none => pure .unit

/-- The value of the last one of statements. -/
def execAll (fuel : Nat) (ss : List Stmt) : Act Datum :=
  match fuel with
  | 0 => outOfFuel
  | fuel + 1 =>
    match ss with
    | [] => pure .unit
    | [s] => exec fuel s
    | s :: rest => do
      let _ ← exec fuel s
      execAll fuel rest

/-- The value of the first case whose condition holds. -/
def chooseFrom (fuel : Nat) (cases : List Case) (otherwise : Option Expr) : Act Datum :=
  match fuel with
  | 0 => outOfFuel
  | fuel + 1 =>
    match cases with
    | [] => optional fuel otherwise
    | .mk _ _ none body :: _ => eval fuel body
    | .mk _ _ (some guard) body :: rest => do
      let b ← truth (← eval fuel guard) guard.spot
      if b then eval fuel body else chooseFrom fuel rest otherwise

/-- Repeats while a test holds. -/
def whileLoop (fuel : Nat) (test : Expr) (body : List Stmt) : Act Datum :=
  match fuel with
  | 0 => outOfFuel
  | fuel + 1 => do
    let goesOn ← truth (← eval fuel test) test.spot
    if goesOn then
      match ← turned (enclosed (execAll fuel body)) with
      | some d => pure d
      | none => whileLoop fuel test body
    else pure .unit

/-- Repeats without end; where there is nothing to repeat, each turn counts as an operation. -/
def endlessLoop (fuel : Nat) (body : List Stmt) (spot : Spot) : Act Datum :=
  match fuel with
  | 0 => outOfFuel
  | fuel + 1 => do
    if body.isEmpty then tick spot
    match ← turned (enclosed (execAll fuel body)) with
    | some d => pure d
    | none => endlessLoop fuel body spot

/-- Repeats as long as a test has an outcome. A turn that is broken off is not tested. -/
def doLoop (fuel : Nat) (body : List Stmt) (test : Expr) (outcome : Bool) : Act Datum :=
  match fuel with
  | 0 => outOfFuel
  | fuel + 1 => do
    match ← observe (enclosed (execAll fuel body)) with
    | .error (.broken d) => pure d
    | .error .continued => doLoop fuel body test outcome
    | .error s => throw s
    | .ok _ => do
      let b ← truth (← eval fuel test) test.spot
      if b == outcome then doLoop fuel body test outcome else pure .unit

/-- Repeats for items. The variables of the loop are the same for all turns. -/
def forItems (fuel : Nat) (name : String) (counter : Option String) (body : List Stmt) (spot : Spot)
    (n : Nat) (items : Source) : Act Datum :=
  match fuel with
  | 0 => outOfFuel
  | fuel + 1 =>
    match items.next? with
    | none => pure .unit
    | some (d, rest) => do
      match counter with
      | some c => storeVariable c (.int (Int64.ofNat n))
      | none => pure ()
      storeVariable name d
      tick spot
      match ← turned (enclosed (execAll fuel body)) with
      | some d => pure d
      | none => forItems fuel name counter body spot (n + 1) rest

end

end Workflow.Script
