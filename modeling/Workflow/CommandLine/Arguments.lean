import Workflow.File.Path

/-!
# Arguments

What the program is asked for is read from its arguments: switches, then the name of a command, then
its own operands, options and switches in any order. An option takes the next argument that is
no option itself as its value, or what follows an equals sign within its own argument. Behind two
hyphens everything is an operand.

The operand or value that was read last is checked only when the argument after it is accepted, so
an argument that cannot be accepted is reported first.

## Main definitions

* `Workflow.Invocation`, `Workflow.Order` — what is asked for.
* `Workflow.UsageError` — why arguments ask for nothing that can be done.
* `Workflow.Invocation.ofArguments` — the reader.
-/

namespace Workflow

/-- A shell. -/
inductive Shell where
  | bash
  | elvish
  | fish
  | powershell
  | zsh
deriving DecidableEq, Repr

/-- The name of a shell. -/
def Shell.text : Shell → String
  | bash => "bash"
  | elvish => "elvish"
  | fish => "fish"
  | powershell => "powershell"
  | zsh => "zsh"

/-- The shell with a name. -/
def Shell.ofText? (s : String) : Option Shell :=
  [bash, elvish, fish, powershell, zsh].find? fun shell => shell.text = s

/-- A run as it is asked for. -/
structure RunOrder where
  file : FilePath
  /-- The variables as they are written, in order. -/
  vars : List String
  target : Option String
  /-- The directory of the workflows that can be run within. -/
  workflows : Option FilePath
deriving Repr

/-- What the program is asked to do. -/
inductive Order where
  | run (order : RunOrder)
  | validate (file : FilePath)
  | list (directory : Option FilePath)
  | completions (shell : Shell)
deriving Repr

/-- What the program is asked for. -/
structure Invocation where
  order : Order
  /-- The output is a document. -/
  json : Bool
  /-- Nothing is printed but errors. -/
  quiet : Bool
deriving Repr

/-- Why arguments ask for nothing that can be done. -/
inductive UsageError where
  /-- Help is asked for. -/
  | help
  /-- The version is asked for. -/
  | version
  | nothingGiven
  | noCommand
  | unknownCommand
  | unknownArgument
  | missingArgument
  /-- A value is missing or cannot be used. -/
  | badValue
  /-- A switch is given a value. -/
  | needlessValue
  /-- What can be given once is given again. -/
  | repeated
deriving DecidableEq, Repr

namespace Arguments

/-- A switch. -/
inductive Switch where
  | json
  | quiet
  | verbose
  | otel
  | help
  | version
deriving DecidableEq, Repr

/-- The switch with a long name. -/
def Switch.ofName? : String → Option Switch
  | "json" => some json
  | "quiet" => some quiet
  | "verbose" => some verbose
  | "otel" => some otel
  | "help" => some help
  | "version" => some version
  | _ => none

/-- The switch with a letter. -/
def Switch.ofLetter? : Char → Option Switch
  | 'v' => some verbose
  | 'h' => some help
  | 'V' => some version
  | _ => none

/-- The switch may be given again. -/
def Switch.isRepeatable (s : Switch) : Bool := s = .verbose

/-- What a value is given for: an option or an operand. -/
inductive Slot where
  | file
  | directory
  | shell
  | var
  | target
  | workflows
deriving DecidableEq, Repr

/-- The value can be used: a path is not empty, and a shell is known. -/
def Slot.accepts (s : Slot) (value : String) : Bool :=
  match s with
  | file => value ≠ ""
  | directory => value ≠ ""
  | workflows => value ≠ ""
  | shell => (Shell.ofText? value).isSome
  | var => true
  | target => true

/-- The operands and options of a command. -/
structure Shape where
  operands : List Slot
  /-- The options with their names. -/
  options : List (String × Slot)

/-- How far the arguments of a command are read. -/
structure Reading where
  /-- The switches so far. -/
  switches : List Switch
  /-- The values so far, in order. -/
  values : List (Slot × String)
  /-- What was read last: a slot, and its value unless it is still to come. -/
  pending : Option (Slot × Option String)
  /-- How many operands were read. -/
  operandCount : Nat
  /-- All that follows is operands. -/
  onlyOperands : Bool

namespace Reading

/-- Nothing is read. -/
def start : Reading := ⟨[], [], none, 0, false⟩

/-- The values given for a slot. -/
def valuesOf (r : Reading) (s : Slot) : List String :=
  (r.values.filter fun v => v.1 = s).map Prod.snd

/-- Checks a value and takes it; only variables can be given more than once. -/
def take (r : Reading) (s : Slot) (value : String) : Except UsageError Reading :=
  if s ≠ .var ∧ r.valuesOf s ≠ [] then .error .repeated
  else if s.accepts value then .ok { r with values := r.values ++ [(s, value)] }
  else .error .badValue

/-- Takes what was read last. -/
def settle (r : Reading) : Except UsageError Reading :=
  match r.pending with
  | none => .ok r
  | some (_, none) => .error .badValue
  | some (s, some value) => take { r with pending := none } s value

/-- Takes a switch. -/
def switch (r : Reading) (s : Switch) : Except UsageError Reading := do
  let r ← r.settle
  match s with
  | .help => .error .help
  | .version => .error .version
  | s =>
    if r.switches.contains s && !s.isRepeatable then .error .repeated
    else .ok { r with switches := r.switches ++ [s] }

/-- Takes an operand. -/
def operand (shape : Shape) (r : Reading) (arg : String) : Except UsageError Reading :=
  match shape.operands[r.operandCount]? with
  | none => .error .unknownArgument
  | some s => do
    let r ← r.settle
    .ok { r with pending := some (s, some arg), operandCount := r.operandCount + 1 }

/-- Takes a switch or an option by its long name, with the value that is attached to it. -/
def long (shape : Shape) (r : Reading) (name : String) (attached : Option String) :
    Except UsageError Reading :=
  match Switch.ofName? name, shape.options.lookup name with
  | some s, _ => if attached.isSome then .error .needlessValue else r.switch s
  | none, some s => do
    let r ← r.settle
    match attached with
    | some value => r.take s value
    | none => .ok { r with pending := some (s, none) }
  | none, none => .error .unknownArgument

/-- Takes switches by their letters. -/
def letters (r : Reading) : List Char → Except UsageError Reading
  | [] => .ok r
  | c :: cs =>
    match Switch.ofLetter? c with
    | some s => do (← r.switch s).letters cs
    | none => .error .unknownArgument

end Reading

/-- A name with what follows its first equals sign. -/
def splitAttached (cs : List Char) : String × Option String :=
  let name := String.ofList (cs.takeWhile (· ≠ '='))
  match cs.dropWhile (· ≠ '=') with
  | [] => (name, none)
  | _ :: value => (name, some (String.ofList value))

/-- The form of an argument. -/
inductive Form where
  /-- Two hyphens. -/
  | divider
  | long (name : String) (attached : Option String)
  | letters (cs : List Char)
  | plain

/-- The form of an argument. -/
def Form.of (arg : String) : Form :=
  match arg.toList with
  | ['-', '-'] => .divider
  | '-' :: '-' :: cs => .long (splitAttached cs).1 (splitAttached cs).2
  | ['-'] => .plain
  | '-' :: cs => .letters cs
  | _ => .plain

/-- Reads one argument of a command. -/
def Reading.next (shape : Shape) (r : Reading) (arg : String) : Except UsageError Reading :=
  if r.onlyOperands then r.operand shape arg
  else
    match Form.of arg, r.pending with
    | .divider, _ => .ok { r with onlyOperands := true }
    | .long name attached, _ => r.long shape name attached
    | .letters cs, _ => r.letters cs
    | .plain, some (s, none) => .ok { r with pending := some (s, some arg) }
    | .plain, _ => r.operand shape arg

/-- Reads the arguments of a command. -/
def read (shape : Shape) (args : List String) : Except UsageError Reading := do
  (← args.foldlM (Reading.next shape) .start).settle

/-- A command by name. -/
inductive CommandName where
  | run
  | validate
  | list
  | completions
  | help
deriving DecidableEq, Repr

/-- The command with a name. -/
def CommandName.ofText? : String → Option CommandName
  | "run" => some run
  | "validate" => some validate
  | "list" => some list
  | "ls" => some list
  | "completions" => some completions
  | "help" => some help
  | _ => none

/-- What a command takes. -/
def CommandName.shape : CommandName → Shape
  | run => ⟨[.file], [("var", .var), ("target", .target), ("workflows", .workflows)]⟩
  | validate => ⟨[.file], []⟩
  | list => ⟨[.directory], []⟩
  | completions => ⟨[.shell], []⟩
  | help => ⟨[], []⟩

/-- A value that must have been given. -/
def Reading.needed (r : Reading) (s : Slot) : Except UsageError String :=
  match r.valuesOf s with
  | value :: _ => .ok value
  | [] => .error .missingArgument

/-- A path that may have been given. -/
def Reading.path? (r : Reading) (s : Slot) : Option FilePath := (r.valuesOf s).head?.map FilePath.mk

/-- Help is asked for by name: at most one command can be named, as commands have none below. -/
def helpOn (args : List String) : UsageError :=
  match args with
  | [] => .help
  | [name] => if (CommandName.ofText? name).isSome then .help else .unknownCommand
  | _ => .unknownCommand

/-- The command with a name and its arguments. -/
def commandOf (name : CommandName) (args : List String) : Except UsageError (Order × Reading) :=
  if name = .help then .error (helpOn args)
  else do
    let r ← read name.shape args
    let order ← match name with
      | .run => do
        .ok (.run ⟨⟨← r.needed .file⟩, r.valuesOf .var, (r.valuesOf .target).head?,
          r.path? .workflows⟩)
      | .validate => do .ok (.validate ⟨← r.needed .file⟩)
      | .list => .ok (.list (r.path? .directory))
      | .completions => do
        match Shell.ofText? (← r.needed .shell) with
        | some shell => .ok (.completions shell)
        | none => .error .badValue
      | .help => .error .help
    .ok (order, r)

/-- Reads all arguments, the switches before the command in `r`. -/
def readAll (r : Reading) : List String → Except UsageError Invocation
  | [] => .error (if r.switches = [] then .nothingGiven else .noCommand)
  | arg :: args =>
    match CommandName.ofText? arg with
    | some name =>
      if r.onlyOperands then .error .unknownArgument
      else do
        let (order, inner) ← commandOf name args
        let given (s : Switch) := r.switches.contains s || inner.switches.contains s
        .ok ⟨order, given .json, given .quiet⟩
    | none =>
      match if r.onlyOperands then .plain else Form.of arg with
      | .plain => .error .unknownCommand
      | _ => do readAll (← r.next ⟨[], []⟩ arg) args

end Arguments

/-- What arguments ask for. -/
def Invocation.ofArguments (args : List String) : Except UsageError Invocation :=
  Arguments.readAll .start args

end Workflow
