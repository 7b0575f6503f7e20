import Workflow.Definition.Reading

/-!
# Configuration of the engine

The defaults that hold where a step gives none, and the limits of runs. Every field may be missing
in a document, and then has the value of the default configuration.

## Main definitions

* `Workflow.Config` — the configuration.
* `Workflow.Config.ofJson?`, `Workflow.Config.toJson` — its document.
-/

namespace Workflow

/-- The configuration of an engine. -/
structure Config where
  /-- The attempts after the first, for a step that retries and gives no number. -/
  maxRetries : Nat
  /-- The milliseconds between attempts, for a step that retries and gives no delay. -/
  retryDelay : Nat
  /-- The iterations of a loop that gives no limit. -/
  maxIterations : Nat
  /-- How deep sub-workflows may nest. -/
  maxDepth : Nat
  /-- The milliseconds that a script may take; zero for no limit. -/
  scriptTimeout : Nat
  /-- The operations that a script may take; zero for no limit. -/
  scriptOperations : Nat
  /-- The events that the bus keeps. -/
  eventCapacity : Nat
deriving DecidableEq, Repr

namespace Config

/-- The default configuration. -/
def default : Config where
  maxRetries := 3
  retryDelay := 1000
  maxIterations := 100
  maxDepth := 5
  scriptTimeout := 30000
  scriptOperations := 0
  eventCapacity := 1024

instance : Inhabited Config := ⟨default⟩

/-- The names of the fields in a document, in order. -/
def fieldNames : List String :=
  ["default_max_retries", "default_retry_delay_ms", "default_max_iterations",
   "max_sub_workflow_depth", "script_timeout_ms", "script_max_operations", "event_capacity"]

/-- The configuration that a tree describes. -/
def ofJson? (j : Json) : Option Config := do
  let fields ← Read.record? fieldNames j
  let number (key : String) (bits missing : Nat) : Option Nat :=
    Read.default? missing (Read.unsigned? bits) (Bindings.get? fields key)
  some
    { maxRetries := ← number "default_max_retries" 32 default.maxRetries
      retryDelay := ← number "default_retry_delay_ms" 64 default.retryDelay
      maxIterations := ← number "default_max_iterations" 32 default.maxIterations
      maxDepth := ← number "max_sub_workflow_depth" 32 default.maxDepth
      scriptTimeout := ← number "script_timeout_ms" 64 default.scriptTimeout
      scriptOperations := ← number "script_max_operations" 64 default.scriptOperations
      eventCapacity := ← number "event_capacity" 64 default.eventCapacity }

/-- The tree of a configuration. -/
def toJson (c : Config) : Json :=
  .object
    [("default_max_retries", .integer c.maxRetries),
     ("default_retry_delay_ms", .integer c.retryDelay),
     ("default_max_iterations", .integer c.maxIterations),
     ("max_sub_workflow_depth", .integer c.maxDepth),
     ("script_timeout_ms", .integer c.scriptTimeout),
     ("script_max_operations", .integer c.scriptOperations),
     ("event_capacity", .integer c.eventCapacity)]

/-- The limit of a script that gives none of its own. -/
def scriptLimit (c : Config) : Option Nat :=
  if c.scriptTimeout = 0 then none else some c.scriptTimeout

/-- The operations that a script may take. -/
def operationLimit (c : Config) : Option Nat :=
  if c.scriptOperations = 0 then none else some c.scriptOperations

/-- The configuration of the engine within the document of all configuration; without it, the
default. -/
def ofGlobal? (j : Json) : Option Config := do
  let fields ← Read.record? ["engine"] j
  Read.default? default ofJson? (Bindings.get? fields "engine")

end Config

end Workflow
