import Workflow.Definition.Validation
import Workflow.Json.Parser
import Workflow.Json.Printer
import Workflow.Yaml.Printer
import Workflow.Yaml.Reader

/-!
# Definitions as text

A definition is written in one of two formats, and read from either.

## Main definitions

* `Workflow.DocumentFormat` — the formats.
* `Workflow.Definition.ofText`, `Workflow.Definition.text` — reading and writing definitions.
-/

namespace Workflow

/-- A format of definitions. -/
inductive DocumentFormat where
  | json
  | yaml
deriving DecidableEq, Repr

namespace DocumentFormat

/-- The tree of a text. -/
def parse? : DocumentFormat → String → Option Json
  | json, s => Json.parse s
  | yaml, s => Yaml.parse? s

/-- The text of a tree. -/
def print : DocumentFormat → Json → String
  | json, j => j.pretty
  | yaml, j => Yaml.print j

end DocumentFormat

namespace Definition

/-- The definition of a text, which must be valid. -/
def ofText (format : DocumentFormat) (s : String) : Except DefinitionError Definition :=
  match format.parse? s with
  | some j => ofDocument j
  | none => .error .malformed

/-- The text of a definition. -/
def text (format : DocumentFormat) (d : Definition) : String := format.print d.toJson

end Definition

end Workflow
