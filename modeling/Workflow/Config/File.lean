import Workflow.Config.Basic
import Workflow.Toml.Reader

/-!
# The configuration file

The file in the data directory that holds the configuration. A file that is missing or cannot be
read as a configuration counts for the default one.

## Main definitions

* `Workflow.Config.ofFile` — the configuration that a file holds.
-/

namespace Workflow.Config

/-- The name of the file in the data directory. -/
def fileName : String := "config.toml"

/-- The configuration that a file holds; none stands for a missing file. -/
def ofFile (content : Option String) : Config :=
  ((content.bind Toml.parse?).bind ofGlobal?).getD default

end Workflow.Config
