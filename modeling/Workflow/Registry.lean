import Workflow.Definition.Basic

/-!
# The registry

Definitions under their identifiers. Registering again under the same identifier replaces the
definition. The definitions are listed in the order of their identifiers.

## Main definitions

* `Workflow.Registry` with `get?`, `put`, `erase` and `list`.
-/

namespace Workflow

/-- Registered definitions. -/
structure Registry where
  entries : Bindings Definition
deriving Inhabited

namespace Registry

/-- Nothing is registered. -/
def empty : Registry := ⟨[]⟩

/-- The definition with an identifier. -/
def get? (r : Registry) (id : String) : Option Definition := Bindings.get? r.entries id

/-- Registers a definition under its identifier. -/
def put (r : Registry) (d : Definition) : Registry := ⟨Bindings.set r.entries d.id d⟩

/-- Removes what is registered under an identifier. -/
def erase (r : Registry) (id : String) : Registry := ⟨Bindings.erase r.entries id⟩

/-- The definitions in the order of their identifiers. -/
def list (r : Registry) : List Definition := (Bindings.sorted r.entries).map Prod.snd

/-- The number of definitions. -/
def size (r : Registry) : Nat := r.entries.length

end Registry

end Workflow
