import Workflow.Engine.Basic
import Workflow.Proofs.Document.Keys

/-!
# Registered definitions

An engine registers a definition only if it passes its check, under an identifier that is not blank:
its own, or one that it is given. A definition that is refused leaves what is registered as it is.
So whatever is asked for, every definition of a registry that was filled in this way is found under
its own identifier and passes its check.

## Main definitions

* `Workflow.Engine.create` — what becomes of an engine that is asked to register a definition.
* `Workflow.Registry.Filled` — the registries that are filled by registering only.
* `Workflow.Registry.IsSound` — what holds of them.

## Main results

* `Workflow.Engine.register_eq` — a definition is registered just if it is not refused.
* `Workflow.Registry.Filled.isSound` — registries that are filled by registering are sound.
-/

namespace Workflow

/-! ### Identifiers -/

theorem RunId.not_allBlank_text (r : RunId) : Text.allBlank r.text = false := by
  have hyphen : Text.isBlank '-' = false := by decide
  simp [text, Text.allBlank, groups, hyphenate, hyphen]

/-! ### Registering -/

theorem Definition.validate_of_valid {d : Definition} (h : d.invalid? = none) :
    d.validate = .ok d := by
  unfold validate
  rw [h]

/-- The definition as it is registered at a time under an identifier. -/
def Definition.entered (d : Definition) (id : String) (time : Timestamp) : Definition :=
  { d with id := id, createdAt := d.createdAt.or (some time), updatedAt := some time }

namespace Engine

variable {σ : Type}

/-- The identifier of a definition, its own or, if that is blank, a fresh one, and the engine after
it is chosen. -/
def identify (e : Engine σ) (d : Definition) : String × Engine σ :=
  if Text.allBlank d.id then (e.freshId.1.text, e.freshId.2) else (d.id, e)

/-- What becomes of an engine that is asked to register a definition at a time: the definition is
registered, or it is refused. -/
def create (e : Engine σ) (time : Timestamp) (d : Definition) :
    Except DefinitionError String × Engine σ :=
  let p := e.identify d
  match (d.entered p.1 time).validate with
  | .ok d => (.ok p.1, { p.2 with registry := p.2.registry.put d })
  | .error reason => (.error reason, p.2)

variable (e : Engine σ) (time : Timestamp) (d : Definition)

/-- A definition is registered just if it is not refused. -/
theorem register_eq : e.register time d = (e.create time d).1.map (·, (e.create time d).2) := by
  unfold register create identify Definition.entered
  by_cases h : Text.allBlank d.id = true
  · simp only [if_pos h]
    split <;> simp only [*, Except.map]
  · simp only [if_neg h]
    split <;> simp only [*, Except.map]

theorem identify_spec : Text.allBlank (e.identify d).1 = false ∧
    (e.identify d).2.registry = e.registry := by
  unfold identify
  split
  · exact ⟨RunId.not_allBlank_text _, rfl⟩
  · next h => exact ⟨by simpa using h, rfl⟩

theorem create_of_valid (h : (d.entered (e.identify d).1 time).invalid? = none) :
    e.create time d = (.ok (e.identify d).1, { (e.identify d).2 with
      registry := (e.identify d).2.registry.put (d.entered (e.identify d).1 time) }) := by
  simp only [create, Definition.validate, h]

theorem create_of_invalid {reason : Invalid}
    (h : (d.entered (e.identify d).1 time).invalid? = some reason) :
    e.create time d = (.error (.invalid reason), (e.identify d).2) := by
  simp only [create, Definition.validate, h]

/-- A definition that is registered passes its check and has an identifier that is not blank; one
that is refused leaves the registry as it is. -/
theorem create_cases :
    (∃ d', (e.create time d).1 = .ok d'.id ∧ Text.allBlank d'.id = false ∧ d'.invalid? = none ∧
      (e.create time d).2.registry = e.registry.put d') ∨
    (∃ reason, (e.create time d).1 = .error reason) ∧
      (e.create time d).2.registry = e.registry := by
  obtain ⟨hid, hregistry⟩ := e.identify_spec d
  cases h : (d.entered (e.identify d).1 time).invalid? with
  | none =>
    rw [create_of_valid e time d h, ← hregistry]
    exact .inl ⟨d.entered (e.identify d).1 time, rfl, hid, h, rfl⟩
  | some reason =>
    rw [create_of_invalid e time d h]
    exact .inr ⟨⟨_, rfl⟩, hregistry⟩

end Engine

/-! ### Registries -/

namespace Registry

/-- Registries that are filled by registering only, whatever engines are asked for it. -/
inductive Filled : Registry → Prop
  | empty : Filled .empty
  | create {σ : Type} {e : Engine σ} (h : Filled e.registry) (time : Timestamp) (d : Definition) :
      Filled (e.create time d).2.registry

/-- Every definition is found under its own identifier, which is not blank, and passes its check. -/
structure IsSound (r : Registry) : Prop where
  keys : r.entries.keys.Nodup
  ids : ∀ p ∈ r.entries, p.2.id = p.1
  named : ∀ p ∈ r.entries, Text.allBlank p.1 = false
  valid : ∀ p ∈ r.entries, p.2.invalid? = none

theorem isSound_empty : empty.IsSound :=
  ⟨List.nodup_nil, fun _ h => (nomatch h), fun _ h => (nomatch h), fun _ h => nomatch h⟩

theorem IsSound.put {r : Registry} (h : r.IsSound) {d : Definition}
    (hid : Text.allBlank d.id = false) (hd : d.invalid? = none) : (r.put d).IsSound where
  keys := Bindings.nodup_keys_set h.keys
  ids p hp := by
    rcases Bindings.mem_set hp with rfl | hp
    · rfl
    · exact h.ids p hp
  named p hp := by
    rcases Bindings.mem_set hp with rfl | hp
    · exact hid
    · exact h.named p hp
  valid p hp := by
    rcases Bindings.mem_set hp with rfl | hp
    · exact hd
    · exact h.valid p hp

/-- Whatever an engine is asked to register, its registry stays sound. -/
theorem IsSound.create {σ : Type} {e : Engine σ} (h : e.registry.IsSound) (time : Timestamp)
    (d : Definition) : (e.create time d).2.registry.IsSound := by
  rcases e.create_cases time d with ⟨d', -, hid, hvalid, hr⟩ | ⟨-, hr⟩
  · exact hr ▸ h.put hid hvalid
  · exact hr ▸ h

/-- Registries that are filled by registering are sound. -/
theorem Filled.isSound {r : Registry} (h : r.Filled) : r.IsSound := by
  induction h with
  | empty => exact isSound_empty
  | create _ time d ih => exact ih.create time d

theorem IsSound.get?_of_mem {r : Registry} (h : r.IsSound) {p : String × Definition}
    (hp : p ∈ r.entries) : r.get? p.1 = some p.2 :=
  Bindings.get?_of_mem h.keys hp

/-- What is looked up and found passes its check. -/
theorem IsSound.valid_of_get? {r : Registry} (h : r.IsSound) {id : String} {d : Definition}
    (hd : r.get? id = some d) : d.invalid? = none :=
  h.valid (id, d) (Bindings.mem_of_get? hd)

end Registry

end Workflow
