import Workflow.Proofs.Document.Step
import Workflow.Definition.Validation

/-!
# Definitions read back from their documents

A definition that a document gives is written as a tree that gives this very definition again: the
kinds of its steps are known, it is read as what was written, and it passes the check that it has
passed before. Of timestamps it is assumed that their text reads as the timestamp.

## Main results

* `Workflow.unknownInStep?_toJson` — the tree of a step names known kinds only.
* `Workflow.Definition.ofDocument_toJson` — the document of a definition gives the definition.
-/

namespace Workflow

/-! ### Kinds of the written tree -/

theorem get?_unknownInFields (key : String) : (fields : List (String × Json)) →
    Bindings.get? (unknownInFields fields) key = (Bindings.get? fields key).map fun j =>
      ⟨fun p => firstUnknown? p j, fun p => unknownInAlternatives? p j⟩
  | [] => rfl
  | (k, j) :: rest => by
    unfold unknownInFields Bindings.get?
    split
    · rfl
    · exact get?_unknownInFields key rest

/-- The kind of a step is known, and so are those within it if they are in the lists that the step
has beside the fields of every step. -/
private theorem unknownInStep?_fieldsOf (path : Path) (i : StepInfo) (kind : StepKind)
    {rest : List (String × Json)}
    (hlist : ∀ key ∈ ["then", "else", "steps"], ∀ j, Bindings.get? rest key = some j →
      ∀ p, firstUnknown? p j = none)
    (hbranches : ∀ j, Bindings.get? rest "branches" = some j →
      ∀ p, unknownInAlternatives? p j = none) :
    unknownInStep? path (Step.fieldsOf i kind.text rest) = none := by
  have hget {key : String} (hkey : key ∉ "type" :: Step.infoKeys) :
      Bindings.get? (i.fields ++ ("type", Json.text kind.text) :: rest) key =
        Bindings.get? rest key := by
    obtain ⟨htype, hinfo⟩ := not_or.mp (List.mem_cons.not.mp hkey)
    rw [Bindings.get?_append, i.get?_fields hinfo, Option.none_or, Bindings.get?,
      if_neg (Ne.symm htype)]
  have hnested {key : String} (s : Segment) (hkey : key ∈ ["then", "else", "steps"])
      (hinfo : key ∉ "type" :: Step.infoKeys) :
      ((Bindings.get? (unknownInFields (i.fields ++ ("type", Json.text kind.text) :: rest))
        key).bind fun n => n.inList (path ++ [s])) = none := by
    rw [get?_unknownInFields, hget hinfo, Option.bind_map]
    cases hj : Bindings.get? rest key with
    | none => rfl
    | some j => exact hlist key hkey j hj _
  have hname : unknownName? (.object (i.fields ++ ("type", .text kind.text) :: rest)) = none := by
    have htype : Json.field? (.object (i.fields ++ ("type", .text kind.text) :: rest)) "type" =
        some (.text kind.text) := by
      rw [Json.field?, Bindings.get?_append, i.get?_fields (by decide)]
      rfl
    have hknown : (StepKind.ofText? kind.text).isSome = true := by cases kind <;> decide
    rw [unknownName?, htype]
    exact if_pos hknown
  have hlast : ((Bindings.get? (unknownInFields (i.fields ++ ("type", Json.text kind.text) :: rest))
      "branches").bind fun n => n.inBranches path) = none := by
    rw [get?_unknownInFields, hget (by decide), Option.bind_map]
    cases hj : Bindings.get? rest "branches" with
    | none => rfl
    | some j => exact hbranches j hj path
  rw [Step.fieldsOf, unknownInStep?, hname]
  simp only [firstNested?]
  rw [hnested .whenTrue (by decide) (by decide), hnested .whenFalse (by decide) (by decide),
    hnested .body (by decide) (by decide), hlast]
  rfl

mutual

/-- The tree of a step names known kinds only. -/
theorem unknownInStep?_toJson (path : Path) : (s : Step) → unknownInStep? path s.toJson = none
  | .action i payload => by
    refine unknownInStep?_fieldsOf path i .action ?_ ?_ <;> simp [Bindings.get?]
  | .condition i test whenTrue whenFalse => by
    have htrue (p : Path) := unknownInItems?_toItems p 0 whenTrue
    have hfalse (p : Path) := unknownInItems?_toItems p 0 whenFalse
    refine unknownInStep?_fieldsOf path i .condition ?_ ?_
    · cases whenFalse <;> simp [Bindings.get?, firstUnknown?, htrue, hfalse]
    · cases whenFalse <;> simp [Bindings.get?]
  | .loop i spec body => by
    have hbody (p : Path) := unknownInItems?_toItems p 0 body
    refine unknownInStep?_fieldsOf path i .loop ?_ ?_ <;>
      simp [Bindings.get?, Bindings.get?_append, get?_optionalField, firstUnknown?, hbody]
  | .wait i duration => by
    refine unknownInStep?_fieldsOf path i .wait ?_ ?_ <;> simp [Bindings.get?]
  | .parallel i branches => by
    have hbranches (p : Path) := unknownInBranches?_toBranches p 0 branches
    refine unknownInStep?_fieldsOf path i .parallel ?_ ?_ <;>
      simp [Bindings.get?, unknownInAlternatives?, hbranches]
  | .subWorkflow i workflowId vars => by
    refine unknownInStep?_fieldsOf path i .subWorkflow ?_ ?_ <;>
      cases vars <;> simp [Bindings.get?, variablesField]
  | .script i source timeout => by
    refine unknownInStep?_fieldsOf path i .script ?_ ?_ <;>
      simp [Bindings.get?, get?_optionalField]

/-- The trees of a list of steps name known kinds only. -/
theorem unknownInItems?_toItems (list : Path) (i : Nat) : (steps : List Step) →
    unknownInItems? list i (Step.toItems steps) = none
  | [] => rfl
  | s :: rest => by
    rw [Step.toItems, unknownInItems?, unknownInStep?_toJson _ s,
      unknownInItems?_toItems list (i + 1) rest]
    rfl

/-- The trees of branches name known kinds only. -/
theorem unknownInBranches?_toBranches (step : Path) (b : Nat) : (branches : List (List Step)) →
    unknownInBranches? step b (Step.toBranches branches) = none
  | [] => rfl
  | ss :: rest => by
    rw [Step.toBranches, unknownInBranches?, firstUnknown?, unknownInItems?_toItems _ 0 ss,
      unknownInBranches?_toBranches step (b + 1) rest]
    rfl

end

/-! ### Definitions -/

/-- A timestamp that may be missing is read back if its text reads as the timestamp. -/
private theorem Timestamp.optional?_text {o : Option Timestamp}
    (h : ∀ t, o = some t → Timestamp.ofText? t.text = some t) :
    Read.optional? Timestamp.ofJson? (o.map fun t => .text t.text) = some o := by
  refine Read.optional?_map fun t ht => ⟨?_, fun hnull => nomatch hnull⟩
  rw [Timestamp.ofJson?, Json.text?, Option.bind_some]
  exact h t ht

theorem OnError.ofJson?_text : (p : OnError) → OnError.ofJson? (.text p.text) = some p
  | .stop => by simp [OnError.ofJson?, OnError.text, Read.alternative?]
  | .continue => by simp [OnError.ofJson?, OnError.text, Read.alternative?]

theorem get?_variablesField (vars : Bindings Value) {key : String} (h : key ≠ "variables") :
    Bindings.get? (variablesField vars) key = none := by
  unfold variablesField
  split <;> simp [Bindings.get?, h.symm]

namespace Definition

/-- The field of the triggers of a definition. -/
private def triggersField (triggers : List Json) : List (String × Json) :=
  if triggers.isEmpty then [] else [("triggers", .array triggers)]

private theorem get?_triggersField (triggers : List Json) {key : String} (h : key ≠ "triggers") :
    Bindings.get? (triggersField triggers) key = none := by
  unfold triggersField
  split <;> simp [Bindings.get?, h.symm]

/-- Triggers are left out when there are none, and read as none when they are missing. -/
private theorem items?_triggersField (triggers : List Json) :
    Read.default? [] Json.items? (Bindings.get? (triggersField triggers) "triggers") =
      some triggers := by
  cases triggers <;> rfl

/-- The definition that the tree of a definition is read as. -/
def reread (d : Definition) : Definition := { d with steps := Step.rereadAll d.steps }

/-- The tree of a definition reads as the definition but for what null stands for, if the values and
the timestamps that it holds read back. -/
theorem ofJson?_toJson_eq_reread {d : Definition} (hsteps : Step.AllValuesReadBack d.steps)
    (hvars : Value.FieldsReadBack d.vars)
    (hcreated : ∀ t, d.createdAt = some t → Timestamp.ofText? t.text = some t)
    (hupdated : ∀ t, d.updatedAt = some t → Timestamp.ofText? t.text = some t) :
    ofJson? d.toJson = some d.reread := by
  have hitems : Step.list? (.array (Step.toItems d.steps)) = some (Step.rereadAll d.steps) :=
    Step.ofItems?_toItems_eq_reread d.steps hsteps
  have htext (default s : String) :
      Read.default? default Json.text? (some (.text s)) = some s := rfl
  have hname : (Json.text d.name).text? = some d.name := rfl
  have honError : Read.default? .stop OnError.ofJson? (some (.text d.onError.text)) =
      some d.onError := OnError.ofJson?_text d.onError
  rw [toJson, ← triggersField]
  simp [ofJson?, reread, Read.record?, Bindings.get?, Bindings.get?_append, get?_optionalField,
    get?_variablesField, get?_triggersField, htext, hname, hitems, honError,
    vars?_variablesField hvars, items?_triggersField, Read.optional?_text,
    Timestamp.optional?_text hcreated, Timestamp.optional?_text hupdated]

/-- The tree of a definition reads as the definition if what it holds reads back. -/
theorem ofJson?_toJson {d : Definition} (hsteps : Step.AllWellRead d.steps)
    (hvars : Value.FieldsReadBack d.vars)
    (hcreated : ∀ t, d.createdAt = some t → Timestamp.ofText? t.text = some t)
    (hupdated : ∀ t, d.updatedAt = some t → Timestamp.ofText? t.text = some t) :
    ofJson? d.toJson = some d := by
  rw [ofJson?_toJson_eq_reread (Step.AllWellRead.valuesReadBack d.steps hsteps) hvars hcreated
    hupdated, reread, Step.AllWellRead.rereadAll_eq d.steps hsteps]

/-- The kinds of the steps of the tree of a definition are known. -/
theorem firstUnknown?_toJson (d : Definition) :
    (d.toJson.field? "steps").bind (firstUnknown? []) = none := by
  have hlist : d.toJson.field? "steps" = some (.array (Step.toItems d.steps)) := by
    rw [toJson, ← triggersField, Json.field?]
    simp [Bindings.get?, Bindings.get?_append, get?_optionalField, get?_variablesField]
  rw [hlist, Option.bind_some]
  exact unknownInItems?_toItems [] 0 d.steps

/-- What a proper document describes holds what reads back. -/
theorem wellRead_of_ofJson? {j : Json} {d : Definition} (hj : j.IsProper)
    (h : ofJson? j = some d) : Step.AllWellRead d.steps ∧ Value.FieldsReadBack d.vars := by
  simp only [ofJson?, Option.bind_eq_bind, Option.bind_eq_some_iff, Option.some.injEq] at h
  obtain ⟨fields, hfields, _, -, _, -, _, -, _, -, _, -, vars, hvars, list, hlist, steps, hsteps, _,
    -, _, -, _, -, _, -, rfl⟩ := h
  have hproper : Json.HasProperFields fields := by
    cases j with
    | object =>
      obtain rfl := Option.some.inj hfields
      exact hj
    | array items =>
      obtain ⟨-, hzip⟩ := Option.ite_none_right_eq_some.mp hfields
      obtain rfl := Option.some.inj hzip
      exact Json.hasProperFields_zip _ items hj
    | _ => exact nomatch hfields
  exact ⟨Step.wellRead_of_list? list (Json.isProper_of_get? hproper hlist) steps hsteps,
    vars?_fieldsReadBack hproper hvars⟩

/-- A document gives a definition that it describes and that passes the check. -/
theorem of_ofDocument {j : Json} {d : Definition} (h : ofDocument j = .ok d) :
    ofJson? j = some d ∧ d.validate = .ok d := by
  unfold ofDocument at h
  split at h
  · exact nomatch h
  · split at h
    · rename_i d' hd
      have hvalid := h
      unfold validate at h
      split at h
      · exact nomatch h
      · cases h
        exact ⟨hd, hvalid⟩
    · exact nomatch h

/-- The document that a definition of a document is written as is accepted and gives this very
definition, if the text of each of its timestamps reads as the timestamp. -/
theorem ofDocument_toJson {j : Json} {d : Definition} (hj : j.IsProper) (h : ofDocument j = .ok d)
    (htimes : ∀ t, d.createdAt = some t ∨ d.updatedAt = some t →
      Timestamp.ofText? t.text = some t) : ofDocument d.toJson = .ok d := by
  obtain ⟨hread, hvalid⟩ := of_ofDocument h
  obtain ⟨hsteps, hvars⟩ := wellRead_of_ofJson? hj hread
  have hback := ofJson?_toJson hsteps hvars (fun t ht => htimes t (.inl ht))
    (fun t ht => htimes t (.inr ht))
  have hlist : d.toJson.field? "steps" = some (.array (Step.toItems d.steps)) := by
    rw [toJson, ← triggersField, Json.field?]
    simp [Bindings.get?, Bindings.get?_append, get?_optionalField, get?_variablesField]
  have hknown : firstUnknown? [] (.array (Step.toItems d.steps)) = none :=
    unknownInItems?_toItems [] 0 d.steps
  rw [ofDocument, hlist, Option.bind_some, hknown, hback]
  exact hvalid

/-- A capital, a policy and a handle written as arrays, and an offset from universal time. -/
private def lenient : Json :=
  .object [("name", .text "lenient"), ("createdAt", .text "2024-05-01T08:30:00+02:00"),
    ("steps", .array [.object [("type", .text "Parallel"), ("branches", .array [.array
      [.object [("type", .text "action"), ("retry", .array [.bool true]),
        ("action", .object [("$handle", .array [.text "tab", .text "7"])])]]])]])]

private theorem ofDocument_lenient : ∃ d, ofDocument lenient = .ok d ∧
    d.createdAt = some ⟨1714545000, 0⟩ ∧ d.updatedAt = none := by
  have htimes : ((ofDocument lenient).toOption.map fun d => (d.createdAt, d.updatedAt)) =
      some (some ⟨1714545000, 0⟩, none) := by decide
  cases h : ofDocument lenient with
  | error e =>
    rw [h] at htimes
    exact nomatch htimes
  | ok d =>
    rw [h] at htimes
    obtain ⟨hcreated, hupdated⟩ := Prod.mk.inj (Option.some.inj htimes)
    exact ⟨d, rfl, hcreated, hupdated⟩

/-- What was read from other spellings reads back from the one that is written. -/
theorem ofDocument_toJson_lenient : ∃ d, ofDocument lenient = .ok d ∧
    ofDocument d.toJson = .ok d := by
  obtain ⟨d, h, hcreated, hupdated⟩ := ofDocument_lenient
  have hproper : lenient.IsProper := by
    simp [lenient, Json.IsProper, Json.HasProperFields, Json.AreProper]
  refine ⟨d, h, ofDocument_toJson hproper h fun t ht => ?_⟩
  rw [hcreated, hupdated] at ht
  obtain rfl : (⟨1714545000, 0⟩ : Timestamp) = t := by simpa using ht
  decide

end Definition

end Workflow
