import Workflow.Proofs.Document.Value
import Workflow.Definition.Reading

/-!
# Steps read back from their trees

A step that was read from the tree of a document is written as a tree that reads as this very step,
with the lists of steps within it at every depth. What is left out when it is missing or empty is
read as missing or empty again, and what a step holds is never written as null where null would be
taken for missing.

What the reader finds in a proper tree is well read: the values in it read back, and what a loop
goes over or counts to is not null. Every step whose values read back is read as it was but for what
its loops go over or count to, where null is taken for missing, by induction on the step; so what is
well read is read back. Every step of a proper tree is well read, by induction on the tree.

## Main definitions

* `Workflow.Step.WellRead` — everything that the step holds reads back.
* `Workflow.Step.ValuesReadBack` — the values that the step holds read back.
* `Workflow.Step.reread` — the step that its tree is read as.

## Main results

* `Workflow.Step.ofJson?_toJson_eq_reread` — the tree of a step whose values read back.
* `Workflow.Step.ofItems?_toItems` — the trees of well-read steps read as the steps.
* `Workflow.Step.wellRead_of_list?` — the steps of a proper tree are well read.
-/

namespace Workflow

/-! ### Fields -/

theorem Bindings.get?_append {α : Type} (a b : Bindings α) (key : String) :
    get? (a ++ b) key = (get? a key).or (get? b key) := by
  induction a with
  | nil => rfl
  | cons e rest ih =>
    obtain ⟨k, v⟩ := e
    by_cases h : k = key <;> simp [get?, h, ih]

theorem get?_optionalField {α : Type} (k : String) (f : α → Json) (o : Option α) (key : String) :
    Bindings.get? (optionalField k f o) key = if k = key then o.map f else none := by
  cases o with
  | none => simp [optionalField]
  | some a => simp [optionalField, Bindings.get?]

namespace Read

/-- A field that may be missing is read back if what it holds is, and is not written as null. -/
theorem optional?_map {α : Type} {f : α → Json} {g : Json → Option α} {o : Option α}
    (h : ∀ a, o = some a → g (f a) = some a ∧ f a ≠ .null) : optional? g (o.map f) = some o := by
  cases o with
  | none => rfl
  | some a =>
    obtain ⟨hread, hnull⟩ := h a rfl
    have hsome : optional? g (some (f a)) = (g (f a)).map some := by
      unfold optional?
      split
      · contradiction
      · rename_i heq
        exact absurd (Option.some.inj heq) hnull
      · rename_i heq
        rw [Option.some.inj heq]
    rw [Option.map_some, hsome, hread, Option.map_some]

theorem optional?_text (o : Option String) : optional? Json.text? (o.map .text) = some o :=
  optional?_map fun _ _ => ⟨rfl, fun h => nomatch h⟩

theorem uint32?_toNat (n : UInt32) : uint32? (.integer n.toNat) = some n := by
  have hn := n.toNat_lt
  have hrange : 0 ≤ (n.toNat : Int) ∧ (n.toNat : Int) < Nat.pow 2 32 := by
    have hpow : Nat.pow 2 32 = 2 ^ 32 := rfl
    omega
  rw [uint32?, unsigned?, if_pos hrange, Option.map_some, Int.toNat_natCast, UInt32.ofNat_toNat]

theorem optional?_uint32 (o : Option UInt32) :
    optional? uint32? (o.map fun n => .integer n.toNat) = some o :=
  optional?_map fun n _ => ⟨uint32?_toNat n, fun h => nomatch h⟩

theorem optional?_uint64 (o : Option UInt64) :
    optional? uint64? (o.map fun n => .integer n.toNat) = some o := by
  refine optional?_map fun n _ => ⟨?_, fun h => nomatch h⟩
  have hn := n.toNat_lt
  have hrange : 0 ≤ (n.toNat : Int) ∧ (n.toNat : Int) < Nat.pow 2 64 := by
    have hpow : Nat.pow 2 64 = 2 ^ 64 := rfl
    omega
  rw [uint64?, unsigned?, if_pos hrange, Option.map_some, Int.toNat_natCast, UInt64.ofNat_toNat]

/-- What a field that may be missing holds was read from a tree that is not null. -/
theorem exists_of_optional? {α : Type} {g : Json → Option α} {a : α} : {o : Option Json} →
    optional? g o = some (some a) → ∃ j, o = some j ∧ j ≠ .null ∧ g j = some a
  | none, h => nomatch h
  | some j, h => by
    unfold optional? at h
    split at h
    · contradiction
    · exact nomatch h
    · rename_i hnull heq
      obtain rfl := Option.some.inj heq
      refine ⟨j, rfl, hnull, ?_⟩
      simpa using h

end Read

/-- Variables are left out when there are none, and read as none when they are missing. -/
theorem vars?_variablesField {vars : Bindings Value} (h : Value.FieldsReadBack vars) :
    Read.default? [] Read.vars? (Bindings.get? (variablesField vars) "variables") = some vars := by
  cases vars with
  | nil => rfl
  | cons e rest =>
    change some (Value.ofFields (Value.toFields (e :: rest))) = some (e :: rest)
    rw [h]

theorem vars?_fieldsReadBack {fields : List (String × Json)} {key : String} {vars : Bindings Value}
    (hj : Json.HasProperFields fields)
    (h : Read.default? [] Read.vars? (Bindings.get? fields key) = some vars) :
    Value.FieldsReadBack vars := by
  cases hget : Bindings.get? fields key with
  | none =>
    rw [hget] at h
    obtain rfl : [] = vars := Option.some.inj h
    rfl
  | some j =>
    rw [hget] at h
    cases j with
    | object inner =>
      obtain rfl : Value.ofFields inner = vars := Option.some.inj h
      exact Value.fieldsReadBack_ofFields inner (Json.isProper_of_get? hj hget)
    | _ => exact nomatch h

/-! ### What steps hold -/

/-- The values that the condition compares read back. -/
def Condition.WellRead : Condition → Prop
  | comparison left _ right => left.ReadsBack ∧ right.ReadsBack
  | _ => True

theorem Condition.ofJson?_toJson : {c : Condition} → c.WellRead →
    Condition.ofJson? c.toJson = some c
  | literal _, _ => rfl
  | text _, _ => rfl
  | comparison left operator right, ⟨hl, hr⟩ => by
    change some (comparison (Value.ofJson left.toJson) operator (Value.ofJson right.toJson)) = _
    rw [hl, hr]

theorem Condition.toJson_ne_null (c : Condition) : c.toJson ≠ .null := by
  cases c <;> exact fun h => nomatch h

theorem Condition.wellRead_of_ofJson? {j : Json} {c : Condition} (hj : j.IsProper)
    (h : Condition.ofJson? j = some c) : c.WellRead := by
  cases j with
  | bool b =>
    obtain rfl : literal b = c := Option.some.inj h
    trivial
  | text s =>
    obtain rfl : text s = c := Option.some.inj h
    trivial
  | object fields =>
    simp only [Condition.ofJson?, Option.bind_eq_bind, Option.bind_eq_some_iff,
      Option.some.injEq] at h
    obtain ⟨left, hl, o, ho, operator, hop, right, hr, rfl⟩ := h
    exact ⟨Value.readsBack_ofJson left (Json.isProper_of_get? hj hl),
      Value.readsBack_ofJson right (Json.isProper_of_get? hj hr)⟩
  | _ => exact nomatch h

/-- A retry policy is read back. -/
theorem RetryPolicy.ofJson?_toJson (r : RetryPolicy) : RetryPolicy.ofJson? r.toJson = some r := by
  simp [RetryPolicy.ofJson?, RetryPolicy.toJson, Read.record?, Read.default?, Read.bool?,
    Bindings.get?, Bindings.get?_append, get?_optionalField, Read.optional?_uint32,
    Read.optional?_uint64]

theorem LoopKind.ofJson?_text (k : LoopKind) : LoopKind.ofJson? (.text k.text) = some k := by
  cases k <;> rfl

/-- What the loop goes over, counts to or tests reads back, and is not taken for missing. -/
structure LoopSpec.WellRead (l : LoopSpec) : Prop where
  items : ∀ v, l.items = some v → v.ReadsBack ∧ v ≠ .null
  condition : ∀ c, l.condition = some c → c.WellRead
  times : ∀ v, l.times = some v → v.ReadsBack ∧ v ≠ .null

/-- What the loop goes over, counts to or tests reads back. -/
structure LoopSpec.ValuesReadBack (l : LoopSpec) : Prop where
  items : ∀ v, l.items = some v → v.ReadsBack
  condition : ∀ c, l.condition = some c → c.WellRead
  times : ∀ v, l.times = some v → v.ReadsBack

/-- What a value is read as where it may be missing: null is taken for missing. -/
def Value.unlessNull? : Value → Option Value
  | null => none
  | v => some v

theorem Value.unlessNull?_eq {v : Value} (h : v ≠ .null) : v.unlessNull? = some v := by
  cases v <;> first | rfl | exact absurd rfl h

/-- The loop that the fields of a loop are read as. -/
def LoopSpec.reread (l : LoopSpec) : LoopSpec :=
  { l with items := l.items.bind Value.unlessNull?, times := l.times.bind Value.unlessNull? }

theorem LoopSpec.WellRead.valuesReadBack {l : LoopSpec} (h : l.WellRead) : l.ValuesReadBack :=
  ⟨fun v hv => (h.items v hv).1, h.condition, fun v hv => (h.times v hv).1⟩

theorem LoopSpec.WellRead.reread_eq {l : LoopSpec} (h : l.WellRead) : l.reread = l := by
  have hkeep {o : Option Value} (ho : ∀ v, o = some v → v.ReadsBack ∧ v ≠ .null) :
      o.bind Value.unlessNull? = o := by
    cases o with
    | none => rfl
    | some v => exact Value.unlessNull?_eq (ho v rfl).2
  rw [reread, hkeep h.items, hkeep h.times]

private theorem Read.optional?_value {o : Option Value} (h : ∀ v, o = some v → v.ReadsBack) :
    Read.optional? Read.value? (o.map Value.toJson) = some (o.bind Value.unlessNull?) := by
  cases o with
  | none => rfl
  | some v =>
    by_cases hnull : v = .null
    · subst hnull
      rfl
    · have hread := h v rfl
      rw [Option.bind_some, Value.unlessNull?_eq hnull]
      refine Read.optional?_map fun v' hv => ?_
      obtain rfl := Option.some.inj hv
      exact ⟨congrArg some hread, hread.toJson_ne_null hnull⟩

private theorem Read.readsBack_of_value? {fields : List (String × Json)} {key : String} {v : Value}
    (hj : Json.HasProperFields fields)
    (h : Read.optional? Read.value? (Bindings.get? fields key) = some (some v)) :
    v.ReadsBack ∧ v ≠ .null := by
  obtain ⟨j, hget, hnull, hv⟩ := Read.exists_of_optional? h
  obtain rfl : Value.ofJson j = v := Option.some.inj hv
  exact ⟨Value.readsBack_ofJson j (Json.isProper_of_get? hj hget), Value.ofJson_ne_null hnull⟩

theorem LoopSpec.wellRead_of_ofFields? {fields : List (String × Json)} {l : LoopSpec}
    (hj : Json.HasProperFields fields) (h : LoopSpec.ofFields? fields = some l) : l.WellRead := by
  simp only [LoopSpec.ofFields?, Option.bind_eq_bind, Option.bind_eq_some_iff,
    Option.some.injEq] at h
  obtain ⟨_, -, _, -, items, hitems, condition, hcondition, times, htimes, _, -, _, -, rfl⟩ := h
  refine ⟨?_, ?_, ?_⟩
  · rintro v rfl
    exact Read.readsBack_of_value? hj hitems
  · rintro c rfl
    obtain ⟨j, hget, -, hc⟩ := Read.exists_of_optional? hcondition
    exact Condition.wellRead_of_ofJson? (Json.isProper_of_get? hj hget) hc
  · rintro v rfl
    exact Read.readsBack_of_value? hj htimes

/-! ### Steps -/

namespace Step

mutual

/-- Everything that the step holds reads back. -/
def WellRead : Step → Prop
  | action _ payload => payload.ReadsBack
  | condition _ test whenTrue whenFalse =>
    test.WellRead ∧ AllWellRead whenTrue ∧ AllWellRead whenFalse
  | loop _ spec body => spec.WellRead ∧ AllWellRead body
  | wait _ duration => duration.ReadsBack
  | parallel _ branches => BranchesWellRead branches
  | subWorkflow _ workflowId vars => workflowId.ReadsBack ∧ Value.FieldsReadBack vars
  | script _ _ _ => True

/-- Everything that the steps of a list hold reads back. -/
def AllWellRead : List Step → Prop
  | [] => True
  | s :: rest => s.WellRead ∧ AllWellRead rest

/-- Everything that the steps of branches hold reads back. -/
def BranchesWellRead : List (List Step) → Prop
  | [] => True
  | b :: rest => AllWellRead b ∧ BranchesWellRead rest

end

mutual

/-- The values that the step holds read back. -/
def ValuesReadBack : Step → Prop
  | action _ payload => payload.ReadsBack
  | condition _ test whenTrue whenFalse =>
    test.WellRead ∧ AllValuesReadBack whenTrue ∧ AllValuesReadBack whenFalse
  | loop _ spec body => spec.ValuesReadBack ∧ AllValuesReadBack body
  | wait _ duration => duration.ReadsBack
  | parallel _ branches => BranchValuesReadBack branches
  | subWorkflow _ workflowId vars => workflowId.ReadsBack ∧ Value.FieldsReadBack vars
  | script _ _ _ => True

/-- The values that the steps of a list hold read back. -/
def AllValuesReadBack : List Step → Prop
  | [] => True
  | s :: rest => s.ValuesReadBack ∧ AllValuesReadBack rest

/-- The values that the steps of branches hold read back. -/
def BranchValuesReadBack : List (List Step) → Prop
  | [] => True
  | b :: rest => AllValuesReadBack b ∧ BranchValuesReadBack rest

end

mutual

/-- The step that the tree of a step is read as. -/
def reread : Step → Step
  | condition i test whenTrue whenFalse =>
    condition i test (rereadAll whenTrue) (rereadAll whenFalse)
  | loop i spec body => loop i spec.reread (rereadAll body)
  | parallel i branches => parallel i (rereadBranches branches)
  | s => s

/-- The steps that the trees of a list are read as. -/
def rereadAll : List Step → List Step
  | [] => []
  | s :: rest => s.reread :: rereadAll rest

/-- The branches that the trees of branches are read as. -/
def rereadBranches : List (List Step) → List (List Step)
  | [] => []
  | b :: rest => rereadAll b :: rereadBranches rest

end

mutual

theorem WellRead.valuesReadBack : (s : Step) → s.WellRead → s.ValuesReadBack
  | .action _ _, h => h
  | .condition _ _ whenTrue whenFalse, ⟨htest, htrue, hfalse⟩ =>
    ⟨htest, AllWellRead.valuesReadBack whenTrue htrue, AllWellRead.valuesReadBack whenFalse hfalse⟩
  | .loop _ _ body, ⟨hspec, hbody⟩ =>
    ⟨hspec.valuesReadBack, AllWellRead.valuesReadBack body hbody⟩
  | .wait _ _, h => h
  | .parallel _ branches, h => BranchesWellRead.valuesReadBack branches h
  | .subWorkflow _ _ _, h => h
  | .script _ _ _, _ => trivial

theorem AllWellRead.valuesReadBack : (steps : List Step) → AllWellRead steps →
    AllValuesReadBack steps
  | [], _ => trivial
  | s :: rest, ⟨hs, hrest⟩ => ⟨WellRead.valuesReadBack s hs, AllWellRead.valuesReadBack rest hrest⟩

theorem BranchesWellRead.valuesReadBack : (branches : List (List Step)) →
    BranchesWellRead branches → BranchValuesReadBack branches
  | [], _ => trivial
  | b :: rest, ⟨hb, hrest⟩ =>
    ⟨AllWellRead.valuesReadBack b hb, BranchesWellRead.valuesReadBack rest hrest⟩

end

mutual

/-- What is well read is read as it was. -/
theorem WellRead.reread_eq : (s : Step) → s.WellRead → s.reread = s
  | .action _ _, _ => rfl
  | .condition _ _ whenTrue whenFalse, ⟨_, htrue, hfalse⟩ => by
    rw [reread, AllWellRead.rereadAll_eq whenTrue htrue, AllWellRead.rereadAll_eq whenFalse hfalse]
  | .loop _ spec body, ⟨hspec, hbody⟩ => by
    rw [reread, hspec.reread_eq, AllWellRead.rereadAll_eq body hbody]
  | .wait _ _, _ => rfl
  | .parallel _ branches, h => by rw [reread, BranchesWellRead.rereadBranches_eq branches h]
  | .subWorkflow _ _ _, _ => rfl
  | .script _ _ _, _ => rfl

theorem AllWellRead.rereadAll_eq : (steps : List Step) → AllWellRead steps →
    rereadAll steps = steps
  | [], _ => rfl
  | s :: rest, ⟨hs, hrest⟩ => by
    rw [rereadAll, WellRead.reread_eq s hs, AllWellRead.rereadAll_eq rest hrest]

theorem BranchesWellRead.rereadBranches_eq : (branches : List (List Step)) →
    BranchesWellRead branches → rereadBranches branches = branches
  | [], _ => rfl
  | b :: rest, ⟨hb, hrest⟩ => by
    rw [rereadBranches, AllWellRead.rereadAll_eq b hb,
      BranchesWellRead.rereadBranches_eq rest hrest]

end

theorem get?_lists (key : String) : (fields : List (String × Json)) →
    Bindings.get? (lists fields) key = (Bindings.get? fields key).map list?
  | [] => rfl
  | (k, j) :: rest => by
    unfold lists Bindings.get?
    split
    · rfl
    · exact get?_lists key rest

theorem get?_branchLists (key : String) : (fields : List (String × Json)) →
    Bindings.get? (branchLists fields) key = (Bindings.get? fields key).map branches?
  | [] => rfl
  | (k, j) :: rest => by
    unfold branchLists Bindings.get?
    split
    · rfl
    · exact get?_branchLists key rest

/-- The keys of what steps of every kind may have. -/
def infoKeys : List String := ["name", "outputVariable", "retry"]

end Step

/-- What a step has whatever its kind is read back, whatever other fields follow. -/
theorem StepInfo.ofFields?_fields (i : StepInfo) {rest : List (String × Json)}
    (h : ∀ key ∈ Step.infoKeys, Bindings.get? rest key = none) :
    StepInfo.ofFields? (i.fields ++ rest) = some i := by
  have hname := h "name" (by decide)
  have houtput := h "outputVariable" (by decide)
  have hretry := h "retry" (by decide)
  have hpolicy : Read.optional? RetryPolicy.ofJson? (i.retry.map RetryPolicy.toJson) =
      some i.retry := by
    refine Read.optional?_map fun r _ => ⟨RetryPolicy.ofJson?_toJson r, ?_⟩
    exact fun h => nomatch h
  simp [StepInfo.ofFields?, StepInfo.fields, Bindings.get?_append, get?_optionalField, hname,
    houtput, hretry, hpolicy, Read.optional?_text]

theorem StepInfo.get?_fields (i : StepInfo) {key : String} (h : key ∉ Step.infoKeys) :
    Bindings.get? i.fields key = none := by
  simp only [Step.infoKeys, List.mem_cons, List.not_mem_nil, or_false, not_or] at h
  simp [StepInfo.fields, Bindings.get?_append, get?_optionalField, Ne.symm h.1, Ne.symm h.2.1,
    Ne.symm h.2.2]

theorem StepKind.ofTag?_text (k : StepKind) : StepKind.ofTag? (.text k.text) = some k := by
  cases k <;> decide

namespace Step

/-- A step is read back if it is put together from what the fields of a step of its kind give:
those of every step, the name of the kind, and what the kind has beside them. -/
private theorem ofJson?_fieldsOf (i : StepInfo) (kind : StepKind) {rest : List (String × Json)}
    {s : Step} (hfree : ∀ key ∈ "type" :: infoKeys, Bindings.get? rest key = none)
    (h : ∀ fields, StepInfo.ofFields? fields = some i →
      Bindings.get? fields "type" = some (.text kind.text) →
      (∀ key, key ∉ "type" :: infoKeys → Bindings.get? fields key = Bindings.get? rest key) →
        assemble? fields (lists fields) (branchLists fields) = some s) :
    ofJson? (fieldsOf i kind.text rest) = some s := by
  refine h _ ?_ ?_ ?_
  · refine i.ofFields?_fields fun key hkey => ?_
    have htype : "type" ≠ key := by
      rintro rfl
      exact absurd hkey (by decide)
    rw [Bindings.get?, if_neg htype]
    exact hfree key (List.mem_cons_of_mem _ hkey)
  · rw [Bindings.get?_append, i.get?_fields (by decide)]
    rfl
  · intro key hkey
    obtain ⟨htype, hinfo⟩ := not_or.mp (List.mem_cons.not.mp hkey)
    rw [Bindings.get?_append, i.get?_fields hinfo, Option.none_or, Bindings.get?,
      if_neg (Ne.symm htype)]

private theorem ofFields?_loop {spec : LoopSpec} {fields : List (String × Json)}
    (h : spec.ValuesReadBack)
    (hkind : Bindings.get? fields "loopType" = some (.text spec.kind.text))
    (hitems : Bindings.get? fields "items" = spec.items.map Value.toJson)
    (hcondition : Bindings.get? fields "condition" = spec.condition.map Condition.toJson)
    (htimes : Bindings.get? fields "times" = spec.times.map Value.toJson)
    (hvariable : Bindings.get? fields "itemVariable" = spec.itemVariable.map .text)
    (hmax : Bindings.get? fields "maxIterations" =
      spec.maxIterations.map fun n => .integer n.toNat) :
    LoopSpec.ofFields? fields = some spec.reread := by
  have htest : Read.optional? Condition.ofJson? (spec.condition.map Condition.toJson) =
      some spec.condition :=
    Read.optional?_map fun c hc => ⟨Condition.ofJson?_toJson (h.condition c hc), c.toJson_ne_null⟩
  simp [LoopSpec.ofFields?, LoopSpec.reread, hkind, hitems, hcondition, htimes, hvariable, hmax,
    LoopKind.ofJson?_text, Read.optional?_value h.items, htest, Read.optional?_value h.times,
    Read.optional?_text, Read.optional?_uint32]

mutual

/-- The tree of a step reads as the step without what null stands for, if its values read back. -/
theorem ofJson?_toJson_eq_reread : (s : Step) → s.ValuesReadBack →
    ofJson? s.toJson = some s.reread
  | .action i payload, h => by
    refine ofJson?_fieldsOf i .action (by simp [infoKeys, Bindings.get?]) ?_
    intro fields hi htype hrest
    have hread : Value.ofJson payload.toJson = payload := h
    simp [assemble?, reread, hi, htype, StepKind.ofTag?_text, hrest, infoKeys, Bindings.get?, hread]
  | .condition i test whenTrue whenFalse, ⟨htest, htrue, hfalse⟩ => by
    refine ofJson?_fieldsOf i .condition ?_ ?_
    · cases whenFalse <;> simp [infoKeys, Bindings.get?]
    · intro fields hi htype hrest
      have helse : listOf? (lists fields) "else" = some (rereadAll whenFalse) := by
        rw [listOf?, get?_lists, hrest "else" (by decide)]
        cases whenFalse with
        | nil => simp [Bindings.get?, rereadAll]
        | cons s rest =>
          have hitems := ofItems?_toItems_eq_reread (s :: rest) hfalse
          simp [Bindings.get?, list?, hitems]
      have hthen : listOf? (lists fields) "then" = some (rereadAll whenTrue) := by
        have hitems := ofItems?_toItems_eq_reread whenTrue htrue
        simp [listOf?, get?_lists, hrest, infoKeys, Bindings.get?, list?, hitems]
      simp [assemble?, reread, hi, htype, StepKind.ofTag?_text, hrest, infoKeys, Bindings.get?,
        Condition.ofJson?_toJson htest, hthen, helse]
  | .loop i spec body, ⟨hspec, hbody⟩ => by
    refine ofJson?_fieldsOf i .loop ?_ ?_
    · simp [infoKeys, Bindings.get?, Bindings.get?_append, get?_optionalField]
    · intro fields hi htype hrest
      have hread : LoopSpec.ofFields? fields = some spec.reread := by
        apply ofFields?_loop hspec <;>
          simp [hrest, infoKeys, Bindings.get?, Bindings.get?_append, get?_optionalField]
      have hitems := ofItems?_toItems_eq_reread body hbody
      simp [assemble?, reread, hi, htype, StepKind.ofTag?_text, hread, listOf?, get?_lists, hrest,
        infoKeys, Bindings.get?, Bindings.get?_append, get?_optionalField, list?, hitems]
  | .wait i duration, h => by
    refine ofJson?_fieldsOf i .wait (by simp [infoKeys, Bindings.get?]) ?_
    intro fields hi htype hrest
    have hread : Value.ofJson duration.toJson = duration := h
    simp [assemble?, reread, hi, htype, StepKind.ofTag?_text, hrest, infoKeys, Bindings.get?, hread]
  | .parallel i branches, h => by
    refine ofJson?_fieldsOf i .parallel (by simp [infoKeys, Bindings.get?]) ?_
    intro fields hi htype hrest
    have hbranches := ofBranches?_toBranches_eq_reread branches h
    simp [assemble?, reread, hi, htype, StepKind.ofTag?_text, get?_branchLists, hrest, infoKeys,
      Bindings.get?, branches?, hbranches]
  | .subWorkflow i workflowId vars, ⟨hid, hvars⟩ => by
    refine ofJson?_fieldsOf i .subWorkflow ?_ ?_
    · cases vars <;> simp [infoKeys, Bindings.get?, variablesField]
    · intro fields hi htype hrest
      have hread : Value.ofJson workflowId.toJson = workflowId := hid
      have hfield := vars?_variablesField hvars
      simp [assemble?, reread, hi, htype, StepKind.ofTag?_text, hrest, infoKeys, Bindings.get?,
        hread, hfield]
  | .script i source timeout, _ => by
    refine ofJson?_fieldsOf i .script ?_ ?_
    · simp [infoKeys, Bindings.get?, get?_optionalField]
    · intro fields hi htype hrest
      simp [assemble?, reread, hi, htype, StepKind.ofTag?_text, hrest, infoKeys, Bindings.get?,
        get?_optionalField, Json.text?, Read.optional?_uint64]

/-- The trees of steps read as the steps without what null stands for. -/
theorem ofItems?_toItems_eq_reread : (steps : List Step) → AllValuesReadBack steps →
    ofItems? (toItems steps) = some (rereadAll steps)
  | [], _ => rfl
  | s :: rest, ⟨hs, hrest⟩ => by
    rw [toItems, rereadAll, ofItems?, ofJson?_toJson_eq_reread s hs,
      ofItems?_toItems_eq_reread rest hrest]

/-- The trees of branches read as the branches without what null stands for. -/
theorem ofBranches?_toBranches_eq_reread : (branches : List (List Step)) →
    BranchValuesReadBack branches →
      ofBranches? (toBranches branches) = some (rereadBranches branches)
  | [], _ => rfl
  | b :: rest, ⟨hb, hrest⟩ => by
    rw [toBranches, rereadBranches, ofBranches?, list?, ofItems?_toItems_eq_reread b hb,
      ofBranches?_toBranches_eq_reread rest hrest]

end

/-- The trees of well-read steps read as the steps. -/
theorem ofItems?_toItems {steps : List Step} (h : AllWellRead steps) :
    ofItems? (toItems steps) = some steps := by
  rw [ofItems?_toItems_eq_reread steps (AllWellRead.valuesReadBack steps h),
    AllWellRead.rereadAll_eq steps h]

/-! ### What proper trees describe -/

/-- The lists of steps that fields give are well read. -/
private def ListsWellRead (lists : Bindings (Option (List Step))) : Prop :=
  ∀ key steps, Bindings.get? lists key = some (some steps) → AllWellRead steps

private theorem wellRead_of_listOf? {lists : Bindings (Option (List Step))} {key : String}
    {steps : List Step} (h : ListsWellRead lists) (hs : listOf? lists key = some steps) :
    AllWellRead steps := by
  rw [listOf?] at hs
  cases hget : Bindings.get? lists key with
  | none =>
    rw [hget] at hs
    obtain rfl : [] = steps := Option.some.inj hs
    trivial
  | some o =>
    rw [hget] at hs
    obtain rfl : o = some steps := hs
    exact h key steps hget

/-- A step is well read if it is put together from proper fields and well-read lists. -/
private theorem wellRead_of_assemble? {fields : List (String × Json)}
    {lists : Bindings (Option (List Step))} {branches : Bindings (Option (List (List Step)))}
    {s : Step} (hj : Json.HasProperFields fields) (hlists : ListsWellRead lists)
    (hbranches : ∀ key bs, Bindings.get? branches key = some (some bs) → BranchesWellRead bs)
    (h : assemble? fields lists branches = some s) : s.WellRead := by
  have hvalue {key : String} {j : Json} (hget : Bindings.get? fields key = some j) :
      (Value.ofJson j).ReadsBack :=
    Value.readsBack_ofJson j (Json.isProper_of_get? hj hget)
  simp only [assemble?, Option.bind_eq_bind, Option.bind_eq_some_iff] at h
  obtain ⟨i, -, tag, -, kind, -, h⟩ := h
  cases kind with
  | action =>
    simp only [Option.bind_eq_some_iff, Option.some.injEq] at h
    obtain ⟨payload, hpayload, rfl⟩ := h
    exact hvalue hpayload
  | condition =>
    simp only [Option.bind_eq_some_iff, Option.some.injEq] at h
    obtain ⟨j, hget, test, htest, whenTrue, htrue, whenFalse, hfalse, rfl⟩ := h
    exact ⟨Condition.wellRead_of_ofJson? (Json.isProper_of_get? hj hget) htest,
      wellRead_of_listOf? hlists htrue, wellRead_of_listOf? hlists hfalse⟩
  | loop =>
    simp only [Option.bind_eq_some_iff, Option.some.injEq] at h
    obtain ⟨spec, hspec, body, hbody, rfl⟩ := h
    exact ⟨LoopSpec.wellRead_of_ofFields? hj hspec, wellRead_of_listOf? hlists hbody⟩
  | wait =>
    simp only [Option.bind_eq_some_iff, Option.some.injEq] at h
    obtain ⟨duration, hduration, rfl⟩ := h
    exact hvalue hduration
  | parallel =>
    simp only [Option.bind_eq_some_iff, Option.some.injEq] at h
    obtain ⟨o, hget, bs, rfl, rfl⟩ := h
    exact hbranches _ bs hget
  | subWorkflow =>
    simp only [Option.bind_eq_some_iff, Option.some.injEq] at h
    obtain ⟨workflowId, hid, vars, hvars, rfl⟩ := h
    exact ⟨hvalue hid, vars?_fieldsReadBack hj hvars⟩
  | script =>
    simp only [Option.bind_eq_some_iff, Option.some.injEq] at h
    obtain ⟨_, -, _, -, _, -, rfl⟩ := h
    trivial

mutual

private theorem wellRead_of_ofJson? : (j : Json) → j.IsProper → ∀ s, ofJson? j = some s →
    s.WellRead
  | j, hj, s, h => by
    cases j with
    | object fields =>
      exact wellRead_of_assemble? hj (listsWellRead_lists fields hj)
        (branchesWellRead_lists fields hj) h
    | _ => exact nomatch h

/-- The steps of a proper tree are well read. -/
theorem wellRead_of_list? : (j : Json) → j.IsProper → ∀ steps, list? j = some steps →
    AllWellRead steps
  | j, hj, steps, h => by
    cases j with
    | array items => exact wellRead_of_ofItems? items hj steps h
    | _ => exact nomatch h

private theorem wellRead_of_ofItems? : (items : List Json) → Json.AreProper items →
    ∀ steps, ofItems? items = some steps → AllWellRead steps
  | [], _, _, h => Option.some.inj h ▸ trivial
  | j :: rest, ⟨hj, hrest⟩, steps, h => by
    unfold ofItems? at h
    split at h
    · rename_i s ss hs hss
      obtain rfl := Option.some.inj h
      exact ⟨wellRead_of_ofJson? j hj s hs, wellRead_of_ofItems? rest hrest ss hss⟩
    · exact nomatch h

private theorem listsWellRead_lists : (fields : List (String × Json)) →
    Json.HasProperFields fields → ListsWellRead (lists fields)
  | [], _, _, _, h => nomatch h
  | (k, j) :: rest, ⟨hj, hrest⟩, key, steps, h => by
    unfold lists Bindings.get? at h
    split at h
    · exact wellRead_of_list? j hj steps (Option.some.inj h)
    · exact listsWellRead_lists rest hrest key steps h

private theorem wellRead_of_ofBranches? : (items : List Json) → Json.AreProper items →
    ∀ bs, ofBranches? items = some bs → BranchesWellRead bs
  | [], _, _, h => Option.some.inj h ▸ trivial
  | j :: rest, ⟨hj, hrest⟩, bs, h => by
    unfold ofBranches? at h
    split at h
    · rename_i b bs' hb hbs
      obtain rfl := Option.some.inj h
      exact ⟨wellRead_of_list? j hj b hb, wellRead_of_ofBranches? rest hrest bs' hbs⟩
    · exact nomatch h

private theorem wellRead_of_branches? : (j : Json) → j.IsProper → ∀ bs, branches? j = some bs →
    BranchesWellRead bs
  | j, hj, bs, h => by
    cases j with
    | array items => exact wellRead_of_ofBranches? items hj bs h
    | _ => exact nomatch h

private theorem branchesWellRead_lists : (fields : List (String × Json)) →
    Json.HasProperFields fields →
      ∀ key bs, Bindings.get? (branchLists fields) key = some (some bs) → BranchesWellRead bs
  | [], _, _, _, h => nomatch h
  | (k, j) :: rest, ⟨hj, hrest⟩, key, bs, h => by
    unfold branchLists Bindings.get? at h
    split at h
    · exact wellRead_of_branches? j hj bs (Option.some.inj h)
    · exact branchesWellRead_lists rest hrest key bs h

end

end Step

end Workflow
