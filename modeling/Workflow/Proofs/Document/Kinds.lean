import Workflow.Proofs.Document.Definition

/-!
# Unknown kinds of step

The kinds of the steps of a document are checked on its raw tree, before the definition is read from
it. Both go down the tree, each in its own way: the check walks into every field that may hold
steps, whatever the kind of the step, and takes the spellings that a rule makes of the names of the
kinds; the reader goes only where a step of the kind that it has read may hold steps, and takes the
spellings of a list. So the check meets every step that the reader comes to, and what it lets pass
the reader can tell the kind of.

## Main definitions

* `Workflow.Json.walk` — the steps of a raw tree in the order of a walk from the top.
* `Workflow.RawStep.IsKnown`, `Workflow.RawStep.reported` — the steps of known kinds, and what an
  unknown kind is reported as.
* `Workflow.Step.Visits`, `Workflow.Step.ReadsAlone` — the reader comes to a step, and the step
  gives it no reason to fail.

## Main results

* `Workflow.Step.isSome_ofItems?_iff` — the reader fails just if a step that it comes to gives it a
  reason.
* `Workflow.unknownInItems?_eq` — the check finds the first unknown step of the walk.
* `Workflow.Step.mem_walk_of_visits` — the walk meets every step that the reader comes to.
* `Workflow.Definition.unknownKind_iff` — the unknown kind of a document is the first that the walk
  meets, and if there is none then the reader can tell the kind of every step that it comes to.
-/

namespace Workflow

/-! ### The walk -/

/-- A step of a raw tree, at its path. -/
structure RawStep where
  path : Path
  tree : Json

namespace Json

/-- The items of a field, if it is there and an array. -/
def listed (j : Option Json) : List Json := (j.bind items?).getD []

theorem sizeOf_listed_some : (j : Json) → sizeOf (listed (some j)) ≤ sizeOf j
  | array items => by simp [listed, items?]
  | null | bool _ | integer _ | float _ | text _ | object _ => by simp [listed, items?]

theorem sizeOf_lt_of_get? {key : String} {j : Json} : {fields : List (String × Json)} →
    Bindings.get? fields key = some j → sizeOf j < sizeOf fields
  | (k, v) :: rest, h => by
    unfold Bindings.get? at h
    split at h
    · cases h
      simp only [List.cons.sizeOf_spec, Prod.mk.sizeOf_spec]
      omega
    · have hrest := sizeOf_lt_of_get? h
      simp only [List.cons.sizeOf_spec]
      omega

theorem sizeOf_listed_field (j : Json) (key : String) :
    sizeOf (listed (j.field? key)) ≤ sizeOf j := by
  cases h : j.field? key with
  | none => cases j <;> simp [listed]
  | some v =>
    have hv := sizeOf_listed_some v
    cases j with
    | object fields =>
      have hfields := sizeOf_lt_of_get? h
      simp only [object.sizeOf_spec]
      omega
    | _ => exact nomatch h

mutual

/-- A step and the steps within it, in order: its own lists first, then its branches. -/
def walk (path : Path) (j : Json) : List RawStep :=
  ⟨path, j⟩ ::
    (walkItems (path ++ [.whenTrue]) 0 (listed (j.field? "then")) ++
      (walkItems (path ++ [.whenFalse]) 0 (listed (j.field? "else")) ++
        (walkItems (path ++ [.body]) 0 (listed (j.field? "steps")) ++
          walkBranches path 0 (listed (j.field? "branches")))))
termination_by 2 * sizeOf j + 1
decreasing_by
  · have hle := sizeOf_listed_field j "then"; omega
  · have hle := sizeOf_listed_field j "else"; omega
  · have hle := sizeOf_listed_field j "steps"; omega
  · have hle := sizeOf_listed_field j "branches"; omega

/-- The steps of a list, counted from `i`. -/
def walkItems (list : Path) (i : Nat) : List Json → List RawStep
  | [] => []
  | j :: rest => walk (list ++ [.step i]) j ++ walkItems list (i + 1) rest
termination_by items => 2 * sizeOf items
decreasing_by
  · simp only [List.cons.sizeOf_spec]; omega
  · simp only [List.cons.sizeOf_spec]; omega

/-- The steps of branches, counted from `b`; a branch that is no array has none. -/
def walkBranches (step : Path) (b : Nat) : List Json → List RawStep
  | [] => []
  | j :: rest =>
    walkItems (step ++ [.branch b]) 0 (listed (some j)) ++ walkBranches step (b + 1) rest
termination_by branches => 2 * sizeOf branches
decreasing_by
  · have hj := sizeOf_listed_some j
    simp only [List.cons.sizeOf_spec]; omega
  · simp only [List.cons.sizeOf_spec]; omega

end

end Json

/-! ### Known kinds -/

namespace RawStep

/-- The step names a known kind in one of its spellings. -/
def IsKnown (s : RawStep) : Prop :=
  ∃ kind : StepKind, s.tree.field? "type" = some (.text kind.text) ∨
    s.tree.field? "type" = some (.text kind.capitalized)

/-- What the kind of a step is reported as: a text as it stands, any other tree in compact form, and
nothing when there is none. -/
def reported (s : RawStep) : String :=
  match s.tree.field? "type" with
  | some (.text kind) => kind
  | some j => j.compact
  | none => ""

/-- What the check of one step finds. -/
def fault? (s : RawStep) : Option UnknownKind :=
  (unknownName? s.tree).map fun kind => ⟨s.path, kind⟩

end RawStep

theorem StepKind.isSome_ofText?_iff {s : String} :
    (ofText? s).isSome = true ↔ ∃ kind : StepKind, kind.text = s ∨ kind.capitalized = s := by
  have hall (kind : StepKind) : kind ∈ all := by cases kind <;> decide
  simp only [ofText?, List.find?_isSome, hall, true_and, Bool.or_eq_true, decide_eq_true_eq]

/-- The check of one step reports what is no known kind. -/
theorem unknownName?_eq_none_iff {j : Json} {path : Path} :
    unknownName? j = none ↔ RawStep.IsKnown ⟨path, j⟩ := by
  unfold unknownName? RawStep.IsKnown
  cases h : j.field? "type" with
  | none => simp
  | some tag =>
    cases tag with
    | text s =>
      simp only [ite_eq_left_iff, reduceCtorEq, imp_false, Classical.not_not, Option.some.injEq,
        Json.text.injEq, StepKind.isSome_ofText?_iff, eq_comm (a := s)]
    | _ => simp

namespace RawStep

theorem fault?_eq_none_iff {s : RawStep} : s.fault? = none ↔ s.IsKnown := by
  rw [fault?, Option.map_eq_none_iff, unknownName?_eq_none_iff]

theorem eq_of_fault? {s : RawStep} {u : UnknownKind} (h : s.fault? = some u) :
    u = ⟨s.path, s.reported⟩ := by
  obtain ⟨kind, hkind, rfl⟩ := Option.map_eq_some_iff.mp h
  have hreported : s.reported = kind := by
    unfold unknownName? at hkind
    unfold reported
    split at hkind <;> simp_all
  rw [hreported]

end RawStep

/-! ### The check follows the walk -/

/-- A field is checked as the list that it is. -/
theorem firstUnknown?_eq (p : Path) (j : Json) :
    firstUnknown? p j = unknownInItems? p 0 (Json.listed (some j)) := by
  cases j <;> rfl

theorem unknownInAlternatives?_eq (p : Path) (j : Json) :
    unknownInAlternatives? p j = unknownInBranches? p 0 (Json.listed (some j)) := by
  cases j <;> rfl

/-- The check goes into the lists of a step in the order of the walk. -/
theorem unknownInStep?_of_known {path : Path} {j : Json} (h : unknownName? j = none) :
    unknownInStep? path j =
      (unknownInItems? (path ++ [.whenTrue]) 0 (Json.listed (j.field? "then"))).or
        ((unknownInItems? (path ++ [.whenFalse]) 0 (Json.listed (j.field? "else"))).or
          ((unknownInItems? (path ++ [.body]) 0 (Json.listed (j.field? "steps"))).or
            (unknownInBranches? path 0 (Json.listed (j.field? "branches"))))) := by
  cases j with
  | object fields =>
    have hlist (key : String) (p : Path) :
        ((Bindings.get? (unknownInFields fields) key).bind fun n => n.inList p) =
          unknownInItems? p 0 (Json.listed (Bindings.get? fields key)) := by
      rw [get?_unknownInFields, Option.bind_map]
      cases Bindings.get? fields key with
      | none => rfl
      | some j => exact firstUnknown?_eq p j
    have hbranches : ((Bindings.get? (unknownInFields fields) "branches").bind
        fun n => n.inBranches path) =
          unknownInBranches? path 0 (Json.listed (Bindings.get? fields "branches")) := by
      rw [get?_unknownInFields, Option.bind_map]
      cases Bindings.get? fields "branches" with
      | none => rfl
      | some j => exact unknownInAlternatives?_eq path j
    rw [unknownInStep?, h]
    simp only [firstNested?, hlist, hbranches, Json.field?]
  | _ => simp [unknownName?, Json.field?] at h

theorem unknownInStep?_of_unknown {path : Path} {j : Json} {kind : String}
    (h : unknownName? j = some kind) : unknownInStep? path j = some ⟨path, kind⟩ := by
  cases j with
  | object fields => rw [unknownInStep?, h]
  | _ => simp only [unknownInStep?, h, Option.map_some]

mutual

/-- The check of a step finds the first unknown step of its walk. -/
theorem unknownInStep?_eq (path : Path) (j : Json) :
    unknownInStep? path j = (Json.walk path j).findSome? RawStep.fault? := by
  rw [Json.walk, List.findSome?_cons, RawStep.fault?]
  cases h : unknownName? j with
  | some kind => exact unknownInStep?_of_unknown h
  | none =>
    rw [unknownInStep?_of_known h, unknownInItems?_eq _ 0 (Json.listed (j.field? "then")),
      unknownInItems?_eq _ 0 (Json.listed (j.field? "else")),
      unknownInItems?_eq _ 0 (Json.listed (j.field? "steps")),
      unknownInBranches?_eq _ 0 (Json.listed (j.field? "branches"))]
    simp only [Option.map_none, List.findSome?_append]
termination_by 2 * sizeOf j + 1
decreasing_by
  · have hle := Json.sizeOf_listed_field j "then"; omega
  · have hle := Json.sizeOf_listed_field j "else"; omega
  · have hle := Json.sizeOf_listed_field j "steps"; omega
  · have hle := Json.sizeOf_listed_field j "branches"; omega

/-- The check of a list finds the first unknown step of its walk. -/
theorem unknownInItems?_eq (list : Path) (i : Nat) : (items : List Json) →
    unknownInItems? list i items = (Json.walkItems list i items).findSome? RawStep.fault?
  | [] => by rw [unknownInItems?, Json.walkItems, List.findSome?_nil]
  | j :: rest => by
    rw [unknownInItems?, Json.walkItems, List.findSome?_append, unknownInStep?_eq _ j,
      unknownInItems?_eq _ _ rest]
termination_by items => 2 * sizeOf items
decreasing_by
  · simp only [List.cons.sizeOf_spec]; omega
  · simp only [List.cons.sizeOf_spec]; omega

/-- The check of branches finds the first unknown step of their walk. -/
theorem unknownInBranches?_eq (step : Path) (b : Nat) : (branches : List Json) →
    unknownInBranches? step b branches =
      (Json.walkBranches step b branches).findSome? RawStep.fault?
  | [] => by rw [unknownInBranches?, Json.walkBranches, List.findSome?_nil]
  | j :: rest => by
    rw [unknownInBranches?, Json.walkBranches, List.findSome?_append, firstUnknown?_eq,
      unknownInItems?_eq _ 0 (Json.listed (some j)), unknownInBranches?_eq _ _ rest]
termination_by branches => 2 * sizeOf branches
decreasing_by
  · have hj := Json.sizeOf_listed_some j
    simp only [List.cons.sizeOf_spec]; omega
  · simp only [List.cons.sizeOf_spec]; omega

end

/-! ### The steps that the reader comes to -/

namespace Step

/-- The trees that a step of a kind is read as lists of steps from. -/
def within (fields : List (String × Json)) : StepKind → List Json
  | .condition => (Bindings.get? fields "then").toList ++ (Bindings.get? fields "else").toList
  | .loop => (Bindings.get? fields "steps").toList
  | .parallel => Json.listed (Bindings.get? fields "branches")
  | _ => []

/-- The kind that the fields of a step are read as. -/
def tag? (fields : List (String × Json)) : Option StepKind :=
  (Bindings.get? fields "type").bind StepKind.ofTag?

/-- The reader that is given a list of trees comes to a tree that should be a step. -/
inductive Visits : List Json → Json → Prop
  | item {items : List Json} {j : Json} (h : j ∈ items) : Visits items j
  | within {items list : List Json} {fields : List (String × Json)} {kind : StepKind} {j : Json}
      (hf : .object fields ∈ items) (hk : tag? fields = some kind)
      (hl : .array list ∈ Step.within fields kind) (h : Visits list j) : Visits items j

/-- A tree gives the reader no reason to fail: its kind and the fields of this kind are read when
nothing is in the lists of steps within it, and what should be lists are lists. -/
def ReadsAlone : Json → Prop
  | .object fields =>
    (assemble? fields [] [("branches", some [])]).isSome = true ∧
    ∀ kind, tag? fields = some kind →
      (kind = .parallel → ∃ items, Bindings.get? fields "branches" = some (.array items)) ∧
      ∀ l ∈ within fields kind, ∃ list, l = .array list
  | _ => False

theorem isSome_ofItems? {items : List Json} :
    (ofItems? items).isSome = true ↔ ∀ j ∈ items, (ofJson? j).isSome = true := by
  induction items with
  | nil => simp [ofItems?]
  | cons j rest ih =>
    rw [ofItems?]
    cases hj : ofJson? j <;> cases hrest : ofItems? rest <;> simp_all

theorem isSome_ofBranches? {items : List Json} :
    (ofBranches? items).isSome = true ↔ ∀ j ∈ items, (list? j).isSome = true := by
  induction items with
  | nil => simp [ofBranches?]
  | cons j rest ih =>
    rw [ofBranches?]
    cases hj : list? j <;> cases hrest : ofBranches? rest <;> simp_all

theorem isSome_list? {l : Json} :
    (list? l).isSome = true ↔ ∃ list, l = .array list ∧ (ofItems? list).isSome = true := by
  cases l <;> simp [list?]

theorem forall_isSome_list? {ls : List Json} :
    (∀ l ∈ ls, (list? l).isSome = true) ↔ (∀ l ∈ ls, ∃ list, l = .array list) ∧
      ∀ list, .array list ∈ ls → (ofItems? list).isSome = true := by
  simp only [isSome_list?]
  constructor
  · intro h
    refine ⟨fun l hl => (h l hl).imp fun _ => And.left, fun list hl => ?_⟩
    obtain ⟨_, heq, hlist⟩ := h _ hl
    exact Json.array.inj heq ▸ hlist
  · rintro ⟨h, hlists⟩ l hl
    obtain ⟨list, rfl⟩ := h l hl
    exact ⟨list, rfl, hlists list hl⟩

theorem exists_branchLists {fields : List (String × Json)} :
    (∃ bs, Bindings.get? (branchLists fields) "branches" = some (some bs)) ↔
      (∃ items, Bindings.get? fields "branches" = some (.array items)) ∧
        ∀ l ∈ Json.listed (Bindings.get? fields "branches"), (list? l).isSome = true := by
  rw [get?_branchLists]
  cases Bindings.get? fields "branches" with
  | none => simp
  | some j =>
    cases j with
    | array items =>
      rw [Option.map_some, branches?]
      simp only [Option.some.injEq, Json.array.injEq, exists_eq', true_and, Json.listed,
        Option.bind_some, Json.items?, Option.getD_some]
      rw [← isSome_ofBranches?, Option.isSome_iff_exists]
    | _ => simp [branches?]

theorem listOf?_nil (key : String) : listOf? [] key = some [] := rfl

theorem isSome_listOf? {fields : List (String × Json)} {key : String} :
    (listOf? (lists fields) key).isSome = true ↔
      ∀ l ∈ (Bindings.get? fields key).toList, (list? l).isSome = true := by
  rw [listOf?, get?_lists]
  cases Bindings.get? fields key <;> simp

/-- A step is put together from the lists that its kind asks for. -/
theorem isSome_assemble? {fields : List (String × Json)}
    {lists : Bindings (Option (List Step))} {branches : Bindings (Option (List (List Step)))} :
    (assemble? fields lists branches).isSome = true ↔
      (assemble? fields [] [("branches", some [])]).isSome = true ∧
      ∀ kind, tag? fields = some kind →
        (kind = .condition → (listOf? lists "then").isSome = true ∧
          (listOf? lists "else").isSome = true) ∧
        (kind = .loop → (listOf? lists "steps").isSome = true) ∧
        (kind = .parallel → ∃ bs, Bindings.get? branches "branches" = some (some bs)) := by
  rw [tag?]
  unfold assemble?
  cases hi : StepInfo.ofFields? fields with
  | none => simp
  | some i =>
    cases ht : Bindings.get? fields "type" with
    | none => simp
    | some tag =>
      cases hk : StepKind.ofTag? tag with
      | none => simp [hk]
      | some kind =>
        cases kind with
        | condition =>
          cases htest : (Bindings.get? fields "condition").bind Condition.ofJson? <;>
            cases listOf? lists "then" <;> cases listOf? lists "else" <;>
            simp [hk, ← Option.bind_assoc, htest, listOf?_nil]
        | loop =>
          cases LoopSpec.ofFields? fields <;> cases listOf? lists "steps" <;>
            simp [hk, listOf?_nil]
        | parallel =>
          have hnil : Bindings.get? [("branches", some ([] : List (List Step)))] "branches" =
            some (some []) := rfl
          cases Bindings.get? branches "branches" with
          | none => simp [hk, hnil]
          | some bs => cases bs <;> simp [hk, hnil]
        | _ => simp [hk]

/-- A step is read if it gives no reason to fail and the lists within it are read. -/
theorem isSome_ofJson?_object (fields : List (String × Json)) :
    (ofJson? (.object fields)).isSome = true ↔ ReadsAlone (.object fields) ∧
      ∀ kind, tag? fields = some kind → ∀ list, .array list ∈ within fields kind →
        (ofItems? list).isSome = true := by
  rw [ofJson?, isSome_assemble?, ReadsAlone, and_assoc, ← forall₂_and]
  refine and_congr_right fun _ => forall₂_congr fun kind _ => ?_
  rw [and_assoc, ← forall_isSome_list?]
  cases kind with
  | condition => simp only [within, List.forall_mem_append, ← isSome_listOf?]; simp
  | loop => simp only [within, ← isSome_listOf?]; simp
  | parallel => simp [within, exists_branchLists]
  | _ => simp [within]

theorem sizeOf_lt_of_within {fields : List (String × Json)} {kind : StepKind} {list : List Json}
    (h : .array list ∈ within fields kind) : sizeOf list < sizeOf fields := by
  have hget {key : String} {l : Json} (hl : l ∈ (Bindings.get? fields key).toList) :
      sizeOf l < sizeOf fields := Json.sizeOf_lt_of_get? (Option.mem_toList.mp hl)
  have hlist : sizeOf list < sizeOf (Json.array list) := by simp
  cases kind with
  | condition =>
    rcases List.mem_append.mp h with h | h
    · exact Nat.lt_trans hlist (hget h)
    · exact Nat.lt_trans hlist (hget h)
  | loop => exact Nat.lt_trans hlist (hget h)
  | parallel =>
    rw [within] at h
    have hmem := List.sizeOf_lt_of_mem h
    have hle := Json.sizeOf_listed_field (.object fields) "branches"
    simp only [Json.field?, Json.object.sizeOf_spec] at hle
    omega
  | _ => exact absurd h List.not_mem_nil

/-- The reader reads a list of trees just if no tree that it comes to gives it a reason to fail. -/
theorem isSome_ofItems?_iff (items : List Json) :
    (ofItems? items).isSome = true ↔ ∀ j, Visits items j → ReadsAlone j := by
  constructor
  · intro h j hj
    induction hj with
    | @item items j hj =>
      have hread := isSome_ofItems?.mp h j hj
      cases j with
      | object fields => exact ((isSome_ofJson?_object fields).mp hread).1
      | _ => simp [ofJson?] at hread
    | @within items list fields kind j hf hk hl _ ih =>
      have hread := isSome_ofItems?.mp h _ hf
      exact ih (((isSome_ofJson?_object fields).mp hread).2 kind hk list hl)
  · -- A list within a step is smaller than the fields of the step.
    intro h
    refine isSome_ofItems?.mpr fun j hj => ?_
    have hread := h j (.item hj)
    cases j with
    | object fields =>
      refine (isSome_ofJson?_object fields).mpr ⟨hread, fun kind hk list hl => ?_⟩
      exact (isSome_ofItems?_iff list).mpr fun j' hj' => h j' (.within hj hk hl hj')
    | _ => exact hread.elim
termination_by sizeOf items
decreasing_by
  have hlist := sizeOf_lt_of_within hl
  have hitem := List.sizeOf_lt_of_mem hj
  simp only [Json.object.sizeOf_spec] at hitem
  omega

/-! ### The walk meets what the reader comes to -/

theorem exists_walk_of_mem {items : List Json} {j : Json} (list : Path) (i : Nat)
    (h : j ∈ items) : ∃ path, ∀ s ∈ Json.walk path j, s ∈ Json.walkItems list i items := by
  induction items generalizing i with
  | nil => exact nomatch h
  | cons j' rest ih =>
    rw [Json.walkItems]
    rcases List.mem_cons.mp h with rfl | h
    · exact ⟨list ++ [.step i], fun s hs => List.mem_append_left _ hs⟩
    · obtain ⟨path, hpath⟩ := ih (i + 1) h
      exact ⟨path, fun s hs => List.mem_append_right _ (hpath s hs)⟩

theorem exists_walkItems_of_branch {branches list : List Json} (step : Path) (b : Nat)
    (h : .array list ∈ branches) :
    ∃ path, ∀ s ∈ Json.walkItems path 0 list, s ∈ Json.walkBranches step b branches := by
  induction branches generalizing b with
  | nil => exact nomatch h
  | cons j rest ih =>
    rw [Json.walkBranches]
    rcases List.mem_cons.mp h with rfl | h
    · exact ⟨step ++ [.branch b], fun s hs => List.mem_append_left _ hs⟩
    · obtain ⟨path, hpath⟩ := ih (b + 1) h
      exact ⟨path, fun s hs => List.mem_append_right _ (hpath s hs)⟩

/-- The walk of a step goes through every list that the reader goes through. -/
theorem exists_walkItems_of_within {fields : List (String × Json)} {kind : StepKind}
    {list : List Json} (path : Path) (h : .array list ∈ within fields kind) :
    ∃ p, ∀ s ∈ Json.walkItems p 0 list, s ∈ Json.walk path (.object fields) := by
  have hget {key : String} (hl : .array list ∈ (Bindings.get? fields key).toList) :
      Json.listed ((Json.object fields).field? key) = list := by
    rw [Json.field?, Option.mem_toList.mp hl]
    rfl
  rw [Json.walk]
  cases kind with
  | condition =>
    rcases List.mem_append.mp h with h | h
    · exact ⟨path ++ [.whenTrue], fun s hs => by simp [hget h, hs]⟩
    · exact ⟨path ++ [.whenFalse], fun s hs => by simp [hget h, hs]⟩
  | loop => exact ⟨path ++ [.body], fun s hs => by simp [hget h, hs]⟩
  | parallel =>
    rw [within] at h
    obtain ⟨p, hp⟩ := exists_walkItems_of_branch path 0 h
    exact ⟨p, fun s hs => by simp [hp s hs, Json.field?]⟩
  | _ => exact absurd h List.not_mem_nil

/-- The walk meets every step that the reader comes to. -/
theorem mem_walk_of_visits {items : List Json} {j : Json} (h : Visits items j) (list : Path)
    (i : Nat) : ∃ path, ⟨path, j⟩ ∈ Json.walkItems list i items := by
  induction h generalizing list i with
  | item h =>
    obtain ⟨path, hpath⟩ := exists_walk_of_mem list i h
    exact ⟨path, hpath _ (by rw [Json.walk]; exact List.mem_cons_self)⟩
  | within hf hk hl _ ih =>
    obtain ⟨path, hpath⟩ := exists_walk_of_mem list i hf
    obtain ⟨p, hp⟩ := exists_walkItems_of_within path hl
    obtain ⟨q, hq⟩ := ih p 0
    exact ⟨q, hpath _ (hp _ hq)⟩

end Step

/-! ### Spellings -/

theorem StepKind.mem_spellings_iff {kind : StepKind} {s : String} :
    s ∈ kind.spellings ↔ kind.text = s ∨ kind.capitalized = s := by
  have hcap : kind.spellings = [kind.text, kind.capitalized] := by cases kind <;> decide
  simp [hcap, eq_comm]

/-- The reader takes just the spellings that the check takes. -/
theorem StepKind.ofTag?_text_eq (s : String) : ofTag? (.text s) = ofText? s := by
  rw [ofTag?, ofText?]
  congr 1
  funext kind
  rw [Bool.eq_iff_iff, List.contains_iff_mem, mem_spellings_iff, Bool.or_eq_true,
    decide_eq_true_eq, decide_eq_true_eq]

/-- The reader can tell the kind of a step of a known kind. -/
theorem RawStep.IsKnown.exists_tag {s : RawStep} (h : s.IsKnown) :
    ∃ kind, (s.tree.field? "type").bind StepKind.ofTag? = some kind := by
  obtain ⟨kind, h⟩ := h
  have hspelled (t : String) (ht : kind.text = t ∨ kind.capitalized = t) :
      ∃ kind, StepKind.ofTag? (.text t) = some kind := by
    rw [← Option.isSome_iff_exists, StepKind.ofTag?_text_eq, StepKind.isSome_ofText?_iff]
    exact ⟨kind, ht⟩
  rcases h with h | h
  · rw [h]
    exact hspelled _ (.inl rfl)
  · rw [h]
    exact hspelled _ (.inr rfl)

/-! ### Documents -/

/-- The first unknown step of a walk, and what it is reported as. -/
def FirstUnknown (walk : List RawStep) (u : UnknownKind) : Prop :=
  ∃ before s after, walk = before ++ s :: after ∧ (∀ x ∈ before, x.IsKnown) ∧ ¬ s.IsKnown ∧
    u = ⟨s.path, s.reported⟩

theorem findSome?_fault?_iff {walk : List RawStep} {u : UnknownKind} :
    walk.findSome? RawStep.fault? = some u ↔ FirstUnknown walk u := by
  rw [List.findSome?_eq_some_iff, FirstUnknown]
  refine exists_congr fun before => exists_congr fun s => exists_congr fun after => ?_
  refine and_congr_right fun _ => ?_
  simp only [RawStep.fault?_eq_none_iff]
  rw [and_comm]
  refine and_congr_right fun _ => ⟨fun h => ⟨fun hk => ?_, RawStep.eq_of_fault? h⟩, ?_⟩
  · rw [RawStep.fault?_eq_none_iff.mpr hk] at h
    exact nomatch h
  · rintro ⟨hk, rfl⟩
    obtain ⟨u, hu⟩ := Option.ne_none_iff_exists'.mp (mt RawStep.fault?_eq_none_iff.mp hk)
    rw [hu, RawStep.eq_of_fault? hu]

namespace Definition

/-- The steps of a document in the order of a walk from the top. -/
def rawSteps (j : Json) : List RawStep := Json.walkItems [] 0 (Json.listed (j.field? "steps"))

theorem firstUnknown?_steps (j : Json) :
    (j.field? "steps").bind (firstUnknown? []) = (rawSteps j).findSome? RawStep.fault? := by
  rw [rawSteps, ← unknownInItems?_eq]
  cases j.field? "steps" with
  | none => rfl
  | some l => exact firstUnknown?_eq [] l

/-- A document has an unknown kind of step just if the check finds one. -/
theorem ofDocument_eq_unknownKind_iff {j : Json} {u : UnknownKind} :
    ofDocument j = .error (.unknownKind u) ↔ FirstUnknown (rawSteps j) u := by
  rw [← findSome?_fault?_iff, ← firstUnknown?_steps, ofDocument]
  cases (j.field? "steps").bind (firstUnknown? []) with
  | some fault => simp
  | none =>
    simp only [reduceCtorEq, iff_false]
    cases ofJson? j with
    | none => simp
    | some d =>
      simp only [validate]
      cases d.invalid? <;> simp

/-- The unknown kind that a document is refused for is the first that the walk meets, at its path
and as it stands. If the document is not refused for one, then every step that the walk meets is of
a known kind, and the reader can tell the kind of every step that it comes to. -/
theorem unknownKind_iff (fields : List (String × Json)) :
    (∀ u, ofDocument (.object fields) = .error (.unknownKind u) ↔
      FirstUnknown (rawSteps (.object fields)) u) ∧
    ((∀ u, ofDocument (.object fields) ≠ .error (.unknownKind u)) →
      (∀ s ∈ rawSteps (.object fields), s.IsKnown) ∧
      ∀ j, Step.Visits (Json.listed (Bindings.get? fields "steps")) j →
        ∃ kind, (j.field? "type").bind StepKind.ofTag? = some kind) := by
  refine ⟨fun u => ofDocument_eq_unknownKind_iff, fun h => ?_⟩
  have hknown : ∀ s ∈ rawSteps (.object fields), s.IsKnown := by
    have hnone : (rawSteps (.object fields)).findSome? RawStep.fault? = none := by
      refine Option.eq_none_iff_forall_ne_some.mpr fun u hu => h u ?_
      exact ofDocument_eq_unknownKind_iff.mpr (findSome?_fault?_iff.mp hu)
    intro s hs
    exact RawStep.fault?_eq_none_iff.mp (List.findSome?_eq_none_iff.mp hnone s hs)
  refine ⟨hknown, fun j hj => ?_⟩
  obtain ⟨path, hpath⟩ := Step.mem_walk_of_visits hj [] 0
  exact (hknown _ hpath).exists_tag

end Definition

end Workflow
