import Mathlib
import Workflow.Condition
import Workflow.Proofs.Document.Registered
import Workflow.Proofs.Story.Path
import Workflow.Proofs.Template.Reading

/-!
# Placeholders of expressions

An expression is evaluated with a generated name in place of every placeholder, and with the value
of every generated name among the variables. The text that is evaluated does not depend on the
values, and no two placeholders share a generated name. But a generated name is made from the number
of its placeholder alone: a variable of the same name is hidden by it, and an expression that names
the variable outside of its placeholders gets the value of the placeholder.

## Main definitions

* `Workflow.Template.Mentions` — an expression names an identifier outside of its placeholders.
* `Workflow.Template.BindsApart` — what is made of an expression and its placeholders.

## Main results

* `Workflow.Template.bindsApart` — the text, the generated names and the variables that are hidden.
* `Workflow.Template.captured` — a variable that is hidden.
-/

namespace Workflow

theorem Value.get?_toFields (key : String) (fields : List (String × Value)) :
    Bindings.get? (toFields fields) key = (Bindings.get? fields key).map toJson := by
  induction fields with
  | nil => rfl
  | cons field rest ih =>
    obtain ⟨k, v⟩ := field
    unfold toFields Bindings.get?
    split
    · rfl
    · exact ih

namespace Template

variable {e : String} {env : Environment} {ps front behind : List Piece} {inner : List Char}

/-! ### Generated names -/

theorem generatedName_injective : Function.Injective generatedName := by
  intro i j h
  have hlist := congrArg String.toList h
  simp only [generatedName, String.toList_append] at hlist
  exact natText_injective (String.toList_injective (List.append_cancel_left hlist))

/-- The number of placeholders among some parts. -/
def holes (ps : List Piece) : Nat := ps.countP Piece.isHole

@[simp]
theorem holes_literal_cons (c : Char) (ps : List Piece) : holes (.literal c :: ps) = holes ps :=
  List.countP_cons_of_neg (by simp [Piece.isHole])

@[simp]
theorem holes_hole_cons (inner : List Char) (ps : List Piece) :
    holes (.hole inner :: ps) = holes ps + 1 :=
  List.countP_cons_of_pos rfl

theorem holes_eq_zero (h : hasHole e = false) : holes (pieces e) = 0 :=
  List.countP_eq_zero.mpr fun p hp hhole => by
    rw [hasHole, List.any_eq_false] at h
    exact h p hp hhole

theorem renamedFrom_append (k : Nat) (ps qs : List Piece) :
    renamedFrom k (ps ++ qs) = renamedFrom k ps ++ renamedFrom (k + holes ps) qs := by
  induction ps generalizing k with
  | nil => rfl
  | cons p ps ih =>
    cases p with
    | literal c =>
      rw [List.cons_append, renamedFrom, renamedFrom, ih, holes_literal_cons, List.cons_append]
    | hole inner =>
      rw [List.cons_append, renamedFrom, renamedFrom, ih, holes_hole_cons, List.cons_append,
        Nat.add_assoc, Nat.add_comm 1]

/-- Nothing is renamed in parts without placeholders. -/
theorem renamedFrom_of_holes_eq_zero (k : Nat) (h : holes ps = 0) :
    renamedFrom k ps = ps.map (Piece.render env) := by
  induction ps with
  | nil => rfl
  | cons p ps ih =>
    cases p with
    | literal c =>
      rw [renamedFrom, ih ((holes_literal_cons c ps).symm.trans h), List.map_cons, Piece.render]
    | hole inner =>
      rw [holes_hole_cons] at h
      exact absurd h (Nat.succ_ne_zero _)

/-! ### The values of generated names -/

/-- The names of the placeholders among some parts. -/
def holeNames (ps : List Piece) : List String :=
  ps.filterMap fun
    | .literal _ => none
    | .hole inner => some (holeName inner)

theorem names_eq_holeNames (e : String) : names e = holeNames (pieces e) := rfl

theorem holeNames_append (ps qs : List Piece) :
    holeNames (ps ++ qs) = holeNames ps ++ holeNames qs := List.filterMap_append ..

theorem length_holeNames (ps : List Piece) : (holeNames ps).length = holes ps := by
  induction ps with
  | nil => rfl
  | cons p ps ih =>
    cases p with
    | literal c => rw [holes_literal_cons, ← ih]; rfl
    | hole inner => rw [holes_hole_cons, ← ih]; rfl

/-- What the name of a placeholder stands for, null if it stands for nothing. -/
def valueIn (env : Environment) (name : String) : Value := (env.lookup? name).getD .null

theorem getElem?_bind (i : Nat) : (bind e env).2[i]? =
    (holeNames (pieces e))[i]?.map fun name => (generatedName i, valueIn env name) := by
  rw [← names_eq_holeNames]
  exact List.getElem?_mapIdx

theorem length_bind : (bind e env).2.length = holes (pieces e) := by
  rw [← length_holeNames, ← names_eq_holeNames]
  exact List.length_mapIdx

/-- The placeholders of an expression are named in order. -/
theorem eq_generatedName {i : Nat} {name : String} {value : Value}
    (h : (bind e env).2[i]? = some (name, value)) : name = generatedName i := by
  rw [getElem?_bind, Option.map_eq_some_iff] at h
  obtain ⟨_, -, heq⟩ := h
  exact (congrArg Prod.fst heq).symm

theorem keys_bind :
    Bindings.keys (bind e env).2 = (List.range (holes (pieces e))).map generatedName := by
  refine List.ext_getElem ?_ fun i _ _ => ?_
  · rw [Bindings.keys, List.length_map, length_bind, List.length_map, List.length_range]
  · simp [Bindings.keys, bind]

/-- No two placeholders share a name. -/
theorem nodup_keys_bind : (Bindings.keys (bind e env).2).Nodup :=
  keys_bind ▸ List.Nodup.map generatedName_injective List.nodup_range

theorem get?_bind_eq_some_iff {name : String} {value : Value} :
    Bindings.get? (bind e env).2 name = some value ↔
      ∃ i : Nat, (bind e env).2[i]? = some (name, value) :=
  calc
    _ ↔ (name, value) ∈ (bind e env).2 :=
      ⟨Bindings.mem_of_get?, Bindings.get?_of_mem nodup_keys_bind⟩
    _ ↔ _ := List.mem_iff_getElem?

/-- The variables that an expression is evaluated with: a generated name hides the variable of the
same name. -/
theorem field?_boundContext (name : String) :
    (Condition.boundContext env (bind e env).2).field? name =
      ((Bindings.get? (bind e env).2 name).map Value.toJson).or (env.toJson.field? name) := by
  have hnodup : (Bindings.keys (Value.toFields (bind e env).2)).Nodup := by
    rw [Value.keys_toFields]
    exact nodup_keys_bind
  rw [Condition.boundContext, Json.field?, Bindings.get?_setAll hnodup, Value.get?_toFields]
  rfl

theorem field?_toJson (name : String) : env.toJson.field? name = (env.get? name).map Value.toJson :=
  Value.get?_toFields name env.vars

/-- The variables that an expression is evaluated with agree with those of the environment at a name
that is not generated, and at one whose variable has the value of its placeholder. -/
theorem agrees_iff (name : String) :
    (Condition.boundContext env (bind e env).2).field? name = env.toJson.field? name ↔
      ∀ (i : Nat) (value : Value), (bind e env).2[i]? = some (name, value) →
        (env.get? name).map Value.toJson = some value.toJson := by
  rw [field?_boundContext, field?_toJson]
  cases h : Bindings.get? (bind e env).2 name with
  | none =>
    refine iff_of_true rfl fun i value hi => ?_
    exact nomatch h.symm.trans (get?_bind_eq_some_iff.mpr ⟨i, hi⟩)
  | some v =>
    obtain ⟨i, hi⟩ := get?_bind_eq_some_iff.mp h
    constructor
    · intro heq j value hj
      have hvalue := Option.some.inj (h.symm.trans (get?_bind_eq_some_iff.mpr ⟨j, hj⟩))
      rw [← heq, hvalue]
      rfl
    · intro hagree
      rw [hagree i v hi]
      rfl

/-! ### Expressions -/

/-- The text is evaluated as an expression: it has no blank ends, and is no literal, no variable and
no single placeholder. -/
structure IsExpression (e : String) : Prop where
  trimmed : Text.trim e = e
  notLiteral : e ∉ ["", "false", "null", "true"]
  notSole : sole? e = none
  notPath : Condition.isPath e = false

theorem IsExpression.evaluateText (h : IsExpression e) (env : Environment) :
    Condition.evaluateText e env =
      (Expression.holdsIn (Condition.boundContext env (bind e env).2) (bind e env).1).mapError
        (.expression e) := by
  have hliteral := h.notLiteral
  simp only [List.mem_cons, List.not_mem_nil, or_false, not_or] at hliteral
  obtain ⟨hempty, hfalse, hnull, htrue⟩ := hliteral
  simp only [Condition.evaluateText, h.trimmed, hempty, hfalse, hnull, htrue, or_self, if_false,
    h.notSole, h.notPath, Bool.false_eq_true]
  cases Expression.holdsIn (Condition.boundContext env (bind e env).2) (bind e env).1 <;> rfl

/-! ### Names outside of placeholders -/

/-- A text that an expression can name a variable by. -/
def IsIdentifier (name : String) : Prop :=
  ∃ c rest, name.toList = c :: rest ∧ Expression.isNameStart c ∧
    ∀ d ∈ rest, Expression.isNameRest d

/-- The part is a character of a name. -/
def Piece.isNamePart : Piece → Bool
  | literal c => Expression.isNameRest c
  | hole _ => false

/-- An expression names an identifier outside of its placeholders: it stands there as it is written,
and no other character of a name stands beside it. -/
def Mentions (e name : String) : Prop :=
  IsIdentifier name ∧ ∃ front behind,
    pieces e = front ++ name.toList.map .literal ++ behind ∧
      (∀ p ∈ front.getLast?, p.isNamePart = false) ∧ ∀ p ∈ behind.head?, p.isNamePart = false

/-! ### Binding -/

/-- What is made of an expression in an environment: the text that is evaluated, and the values of
the names that are generated for its placeholders. -/
structure BindsApart (e : String) (env : Environment) : Prop where
  /-- The text depends on the expression alone. -/
  blind : ∀ env', (bind e env').1 = (bind e env).1
  /-- A text without placeholders is evaluated as it is. -/
  plain : hasHole e = false → bind e env = (e, [])
  /-- A placeholder behind `k` others leaves the `k`-th name in the text, which is the `k`-th of the
  names with values, and has the value of the placeholder. -/
  placed : ∀ front inner behind, pieces e = front ++ .hole inner :: behind →
    (bind e env).1 = String.join (renamedFrom 0 front) ++ generatedName (holes front) ++
        String.join (renamedFrom (holes front + 1) behind) ∧
      (bind e env).2[holes front]? =
        some (generatedName (holes front), (env.lookup? (holeName inner)).getD .null)
  /-- There are as many names with values as placeholders. -/
  length : (bind e env).2.length = holes (pieces e)
  named : ∀ (i : Nat) (name : String) (value : Value),
    (bind e env).2[i]? = some (name, value) → name = generatedName i
  nodup : (Bindings.keys (bind e env).2).Nodup
  /-- These names are written over the variables that the text is evaluated with. -/
  evaluated : IsExpression e → Condition.evaluateText e env =
    (Expression.holdsIn (Condition.boundContext env (bind e env).2) (bind e env).1).mapError
      (.expression e)
  /-- At a name, the variables that the text is evaluated with agree with the environment unless the
  name is generated and its variable has not the value of the placeholder. -/
  agrees_at : ∀ name : String,
    (Condition.boundContext env (bind e env).2).field? name = env.toJson.field? name ↔
      ∀ (i : Nat) (value : Value), (bind e env).2[i]? = some (name, value) →
        (env.get? name).map Value.toJson = some value.toJson
  /-- So they agree at all names outside of the placeholders unless one of these is generated and
  its variable has another value. -/
  agrees : (∀ name, Mentions e name →
      (Condition.boundContext env (bind e env).2).field? name = env.toJson.field? name) ↔
    ∀ (i : Nat) (value : Value), (bind e env).2[i]? = some (generatedName i, value) →
      Mentions e (generatedName i) →
        (env.get? (generatedName i)).map Value.toJson = some value.toJson

theorem bind_of_not_hasHole (h : hasHole e = false) : bind e env = (e, []) := by
  refine Prod.ext ?_ (List.eq_nil_of_length_eq_zero (length_bind.trans (holes_eq_zero h)))
  calc (bind e env).1
    _ = render e env := congrArg String.join (renamedFrom_of_holes_eq_zero 0 (holes_eq_zero h))
    _ = e := render_of_not_hasHole h env

theorem bind_placed (h : pieces e = front ++ .hole inner :: behind) :
    (bind e env).1 = String.join (renamedFrom 0 front) ++ generatedName (holes front) ++
        String.join (renamedFrom (holes front + 1) behind) ∧
      (bind e env).2[holes front]? =
        some (generatedName (holes front), valueIn env (holeName inner)) := by
  constructor
  · rw [bind, h, renamedFrom_append, Nat.zero_add, renamedFrom, String.join_append,
      String.join_cons, String.append_assoc]
  · rw [getElem?_bind, h, holeNames_append, ← length_holeNames,
      List.getElem?_append_right (Nat.le_refl _), Nat.sub_self]
    rfl

/-- What is made of every expression in every environment. -/
theorem bindsApart (e : String) (env : Environment) : BindsApart e env where
  blind _ := rfl
  plain := bind_of_not_hasHole
  placed _ _ _ := bind_placed
  length := length_bind
  named _ _ _ := eq_generatedName
  nodup := nodup_keys_bind
  evaluated h := h.evaluateText env
  agrees_at := agrees_iff
  agrees := by
    constructor
    · intro h i value hi hmentions
      exact (agrees_iff _).mp (h _ hmentions) i value hi
    · intro h name hmentions
      refine (agrees_iff name).mpr fun i value hi => ?_
      obtain rfl := eq_generatedName hi
      exact h i value hi hmentions

/-- A variable that is named as the first placeholder is hidden by it: its own value is *true*, and
the expression that asks for it alone holds, but the one that asks for it or for the placeholder
does not. -/
theorem captured :
    let env : Environment := ⟨[("__placeholder0", .bool true), ("x", .bool false)]⟩
    let e := "__placeholder0||$\x7bx\x7d"
    Mentions e "__placeholder0" ∧
      (Condition.boundContext env (bind e env).2).field? "__placeholder0" = some (.bool false) ∧
      env.toJson.field? "__placeholder0" = some (.bool true) ∧
      Condition.evaluateText "__placeholder0" env = .ok true ∧
      Condition.evaluateText e env = .ok false := by
  intro env e
  have hexpression : IsExpression e := ⟨by cbv, by decide, by cbv, by cbv⟩
  have hbind : bind e env =
      ("__placeholder0||__placeholder0", [("__placeholder0", .bool false)]) := by
    cbv
  have hparse : Expression.ofText? "__placeholder0||__placeholder0" =
      some (.binary .or (.name "__placeholder0") (.name "__placeholder0")) := by
    cbv
  have hidentifier : IsIdentifier "__placeholder0" :=
    ⟨'_', "_placeholder0".toList, by decide, by decide, List.all_eq_true.mp (by decide)⟩
  refine ⟨⟨hidentifier, [], "||".toList.map .literal ++ [.hole ['x']], ?_, by decide, by decide⟩,
    ?_, ?_, ?_, ?_⟩
  · cbv
  · rw [hbind]
    rfl
  · rfl
  · cbv
  · rw [hexpression.evaluateText, hbind, Expression.holdsIn, Condition.boundContext,
      Expression.valueIn]
    dsimp only
    rw [hparse]
    rfl

end Template

end Workflow
