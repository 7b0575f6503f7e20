import Workflow.Proofs.File.Path
import Workflow.Proofs.Template.Binding

/-!
# The truth of a variable

A condition that is the name of a variable, or one placeholder around it, tests the value of the
variable. An expression tests a tree: that of the value, if it comes to the entry of the variable
among the variables as trees. A value and its tree count as true alike, but for an infinite number,
which counts as true and has no tree: null stands in its place.

## Main definitions

* `Workflow.Condition.IsPlain` — texts that name a variable by themselves.
* `Workflow.Condition.TruthOf` — what the conditions about a variable come to.

## Main results

* `Workflow.Value.truthy_toJson` — which tree of a value counts as true.
* `Workflow.Condition.truthOf` — conditions about a variable come to the truth of its value.
* `Workflow.Condition.truths_apart` — an infinite number counts as true and its tree does not.
-/

namespace Workflow

/-! ### Values and trees -/

theorem Decimal.isFinite_eq (x : Float) : x.isFinite = !(x.isNaN || x.isInf) := by
  change x.toModel.unpack.isFinite = !(x.toModel.unpack.isNaN || x.toModel.unpack.isInf)
  cases x.toModel.unpack <;> rfl

/-- The value is an infinite number. -/
def Value.isInfinite : Value → Bool
  | float x => x.isInf
  | _ => false

/-- The tree of a value counts as true as the value does, but for infinite numbers. -/
theorem Value.truthy_toJson (v : Value) : v.toJson.truthy = (v.truthy && !v.isInfinite) := by
  cases v with
  | null => rfl
  | bool b => cases b <;> rfl
  | int n =>
    have hzero : n.toInt = (0 : Int64).toInt ↔ n = 0 := Int64.toInt_inj
    by_cases h : n = 0
    · subst h
      rfl
    · have htree : n.toInt ≠ 0 := fun heq => h (hzero.mp heq)
      rw [toJson, truthy, Json.truthy, bne_iff_ne.mpr h, bne_iff_ne.mpr htree]
      rfl
  | float x =>
    have hfinite := Decimal.isFinite_eq x
    rw [toJson, truthy, isInfinite]
    by_cases h : x.isFinite = true
    · have hinf : x.isInf = false := by simp_all
      rw [if_pos h, Json.truthy, hinf, Bool.not_false, Bool.and_true]
    · rw [if_neg h, Json.truthy]
      -- Not a number counts as false itself.
      cases hnan : x.isNaN <;> simp_all
  | text s => simp [toJson, truthy, isInfinite, Json.truthy]
  | list items => rfl
  | record fields => rfl
  | handle h => rfl

/-! ### Texts -/

/-- Trimming takes away the blanks around a text without blank ends. -/
theorem Text.trim_append_append {front s back : String} (hfront : allBlank front = true)
    (hback : allBlank back = true) (hs : s ≠ "") (hhead : ∀ c ∈ s.toList.head?, isBlank c = false)
    (hlast : ∀ c ∈ s.toList.getLast?, isBlank c = false) : trim (front ++ s ++ back) = s := by
  have hne : s.toList ≠ [] := by simpa using hs
  rw [trim, String.toList_append, String.toList_append,
    trimList_append_append (List.all_eq_true.mp hfront) (List.all_eq_true.mp hback) hne
      (hhead _ (List.head_mem_head? hne)) (hlast _ (List.getLast_mem_getLast? hne)),
    String.ofList_toList]

/-- A text without an opening brace is no placeholder. -/
theorem Template.sole?_eq_none {s : String} (h : '\x7b' ∉ s.toList) : sole? s = none := by
  rw [Option.eq_none_iff_forall_ne_some]
  intro name hname
  obtain ⟨inner, hpieces, -⟩ := sole?_eq_some_iff.mp hname
  have hspan := flatMap_span_scan s.toList
  rw [← hspan, ← pieces, hpieces] at h
  exact h (by simp [Piece.span])

namespace Condition

variable {x : String} {env : Environment} {v : Value} {c : Char}

/-! ### Names of variables -/

theorem isTail_of_isHead (h : isHead c = true) : isTail c = true := by
  simp only [isHead, isTail, Char.isAlphanum, Bool.or_eq_true] at *
  tauto

theorem isTail_iff : isTail c = true ↔ c.isAlphanum = true ∨ c = '_' ∨ c = '$' := by
  simp [isTail, or_assoc]

theorem not_isBlank_of_isTail (h : isTail c = true) : Text.isBlank c = false := by
  rcases isTail_iff.mp h with h | rfl | rfl
  · simp only [Char.isAlphanum, Char.isAlpha, Char.isUpper, Char.isLower, Char.isDigit,
      Bool.or_eq_true, Bool.and_eq_true, decide_eq_true_eq, UInt32.le_iff_toNat_le] at h
    change ((65 ≤ c.toNat ∧ c.toNat ≤ 90) ∨ 97 ≤ c.toNat ∧ c.toNat ≤ 122) ∨
      48 ≤ c.toNat ∧ c.toNat ≤ 57 at h
    simp only [Text.isBlank, Text.inRanges, Text.blankRanges, List.any_cons, List.any_nil,
      Bool.or_eq_false_iff, Bool.and_eq_false_iff, decide_eq_false_iff_not, and_true]
    omega
  · decide
  · decide

/-- A text that names a variable by itself: a name that is none of the words with a meaning of their
own. -/
structure IsPlain (x : String) : Prop where
  name : ∃ c rest, x.toList = c :: rest ∧ isHead c = true ∧ ∀ d ∈ rest, isTail d = true
  notLiteral : x ∉ ["true", "false", "null"]

theorem IsPlain.isTail (h : IsPlain x) : ∀ c ∈ x.toList, isTail c = true := by
  obtain ⟨c, rest, hlist, hc, hrest⟩ := h.name
  rw [hlist]
  exact List.forall_mem_cons.mpr ⟨isTail_of_isHead hc, hrest⟩

theorem IsPlain.notMem (h : IsPlain x) (hc : Condition.isTail c = false) : c ∉ x.toList :=
  fun hmem => by simp [h.isTail c hmem] at hc

theorem IsPlain.ne_empty (h : IsPlain x) : x ≠ "" := by
  obtain ⟨c, rest, hlist, -⟩ := h.name
  rintro rfl
  exact nomatch hlist

/-- Blanks around the name of a variable are passed over. -/
theorem IsPlain.trim (h : IsPlain x) {front back : String} (hfront : Text.allBlank front = true)
    (hback : Text.allBlank back = true) : Text.trim (front ++ x ++ back) = x :=
  Text.trim_append_append hfront hback h.ne_empty
    (fun _ hc => not_isBlank_of_isTail (h.isTail _ (List.mem_of_mem_head? hc)))
    (fun _ hc => not_isBlank_of_isTail (h.isTail _ (List.mem_of_mem_getLast? hc)))

/-- The name of a variable is a path of one name. -/
theorem IsPlain.isPath (h : IsPlain x) : isPath x = true := by
  have hpoint : '.' ∉ x.toList := h.notMem (by decide)
  have hpieces : Text.pieces x "." = [x] := Text.pieces_of_notMem hpoint
  obtain ⟨c, rest, hlist, hc, hrest⟩ := h.name
  rw [Condition.isPath, hpieces]
  simpa [hlist, hc, isTail_of_isHead hc] using hrest

/-- The placeholder of a name, with what stands around the name. -/
def placeholder (left x right : String) : String := "$\x7b" ++ left ++ x ++ right ++ "\x7d"

/-- Blanks around a placeholder are passed over. -/
theorem trim_placeholder (left x right : String) {front back : String}
    (hfront : Text.allBlank front = true) (hback : Text.allBlank back = true) :
    Text.trim (front ++ placeholder left x right ++ back) = placeholder left x right := by
  have hhead : (placeholder left x right).toList.head? = some '$' := by simp [placeholder]
  have hlast : (placeholder left x right).toList.getLast? = some '\x7d' := by
    rw [placeholder, String.toList_append, String.toList_ofList]
    exact List.getLast?_concat
  refine Text.trim_append_append hfront hback (by simp [placeholder]) ?_ ?_
  · rw [hhead]
    rintro c ⟨⟩
    decide
  · rw [hlast]
    rintro c ⟨⟩
    decide

/-- A placeholder with blanks around the name is one that stands for the variable. -/
theorem IsPlain.sole?_placeholder (h : IsPlain x) {left right : String}
    (hleft : Text.allBlank left = true) (hright : Text.allBlank right = true) :
    Template.sole? (placeholder left x right) = some x := by
  have hne : x.toList ≠ [] := by simpa using h.ne_empty
  let inner := left.toList ++ x.toList ++ right.toList
  have hinner : inner ≠ [] := by simp [inner, h.ne_empty]
  have hclosed : '\x7d' ∉ inner := by
    have hblanks {s : String} (hs : Text.allBlank s = true) : '\x7d' ∉ s.toList := fun hmem =>
      absurd (List.all_eq_true.mp hs _ hmem) (by decide)
    have hx : '\x7d' ∉ x.toList := h.notMem (by decide)
    simp only [inner, List.mem_append, hblanks hleft, hblanks hright, hx, or_self,
      not_false_eq_true]
  have hpieces : Template.pieces (placeholder left x right) = [.hole inner] := by
    have hspan : (placeholder left x right).toList = (Template.Piece.hole inner).span ++ [] := by
      simp [placeholder, Template.Piece.span, inner]
    rw [Template.pieces, hspan, Template.scan_hole_append hinner hclosed, Template.scan_nil]
  have hname : Template.IsName inner x.toList :=
    .trimmed (List.all_eq_true.mp hleft) (List.all_eq_true.mp hright) hne
      (not_isBlank_of_isTail (h.isTail _ (List.head_mem hne)))
      (not_isBlank_of_isTail (h.isTail _ (List.getLast_mem hne)))
  exact Template.sole?_eq_some_iff.mpr
    ⟨inner, hpieces, hname.holeName_eq.trans String.ofList_toList⟩

/-! ### Conditions about a variable -/

/-- A name tests the value of its variable. -/
theorem IsPlain.evaluateText (h : IsPlain x) (hv : env.get? x = some v) {s : String}
    (hs : Text.trim s = x) : evaluateText s env = .ok v.truthy := by
  have hliteral := h.notLiteral
  simp only [List.mem_cons, List.not_mem_nil, or_false, not_or] at hliteral
  obtain ⟨htrue, hfalse, hnull⟩ := hliteral
  have hlookup : env.lookup? x = some v := by rw [Environment.lookup?, hv]
  have hbrace : '\x7b' ∉ x.toList := h.notMem (by decide)
  simp only [Condition.evaluateText, hs, h.ne_empty, hfalse, hnull, or_self, if_false, htrue,
    Template.sole?_eq_none hbrace, h.isPath, if_true, hlookup, Option.any_some]

/-- A text that is one placeholder tests the value of what is named. -/
theorem evaluateText_of_sole? {s t : String} (hs : Text.trim s = t)
    (hsole : Template.sole? t = some x) (hv : env.get? x = some v) :
    evaluateText s env = .ok v.truthy := by
  have hbrace : ∀ word ∈ ["", "false", "null", "true"], '\x7b' ∉ word.toList := by decide
  have hne : t ∉ ["", "false", "null", "true"] := fun hmem =>
    nomatch (Template.sole?_eq_none (hbrace t hmem)).symm.trans hsole
  simp only [List.mem_cons, List.not_mem_nil, or_false, not_or] at hne
  obtain ⟨hempty, hfalse, hnull, htrue⟩ := hne
  have hlookup : env.lookup? x = some v := by rw [Environment.lookup?, hv]
  simp only [Condition.evaluateText, hs, hempty, hfalse, hnull, or_self, if_false, htrue, hsole,
    hlookup, Option.any_some]

/-- An expression that comes to the tree of a value holds as the value does, but for infinite
numbers. -/
theorem holdsIn_of_valueIn {context : Json} {expression : String}
    (h : Expression.valueIn context expression = .ok v.toJson) :
    Expression.holdsIn context expression = .ok (v.truthy && !v.isInfinite) := by
  rw [Expression.holdsIn, h, ← Value.truthy_toJson]
  rfl

/-! ### The name of a variable as an expression -/

theorem token?_of_isNameStart {rest : List Char} (hc : Expression.isNameStart c = true)
    (hrest : ∀ d ∈ rest, Expression.isNameRest d = true) :
    Expression.token? (c :: rest) =
      some (Expression.wordToken (String.ofList (c :: rest)), []) := by
  have htake : rest.takeWhile Expression.isNameRest = rest := List.takeWhile_eq_self_iff.mpr hrest
  have hdrop : rest.dropWhile Expression.isNameRest = [] := List.dropWhile_eq_nil_iff.mpr hrest
  unfold Expression.token?
  split <;> rename_i heq
  -- No other token begins with a character that begins a name.
  all_goals try
    obtain ⟨rfl, -⟩ := List.cons.inj heq
    exact absurd hc (by decide)
  · exact nomatch heq
  · obtain ⟨rfl, rfl⟩ := List.cons.inj heq
    rw [if_pos hc, htake, hdrop]

theorem isSpace_of_isNameStart (h : Expression.isNameStart c = true) :
    Expression.isSpace c = false := by
  have htail : isTail c = true := by
    simp only [Expression.isNameStart, isTail, Char.isAlphanum, Bool.or_eq_true] at *
    tauto
  have hblank := not_isBlank_of_isTail htail
  simp only [Text.isBlank, Text.inRanges, Text.blankRanges, List.any_cons, Bool.or_eq_false_iff,
    Bool.and_eq_false_iff, decide_eq_false_iff_not] at hblank
  simp only [Expression.isSpace, Bool.or_eq_false_iff, Bool.and_eq_false_iff,
    decide_eq_false_iff_not]
  refine ⟨?_, hblank.1⟩
  rintro rfl
  exact absurd hblank.2.1 (by decide)

/-- A name is read as the variable with this name. -/
theorem ofText?_of_isIdentifier (h : Template.IsIdentifier x)
    (hword : x ∉ ["true", "false", "null", "in"]) : Expression.ofText? x = some (.name x) := by
  obtain ⟨c, rest, hlist, hc, hrest⟩ := h
  have hspace := isSpace_of_isNameStart hc
  have htoken : Expression.token? (c :: rest) = some (.name x, []) := by
    rw [token?_of_isNameStart hc hrest, ← hlist, String.ofList_toList]
    simp only [List.mem_cons, List.not_mem_nil, or_false, not_or] at hword
    obtain ⟨htrue, hfalse, hnull, hin⟩ := hword
    unfold Expression.wordToken
    split <;> simp_all
  have htokens : Expression.tokens? x = some [.name x] := by
    have hlen : x.length = rest.length + 1 := by
      rw [← String.length_toList, hlist, List.length_cons]
    rw [Expression.tokens?, hlen, hlist, Expression.tokensFrom?,
      List.dropWhile_cons_of_neg (by simp [hspace])]
    dsimp only
    rw [htoken]
    rfl
  rw [Expression.ofText?, htokens]
  rfl

/-! ### Truth -/

/-- What the conditions about a variable with a value come to. -/
structure TruthOf (env : Environment) (x : String) (v : Value) : Prop where
  /-- The name of the variable, with any blanks around it. -/
  bare : ∀ front back, Text.allBlank front = true → Text.allBlank back = true →
    evaluateText (front ++ x ++ back) env = .ok v.truthy
  /-- A placeholder of the name, with any blanks around it and around the name. -/
  held : ∀ front left right back, Text.allBlank front = true → Text.allBlank left = true →
    Text.allBlank right = true → Text.allBlank back = true →
      evaluateText (front ++ placeholder left x right ++ back) env = .ok v.truthy
  /-- Among the variables as trees, the variable has the tree of its value. -/
  entry : env.toJson.field? x = some v.toJson
  /-- An expression that comes to this tree; the tree of an infinite number is null. -/
  tested : ∀ expression j, env.toJson.field? x = some j →
    Expression.valueIn env.toJson expression = .ok j →
      Expression.holdsIn env.toJson expression = .ok (v.truthy && !v.isInfinite)
  /-- The name as an expression comes to it. -/
  named : Template.IsIdentifier x → x ≠ "in" → Expression.valueIn env.toJson x = .ok v.toJson

/-- The conditions about a variable come to the truth of its value, whichever way they name it; but
in an expression an infinite number does not count as true. -/
theorem truthOf (h : IsPlain x) (hv : env.get? x = some v) : TruthOf env x v where
  bare _ _ hfront hback := h.evaluateText hv (h.trim hfront hback)
  held _ _ _ _ hfront hleft hright hback :=
    evaluateText_of_sole? (trim_placeholder _ x _ hfront hback) (h.sole?_placeholder hleft hright)
      hv
  entry := by rw [Template.field?_toJson, hv, Option.map_some]
  tested _ j hj hvalue := by
    rw [Template.field?_toJson, hv, Option.map_some] at hj
    rw [← Option.some.inj hj] at hvalue
    exact holdsIn_of_valueIn hvalue
  named hx hin := by
    have hword : x ∉ ["true", "false", "null", "in"] := by
      have hliteral := h.notLiteral
      simp_all
    have hentry : Bindings.get? (Value.toFields env.vars) x = some v.toJson := by
      rw [Value.get?_toFields, ← Environment.get?, hv, Option.map_some]
    change Expression.valueIn (.object (Value.toFields env.vars)) x = _
    rw [Expression.valueIn, ofText?_of_isIdentifier hx hword]
    dsimp only
    rw [Expression.evaluate, hentry]

/-- A count that is not zero. -/
theorem truthOf_count : TruthOf ⟨[("_count", .int 3)]⟩ "_count" (.int 3) :=
  truthOf
    ⟨⟨'_', "count".toList, by decide, by decide, List.all_eq_true.mp (by decide)⟩, by decide⟩ rfl

/-- The conditions that name the variable of a number that counts as true hold; but if the number is
infinite, its tree is null, and an expression that comes to it does not hold. -/
private theorem apart {y : Float} (htruthy : (Value.float y).truthy = true)
    (hinf : y.isInf = true) :
    let env : Environment := ⟨[("x", .float y)]⟩
    evaluateText "x" env = .ok true ∧ evaluateText "$\x7bx\x7d" env = .ok true ∧
      env.toJson.field? "x" = some .null ∧ Expression.valueIn env.toJson "(x)" = .ok .null ∧
      Expression.holdsIn env.toJson "(x)" = .ok false ∧ evaluateText "(x)" env = .ok false := by
  intro env
  have hget : env.get? "x" = some (.float y) := rfl
  have hplain : IsPlain "x" := ⟨⟨'x', [], by decide, by decide, nofun⟩, by decide⟩
  have hsole : Template.sole? (placeholder "" "x" "") = some "x" :=
    hplain.sole?_placeholder rfl rfl
  have hcontext : env.toJson = .object [("x", .null)] := by
    change Json.object [("x", (Value.float y).toJson)] = _
    rw [Value.toJson, if_neg (by simp [Decimal.isFinite_eq, hinf])]
  have hparse : Expression.ofText? "(x)" = some (.name "x") := by cbv
  have hvalue : Expression.valueIn env.toJson "(x)" = .ok .null := by
    rw [hcontext, Expression.valueIn, hparse]
    rfl
  have hholds : Expression.holdsIn env.toJson "(x)" = .ok false := by
    rw [Expression.holdsIn, hvalue]
    rfl
  have hexpression : Template.IsExpression "(x)" := ⟨by cbv, by decide, by cbv, by cbv⟩
  have hbind : Template.bind "(x)" env = ("(x)", []) :=
    Template.bind_of_not_hasHole (by cbv)
  refine ⟨?_, ?_, ?_, hvalue, hholds, ?_⟩
  · rw [hplain.evaluateText hget (by decide), htruthy]
  · rw [evaluateText_of_sole? (by decide) hsole hget, htruthy]
  · rw [hcontext]
    rfl
  · rw [hexpression.evaluateText, hbind]
    change (Expression.holdsIn env.toJson "(x)").mapError _ = _
    rw [hholds]
    rfl

/-- An infinite number counts as true and its tree does not. -/
theorem truths_apart :
    let env : Environment := ⟨[("x", .float (1 / 0))]⟩
    (Value.float (1 / 0)).truthy = true ∧ evaluateText "x" env = .ok true ∧
      evaluateText "$\x7bx\x7d" env = .ok true ∧ env.toJson.field? "x" = some .null ∧
      Expression.valueIn env.toJson "(x)" = .ok .null ∧
      Expression.holdsIn env.toJson "(x)" = .ok false ∧ evaluateText "(x)" env = .ok false := by
  have htruthy : (Value.float (1 / 0)).truthy = true := by decide +kernel
  have hinf : (1 / 0 : Float).isInf = true := by decide +kernel
  exact ⟨htruthy, apart htruthy hinf⟩

end Condition

end Workflow
