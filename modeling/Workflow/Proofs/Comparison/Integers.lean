import Workflow.Proofs.Comparison.Nearest

/-!
# Comparing integers

Strict equality compares two integers exactly. Every other operator compares the floating-point
numbers nearest to them, so what it says of the integers rounded to 53 significant bits is what it
says of the integers. It is wrong about two integers only if they are distinct and rounded to the
same one, and then only if equality of the integers would give another outcome.

## Main definitions

* `Workflow.Operator.relates` — the relation of integers that an operator is written for.
* `Workflow.ComparesIntegers` — the outcomes of all operators on two integers.

## Main results

* `Workflow.comparesIntegers` — what every operator says of two integers.
* `Workflow.equal_not_strictly` — two integers that are taken as equal.
-/

namespace Workflow

open Decimal

namespace Operator

/-- The relation of integers that an operator is written for. -/
def relates (o : Operator) (a b : Int) : Bool :=
  match o with
  | equal | strictlyEqual => a = b
  | notEqual | strictlyNotEqual => a ≠ b
  | greater => b < a
  | greaterOrEqual => b ≤ a
  | less => a < b
  | lessOrEqual => a ≤ b
  | contains | matching => false

/-- The operators that compare values by their numbers. -/
def loose : List Operator := [equal, notEqual, greater, greaterOrEqual, less, lessOrEqual]

/-- The operators that do not coerce. -/
def strict : List Operator := [strictlyEqual, strictlyNotEqual]

theorem ofSpelling?_spelling (o : Operator) : ofSpelling? o.spelling = some o := by
  cases o <;> decide

end Operator

/-- Rounding two integers changes what an operator says of them only if it makes them equal. -/
theorem Operator.relates_rounded_iff {o : Operator} (h : o ∈ Operator.loose) (x y : Int) :
    o.relates (rounded x) (rounded y) = o.relates x y ↔
      (rounded x = rounded y → o.relates x y = o.relates x x) := by
  have hle : x ≤ y → rounded x ≤ rounded y := rounded_mono
  have hge : y ≤ x → rounded y ≤ rounded x := rounded_mono
  have hcongr : x = y → rounded x = rounded y := congrArg rounded
  simp only [Operator.loose, List.mem_cons, List.not_mem_nil, or_false] at h
  rcases h with rfl | rfl | rfl | rfl | rfl | rfl <;>
    simp only [Operator.relates, decide_eq_decide, ne_eq, not_iff_not, iff_true] <;> omega

/-- Two integers are in exactly one of the orders. -/
theorem Operator.existsUnique_relates (x y : Int) :
    ∃! o, o ∈ [Operator.less, .equal, .greater] ∧ o.relates x y = true := by
  obtain ⟨o, ho, hrelates⟩ : ∃ o ∈ [Operator.less, .equal, .greater], o.relates x y = true := by
    rcases Int.lt_trichotomy x y with h | h | h
    · exact ⟨.less, by decide, decide_eq_true h⟩
    · exact ⟨.equal, by decide, decide_eq_true h⟩
    · exact ⟨.greater, by decide, decide_eq_true h⟩
  refine ⟨o, ⟨ho, hrelates⟩, ?_⟩
  rintro o' ⟨ho', hrelates'⟩
  simp only [List.mem_cons, List.not_mem_nil, or_false] at ho ho'
  rcases ho with rfl | rfl | rfl <;> rcases ho' with rfl | rfl | rfl <;>
    simp only [relates, decide_eq_true_eq, reduceCtorEq] at * <;> omega

variable {a b : Int64}

theorem compare_spelling (v w : Value) (o : Operator) : compare v o.spelling w = o.apply v w := by
  rw [compare, o.ofSpelling?_spelling]

theorem natAbs_toInt_le (a : Int64) : a.toInt.natAbs ≤ 2 ^ 63 := by
  have hlower := a.le_toInt
  have hupper := a.toInt_lt
  omega

theorem strictEq_int (a b : Int64) :
    Value.strictEq (.int a) (.int b) = decide (a.toInt = b.toInt) := by
  change (a == b) = _
  rw [Bool.eq_iff_iff, beq_iff_eq, decide_eq_true_iff, Int64.toInt_inj]

theorem looseEq_int (a b : Int64) :
    Value.looseEq (.int a) (.int b) = decide (rounded a.toInt = rounded b.toInt) := by
  change (nearest a == nearest b) = _
  rw [Bool.eq_iff_iff, (holds_nearest a).beq_iff (holds_nearest b), decide_eq_true_iff]

theorem order?_int (a b : Int64) :
    Value.order? (.int a) (.int b) = some (Ord.compare (rounded a.toInt) (rounded b.toInt)) :=
  (holds_nearest a).order (holds_nearest b)

theorem apply_strict {o : Operator} (h : o ∈ Operator.strict) :
    o.apply (.int a) (.int b) = .ok (o.relates a.toInt b.toInt) := by
  simp only [Operator.strict, List.mem_cons, List.not_mem_nil, or_false] at h
  rcases h with rfl | rfl
  · exact congrArg Except.ok (strictEq_int a b)
  · rw [Operator.apply, strictEq_int, ← decide_not]
    rfl

theorem compare_beq_lt (x y : Int) : (Ord.compare x y == .lt) = decide (x < y) := by
  rw [Bool.eq_iff_iff, beq_iff_eq, compare_lt_iff_lt, decide_eq_true_iff]

theorem compare_beq_gt (x y : Int) : (Ord.compare x y == .gt) = decide (y < x) := by
  rw [Bool.eq_iff_iff, beq_iff_eq, compare_gt_iff_gt, decide_eq_true_iff]

theorem apply_loose {o : Operator} (h : o ∈ Operator.loose) :
    o.apply (.int a) (.int b) = .ok (o.relates (rounded a.toInt) (rounded b.toInt)) := by
  simp only [Operator.loose, List.mem_cons, List.not_mem_nil, or_false] at h
  rcases h with rfl | rfl | rfl | rfl | rfl | rfl
  · exact congrArg Except.ok (looseEq_int a b)
  · rw [Operator.apply, looseEq_int, ← decide_not]
    rfl
  · rw [Operator.apply, order?_int, Option.any_some, compare_beq_gt]
    rfl
  · simp only [Operator.apply, order?_int, Option.any_some, bne, compare_beq_lt, ← decide_not,
      Int.not_lt]
    rfl
  · rw [Operator.apply, order?_int, Option.any_some, compare_beq_lt]
    rfl
  · simp only [Operator.apply, order?_int, Option.any_some, bne, compare_beq_gt, ← decide_not,
      Int.not_lt]
    rfl

/-- What the operators say of two integers. -/
structure ComparesIntegers (a b : Int64) : Prop where
  strict : ∀ o ∈ Operator.strict,
    compare (.int a) o.spelling (.int b) = .ok (o.relates a.toInt b.toInt)
  /-- The operators that coerce compare the rounded integers. -/
  loose : ∀ o ∈ Operator.loose,
    compare (.int a) o.spelling (.int b) = .ok (o.relates (rounded a.toInt) (rounded b.toInt))
  /-- One of them is wrong just if the integers are rounded to the same one and the outcome for
  equal integers is another. -/
  exact_iff : ∀ o ∈ Operator.loose,
    compare (.int a) o.spelling (.int b) = .ok (o.relates a.toInt b.toInt) ↔
      (rounded a.toInt = rounded b.toInt → o.relates a.toInt b.toInt = o.relates a.toInt a.toInt)
  /-- The two equalities disagree just if distinct integers are rounded to the same one. -/
  agree_iff :
    compare (.int a) Operator.equal.spelling (.int b) =
        compare (.int a) Operator.strictlyEqual.spelling (.int b) ↔
      (rounded a.toInt = rounded b.toInt → a = b)
  /-- Of *less*, *equal* and *greater* exactly one holds. -/
  one : ∃! o, o ∈ [Operator.less, .equal, .greater] ∧
    compare (.int a) o.spelling (.int b) = .ok true
  /-- Integers that are rounded to the same one are large and near each other. -/
  near : a ≠ b → rounded a.toInt = rounded b.toInt →
    2 ^ 53 ≤ a.toInt.natAbs ∧ 2 ^ 53 ≤ b.toInt.natAbs ∧ (a.toInt - b.toInt).natAbs ≤ 1024

/-- What the operators say of any two integers. -/
theorem comparesIntegers (a b : Int64) : ComparesIntegers a b where
  strict o h := (compare_spelling _ _ o).trans (apply_strict h)
  loose o h := (compare_spelling _ _ o).trans (apply_loose h)
  exact_iff o h := by
    rw [compare_spelling, apply_loose h, Except.ok.injEq]
    exact Operator.relates_rounded_iff h _ _
  agree_iff := by
    have hcongr : a.toInt = b.toInt → rounded a.toInt = rounded b.toInt := congrArg rounded
    rw [compare_spelling, compare_spelling, apply_loose (by decide), apply_strict (by decide),
      Except.ok.injEq, ← Int64.toInt_inj]
    simp only [Operator.relates, decide_eq_decide]
    omega
  one := by
    have hmem : ∀ o ∈ [Operator.less, .equal, .greater], o ∈ Operator.loose := by decide
    refine (existsUnique_congr fun o => and_congr_right fun ho => ?_).mpr
      (Operator.existsUnique_relates (rounded a.toInt) (rounded b.toInt))
    rw [compare_spelling, apply_loose (hmem o ho), Except.ok.injEq]
  near hne heq := by
    have hne' : a.toInt ≠ b.toInt := mt Int64.toInt_inj.mp hne
    have ha := natAbs_rounded_sub_le (natAbs_toInt_le a)
    have hb := natAbs_rounded_sub_le (natAbs_toInt_le b)
    exact ⟨two_pow_le_natAbs hne' heq, two_pow_le_natAbs hne'.symm heq.symm, by omega⟩

/-- Two distinct integers that loose equality takes as equal, and neither is taken as greater. -/
theorem equal_not_strictly :
    compare (.int 9007199254740993) "==" (.int 9007199254740992) = .ok true ∧
      compare (.int 9007199254740993) "===" (.int 9007199254740992) = .ok false ∧
      compare (.int 9007199254740993) ">" (.int 9007199254740992) = .ok false := by
  refine ⟨?_, ?_, ?_⟩
  · refine ((compare_spelling _ _ .equal).trans (apply_loose (by decide))).trans ?_
    exact congrArg Except.ok (by decide +kernel)
  · refine ((compare_spelling _ _ .strictlyEqual).trans (apply_strict (by decide))).trans ?_
    exact congrArg Except.ok (by decide +kernel)
  · refine ((compare_spelling _ _ .greater).trans (apply_loose (by decide))).trans ?_
    exact congrArg Except.ok (by decide +kernel)

end Workflow
