import Mathlib
import Workflow.Proofs.Comparison.Integers
import Workflow.Proofs.Document.Keys

/-!
# The two equalities

Strict equality looks for every field of one record in the other and never the other way around. It
is symmetric all the same: records bind no key twice, so one of two equally long records that holds
all keys of the other has no key of its own. Loose equality is symmetric and holds wherever strict
equality does. A value is strictly equal to itself unless it holds what is not a number, and the
order of the fields of records, at any depth, makes no difference to strict equality.

## Main definitions

* `Workflow.Value.HoldsNoNaN` — every number within a value is a number.
* `Workflow.Value.Reordered` — a value with the fields of its records in other orders.
* `Workflow.Value.EqualitiesCohere` — how the equalities of two values fit together.

## Main results

* `Workflow.Value.strictEq_comm`, `Workflow.Value.looseEq_comm` — the equalities are symmetric.
* `Workflow.Value.strictEq_self_iff` — which values are strictly equal to themselves.
* `Workflow.Value.strictEq_of_reordered` — strict equality does not depend on the order of fields.
* `Workflow.Value.equalitiesCohere` — how the equalities fit together.
-/

namespace Workflow

open Decimal

/-! ### Numbers -/

theorem Decimal.beq_comm (x y : Float) : (x == y) = (y == x) := by
  rw [Bool.eq_iff_iff, Float.beq_iff_ne_nan_and_eq, Float.beq_iff_ne_nan_and_eq]
  grind

theorem Decimal.beq_self_iff (x : Float) : (x == x) = true ↔ x.isNaN = false := by
  simp

/-- The number nearest to an integer equals itself. -/
theorem Decimal.nearest_beq_self (n : Int64) : (nearest n == nearest n) = true :=
  ((holds_nearest n).beq_iff (holds_nearest n)).mpr rfl

namespace Value

/-! ### Records -/

/-- Every field of the first record is in the second with a value that is strictly equal. -/
theorem strictEqFields_iff {b : Bindings Value} : {a : Bindings Value} →
    (strictEqFields a b = true ↔
      ∀ e ∈ a, ∃ w, Bindings.get? b e.1 = some w ∧ strictEq e.2 w = true)
  | [] => by simp [strictEqFields]
  | (k, v) :: rest => by
    have hrest := strictEqFields_iff (b := b) (a := rest)
    rw [strictEqFields, Bool.and_eq_true, hrest, List.forall_mem_cons]
    refine and_congr_left fun _ => ?_
    cases Bindings.get? b k <;> simp

/-- A record that is as long as another and holds all keys of it has no other keys. -/
theorem keys_subset_of_length_eq {a b : Bindings Value} (ha : (Bindings.keys a).Nodup)
    (hlen : a.length = b.length) (h : Bindings.keys a ⊆ Bindings.keys b) :
    Bindings.keys b ⊆ Bindings.keys a := by
  have hkeys : (Bindings.keys b).length ≤ (Bindings.keys a).length := by
    simp [Bindings.keys, hlen]
  exact ((List.subperm_of_subset ha h).perm_of_length_le hkeys).symm.subset

/-- What two records are strictly equal by, they are strictly equal by the other way around, if that
is so of the values of the first. -/
theorem strictEqFields_swap {a b : Bindings Value} (ha : (Bindings.keys a).Nodup)
    (hb : (Bindings.keys b).Nodup) (hlen : a.length = b.length)
    (hcomm : ∀ e ∈ a, ∀ f ∈ b, strictEq e.2 f.2 = strictEq f.2 e.2)
    (h : strictEqFields a b = true) : strictEqFields b a = true := by
  rw [strictEqFields_iff] at h ⊢
  have hsubset : Bindings.keys a ⊆ Bindings.keys b := by
    intro k hk
    obtain ⟨e, he, rfl⟩ := List.mem_map.mp hk
    obtain ⟨w, hw, -⟩ := h e he
    exact List.mem_map.mpr ⟨_, Bindings.mem_of_get? hw, rfl⟩
  rintro ⟨k, w⟩ hf
  have hk : k ∈ Bindings.keys a :=
    keys_subset_of_length_eq ha hlen hsubset (List.mem_map.mpr ⟨_, hf, rfl⟩)
  obtain ⟨⟨k', v⟩, he, rfl⟩ := List.mem_map.mp hk
  obtain ⟨w', hw', heq⟩ := h _ he
  obtain rfl : w' = w := Option.some.inj (hw'.symm.trans (Bindings.get?_of_mem hb hf))
  exact ⟨v, Bindings.get?_of_mem ha he, hcomm _ he _ hf ▸ heq⟩

/-! ### Symmetry -/

mutual

/-- Strict equality is symmetric. -/
theorem strictEq_comm : (a b : Value) → a.IsWellKeyed → b.IsWellKeyed →
    strictEq a b = strictEq b a
  | null, b, _, _ => by cases b <;> rfl
  | bool a, b, _, _ => by
    cases b with
    | bool b => exact Bool.beq_comm
    | _ => rfl
  | int a, b, _, _ => by
    cases b with
    | int b => exact Bool.beq_comm
    | float b => exact beq_comm (nearest a) b
    | _ => rfl
  | float a, b, _, _ => by
    cases b with
    | int b => exact beq_comm a (nearest b)
    | float b => exact beq_comm a b
    | _ => rfl
  | text a, b, _, _ => by
    cases b with
    | text b => exact Bool.beq_comm
    | _ => rfl
  | list as, b, ha, hb => by
    cases b with
    | list bs => exact strictEqItems_comm as bs ha hb
    | _ => rfl
  | record as, b, ha, hb => by
    cases b with
    | record bs =>
      have hcomm (e) (he : e ∈ as) (f) (hf : f ∈ bs) : strictEq e.2 f.2 = strictEq f.2 e.2 :=
        strictEq_comm_of_mem as ha.2 e he f.2 (hasWellKeyedFields_iff.mp hb.2 f hf)
      rw [strictEq, strictEq, Bool.eq_iff_iff, Bool.and_eq_true, Bool.and_eq_true, beq_iff_eq,
        beq_iff_eq]
      constructor
      · rintro ⟨hlen, h⟩
        exact ⟨hlen.symm, strictEqFields_swap ha.1 hb.1 hlen hcomm h⟩
      · rintro ⟨hlen, h⟩
        exact ⟨hlen.symm, strictEqFields_swap hb.1 ha.1 hlen
          (fun f hf e he => (hcomm e he f hf).symm) h⟩
    | _ => rfl
  | handle a, b, _, _ => by
    cases b with
    | handle b => exact Bool.beq_comm
    | _ => rfl

private theorem strictEqItems_comm : (as bs : List Value) → AreWellKeyed as → AreWellKeyed bs →
    strictEqItems as bs = strictEqItems bs as
  | [], [], _, _ => rfl
  | [], _ :: _, _, _ => rfl
  | _ :: _, [], _, _ => rfl
  | a :: as, b :: bs, ha, hb => by
    rw [strictEqItems, strictEqItems, strictEq_comm a b ha.1 hb.1,
      strictEqItems_comm as bs ha.2 hb.2]

private theorem strictEq_comm_of_mem : (as : Bindings Value) → HasWellKeyedFields as →
    ∀ e ∈ as, ∀ b : Value, b.IsWellKeyed → strictEq e.2 b = strictEq b e.2
  | (_, a) :: rest, ha, e, he, b, hb => by
    rcases List.mem_cons.mp he with rfl | he
    · exact strictEq_comm a b ha.1 hb
    · exact strictEq_comm_of_mem rest ha.2 e he b hb

end

theorem numericEq_comm (a b : Value) : numericEq a b = numericEq b a := by
  unfold numericEq
  cases a.toFloat? <;> cases b.toFloat? <;> first | rfl | exact beq_comm ..

/-- Loose equality is symmetric. -/
theorem looseEq_comm {a b : Value} (ha : a.IsWellKeyed) (hb : b.IsWellKeyed) :
    looseEq a b = looseEq b a := by
  have hstrict := strictEq_comm a b ha hb
  have hnumeric := numericEq_comm a b
  cases a <;> cases b <;> simp only [looseEq] <;>
    first | with_reducible assumption | exact Bool.beq_comm

/-! ### Strict equality is the finer one -/

/-- Values that are strictly equal are loosely equal. -/
theorem looseEq_of_strictEq {a b : Value} (h : strictEq a b = true) : looseEq a b = true := by
  cases a with
  | int n =>
    cases b with
    | int m =>
      obtain rfl : n = m := eq_of_beq h
      exact nearest_beq_self n
    | float y => exact h
    | _ => simp [strictEq] at h
  | float x =>
    cases b with
    | int m => exact h
    | float y => exact h
    | _ => simp [strictEq] at h
  | _ => cases b <;> simp_all [strictEq, looseEq]

/-! ### Values that equal themselves -/

mutual

/-- No number within the value is what is not a number. -/
def HoldsNoNaN : Value → Prop
  | float x => x.isNaN = false
  | list items => HoldNoNaN items
  | record fields => HasNoNaNFields fields
  | _ => True

/-- No number within the values of a list is what is not a number. -/
def HoldNoNaN : List Value → Prop
  | [] => True
  | v :: rest => v.HoldsNoNaN ∧ HoldNoNaN rest

/-- No number within the fields of a record is what is not a number. -/
def HasNoNaNFields : Bindings Value → Prop
  | [] => True
  | (_, v) :: rest => v.HoldsNoNaN ∧ HasNoNaNFields rest

end

mutual

/-- A value is strictly equal to itself just if it holds nothing that is not a number. -/
theorem strictEq_self_iff : (a : Value) → a.IsWellKeyed → (strictEq a a = true ↔ a.HoldsNoNaN)
  | null, _ => iff_of_true rfl trivial
  | bool _, _ => iff_of_true (beq_self_eq_true _) trivial
  | int _, _ => iff_of_true (beq_self_eq_true _) trivial
  | float x, _ => beq_self_iff x
  | text _, _ => iff_of_true (beq_self_eq_true _) trivial
  | list items, h => strictEqItems_self_iff items h
  | record fields, h => by
    rw [strictEq, beq_self_eq_true, Bool.true_and, strictEqFields_iff, HoldsNoNaN]
    refine Iff.trans (forall₂_congr fun e he => ?_) (strictEq_self_of_mem_iff fields h.2)
    simp [Bindings.get?_of_mem h.1 he]
  | handle _, _ => iff_of_true (beq_self_eq_true _) trivial

private theorem strictEqItems_self_iff : (items : List Value) → AreWellKeyed items →
    (strictEqItems items items = true ↔ HoldNoNaN items)
  | [], _ => iff_of_true rfl trivial
  | a :: rest, h => by
    rw [strictEqItems, Bool.and_eq_true, strictEq_self_iff a h.1, strictEqItems_self_iff rest h.2,
      HoldNoNaN]

private theorem strictEq_self_of_mem_iff : (fields : Bindings Value) → HasWellKeyedFields fields →
    ((∀ e ∈ fields, strictEq e.2 e.2 = true) ↔ HasNoNaNFields fields)
  | [], _ => iff_of_true (fun _ h => nomatch h) trivial
  | (_, a) :: rest, h => by
    rw [List.forall_mem_cons, strictEq_self_iff a h.1, strictEq_self_of_mem_iff rest h.2,
      HasNoNaNFields]

end

/-! ### The order of fields -/

mutual

/-- The second value is the first with the fields of its records, at any depth, in some order. -/
inductive Reordered : Value → Value → Prop
  | refl (a : Value) : Reordered a a
  | list {as bs : List Value} (h : ReorderedItems as bs) : Reordered (list as) (list bs)
  | record {as bs cs : Bindings Value} (h : ReorderedFields as bs) (hperm : bs.Perm cs) :
      Reordered (record as) (record cs)

/-- The items of a list, each with its fields in some order. -/
inductive ReorderedItems : List Value → List Value → Prop
  | nil : ReorderedItems [] []
  | cons {a b : Value} {as bs : List Value} (h : Reordered a b) (hrest : ReorderedItems as bs) :
      ReorderedItems (a :: as) (b :: bs)

/-- The values of some fields, each with its own fields in some order. -/
inductive ReorderedFields : Bindings Value → Bindings Value → Prop
  | nil : ReorderedFields [] []
  | cons {k : String} {a b : Value} {as bs : Bindings Value} (h : Reordered a b)
      (hrest : ReorderedFields as bs) : ReorderedFields ((k, a) :: as) ((k, b) :: bs)

end

/-- Which fields a record has is read from the other record in any order. -/
theorem strictEqFields_perm {a a' : Bindings Value} (h : a.Perm a') (b : Bindings Value) :
    strictEqFields a b = strictEqFields a' b := by
  rw [Bool.eq_iff_iff, strictEqFields_iff, strictEqFields_iff]
  exact forall_congr' fun e => imp_congr_left h.mem_iff

theorem ReorderedFields.keys_eq {a b : Bindings Value} :
    ReorderedFields a b → Bindings.keys a = Bindings.keys b
  | .nil => rfl
  | .cons _ hrest => congrArg (_ :: ·) hrest.keys_eq

mutual

/-- A value whose fields are put in another order is equal to the same values as before. -/
theorem Reordered.strictEq_eq : {a a' : Value} → a.Reordered a' → ∀ b : Value,
    strictEq a' b = strictEq a b
  | _, _, .refl _, _ => rfl
  | _, _, .list h, b => by
    cases b with
    | list bs => exact h.strictEqItems_eq bs
    | _ => rfl
  | _, _, .record h hperm, b => by
    cases b with
    | record bs =>
      have hlen := congrArg List.length h.keys_eq
      simp only [Bindings.keys, List.length_map] at hlen
      rw [strictEq, strictEq, ← strictEqFields_perm hperm, h.strictEqFields_eq bs, hlen,
        hperm.length_eq]
    | _ => rfl

private theorem ReorderedItems.strictEqItems_eq : {as as' : List Value} → ReorderedItems as as' →
    ∀ bs : List Value, strictEqItems as' bs = strictEqItems as bs
  | _, _, .nil, _ => rfl
  | _, _, .cons h hrest, bs => by
    cases bs with
    | nil => rfl
    | cons b bs => rw [strictEqItems, strictEqItems, h.strictEq_eq b, hrest.strictEqItems_eq bs]

private theorem ReorderedFields.strictEqFields_eq : {as as' : Bindings Value} →
    ReorderedFields as as' → ∀ bs : Bindings Value, strictEqFields as' bs = strictEqFields as bs
  | _, _, .nil, _ => rfl
  | _, _, .cons (k := k) h hrest, bs => by
    rw [strictEqFields, strictEqFields, hrest.strictEqFields_eq bs]
    cases Bindings.get? bs k with
    | none => rfl
    | some w =>
      dsimp only
      rw [h.strictEq_eq w]

end

mutual

theorem Reordered.isWellKeyed : {a a' : Value} → a.Reordered a' → a.IsWellKeyed → a'.IsWellKeyed
  | _, _, .refl _, ha => ha
  | _, _, .list h, ha => h.areWellKeyed ha
  | _, _, .record h hperm, ha => by
    refine ⟨(hperm.map Prod.fst).nodup ?_, ?_⟩
    · exact h.keys_eq.subst ha.1
    · exact hasWellKeyedFields_iff.mpr fun e he =>
        hasWellKeyedFields_iff.mp (h.hasWellKeyedFields ha.2) e (hperm.mem_iff.mpr he)

private theorem ReorderedItems.areWellKeyed : {as as' : List Value} → ReorderedItems as as' →
    AreWellKeyed as → AreWellKeyed as'
  | _, _, .nil, _ => trivial
  | _, _, .cons h hrest, ha => ⟨h.isWellKeyed ha.1, hrest.areWellKeyed ha.2⟩

private theorem ReorderedFields.hasWellKeyedFields : {as as' : Bindings Value} →
    ReorderedFields as as' → HasWellKeyedFields as → HasWellKeyedFields as'
  | _, _, .nil, _ => trivial
  | _, _, .cons h hrest, ha => ⟨h.isWellKeyed ha.1, hrest.hasWellKeyedFields ha.2⟩

end

/-- The order of fields makes no difference to strict equality. -/
theorem strictEq_of_reordered {a a' b b' : Value} (ha : a.IsWellKeyed) (hb : b.IsWellKeyed)
    (haa' : a.Reordered a') (hbb' : b.Reordered b') : strictEq a' b' = strictEq a b :=
  calc strictEq a' b'
    _ = strictEq a b' := haa'.strictEq_eq b'
    _ = strictEq b' a := strictEq_comm a b' ha (hbb'.isWellKeyed hb)
    _ = strictEq b a := hbb'.strictEq_eq a
    _ = strictEq a b := strictEq_comm b a hb ha

/-! ### How they fit together -/

/-- How the equalities of two values fit together. -/
structure EqualitiesCohere (a b : Value) : Prop where
  strict_comm : strictEq a b = strictEq b a
  loose_comm : looseEq a b = looseEq b a
  loose_of_strict : strictEq a b = true → looseEq a b = true
  strict_self : strictEq a a = true ↔ a.HoldsNoNaN
  strict_reordered : ∀ a' b', a.Reordered a' → b.Reordered b' → strictEq a' b' = strictEq a b

/-- The equalities of any two values whose records bind no key twice fit together. -/
theorem equalitiesCohere {a b : Value} (ha : a.IsWellKeyed) (hb : b.IsWellKeyed) :
    EqualitiesCohere a b where
  strict_comm := strictEq_comm a b ha hb
  loose_comm := looseEq_comm ha hb
  loose_of_strict := looseEq_of_strictEq
  strict_self := strictEq_self_iff a ha
  strict_reordered _ _ := strictEq_of_reordered ha hb

private def order : Value :=
  record [("id", int 7), ("lines", list [record [("item", text "cup"), ("count", int 2)]])]

private def orderAgain : Value :=
  record [("lines", list [record [("count", int 2), ("item", text "cup")]]), ("id", float 7.0)]

private def orderResorted : Value :=
  record [("lines", list [record [("count", int 2), ("item", text "cup")]]), ("id", int 7)]

private theorem order_reordered : order.Reordered orderResorted :=
  .record
    (.cons (.refl _) (.cons
      (.list (.cons (.record (.cons (.refl _) (.cons (.refl _) .nil)) (.swap ..)) .nil)) .nil))
    (.swap ..)

/-- Two spellings of one order, and the first of them with all its fields the other way around. -/
theorem equalitiesCohere_order : EqualitiesCohere order orderAgain ∧
    order.Reordered orderResorted ∧ order ≠ orderResorted ∧
    strictEq order orderResorted = true := by
  have horder : order.IsWellKeyed := by
    simp [order, IsWellKeyed, AreWellKeyed, HasWellKeyedFields, Bindings.keys]
  have hagain : orderAgain.IsWellKeyed := by
    simp [orderAgain, IsWellKeyed, AreWellKeyed, HasWellKeyedFields, Bindings.keys]
  have hcohere := equalitiesCohere horder horder
  refine ⟨equalitiesCohere horder hagain, order_reordered, by simp [order, orderResorted], ?_⟩
  rw [hcohere.strict_reordered _ _ (.refl _) order_reordered, hcohere.strict_self]
  simp [order, HoldsNoNaN, HoldNoNaN, HasNoNaNFields]

end Value

end Workflow
