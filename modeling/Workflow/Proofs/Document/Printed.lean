import Mathlib.Data.List.DropRight
import Workflow.Proofs.Document.Keys
import Workflow.Proofs.Document.Numeral

/-!
# Printed trees read back

The compact form of a tree is read as the tree, at any depth that the reader allows: texts come back
from their escapes, integers from their digits, and the fields of objects in their order. Of
floating-point numbers this is not so in general, since the reader rounds twice; a tree reads back
if each of its numbers does so alone.

## Main definitions

* `Workflow.Json.depth` — how deep arrays and objects nest.
* `Workflow.Json.IsLegible` — the trees whose numbers read back and whose objects repeat no key.

## Main results

* `Workflow.Json.text??_quoted` — a text is read back from its quoted form.
* `Workflow.Json.parse_compact` — a legible tree is read back from its compact form.
-/

namespace Workflow

namespace Json

open Decimal

mutual

/-- How deep arrays and objects nest in a tree. -/
def depth : Json → Nat
  | array items => itemsDepth items + 1
  | object fields => fieldsDepth fields + 1
  | _ => 0

/-- How deep arrays and objects nest in some trees. -/
def itemsDepth : List Json → Nat
  | [] => 0
  | j :: rest => max j.depth (itemsDepth rest)

/-- How deep arrays and objects nest in some fields. -/
def fieldsDepth : List (String × Json) → Nat
  | [] => 0
  | (_, j) :: rest => max j.depth (fieldsDepth rest)

end

mutual

/-- Every integer of the tree fits into 64 bits, every other number of it is read back from its own
text, and no object of it repeats a key. -/
def IsLegible : Json → Prop
  | integer n => -2 ^ 63 ≤ n ∧ n < 2 ^ 64
  | float x => parse (floatText x) = some (float x)
  | array items => AreLegible items
  | object fields => (Bindings.keys fields).Nodup ∧ HasLegibleFields fields
  | _ => True

/-- Every tree of a list is legible. -/
def AreLegible : List Json → Prop
  | [] => True
  | j :: rest => j.IsLegible ∧ AreLegible rest

/-- Every field of an object is legible. -/
def HasLegibleFields : List (String × Json) → Prop
  | [] => True
  | (_, j) :: rest => j.IsLegible ∧ HasLegibleFields rest

end

/-! ### Texts -/

variable {rest : List Char}

theorem hexUnit?_of_lt {n : Nat} (h : n < 32) (rest : List Char) :
    hexUnit? ('0' :: '0' :: hexDigit (n / 16) :: hexDigit (n % 16) :: rest) = some (n, rest) := by
  have hread : ∀ m < 32, (hexValue? '0', hexValue? (hexDigit (m / 16)),
      hexValue? (hexDigit (m % 16))) = (some 0, some (m / 16), some (m % 16)) := by
    decide
  obtain ⟨h0, h1, h2⟩ : hexValue? '0' = some 0 ∧ hexValue? (hexDigit (n / 16)) = some (n / 16) ∧
      hexValue? (hexDigit (n % 16)) = some (n % 16) := by
    simpa using hread n h
  simp only [hexUnit?, h0, h1, h2, Option.bind_eq_bind, Option.bind_some]
  congr 2
  omega

/-- A character is read back from what stands for it in quotes. -/
theorem textBody?_escapeChar (fuel : Nat) (acc : List Char) (c : Char) (rest : List Char) :
    textBody? (fuel + 1) acc (escapeChar c ++ rest) = textBody? fuel (c :: acc) rest := by
  unfold escapeChar
  split
  · rfl
  · rfl
  · rfl
  · rfl
  · rfl
  · next hquote hback _ _ _ =>
    split
    · next h =>
      obtain rfl : c = Char.ofNat 8 := by rw [← h, Char.ofNat_toNat]
      rfl
    split
    · next h =>
      obtain rfl : c = Char.ofNat 12 := by rw [← h, Char.ofNat_toNat]
      rfl
    split
    · next h =>
      have hunit : unicodeEscape? ('0' :: '0' :: hexDigit (c.toNat / 16) ::
          hexDigit (c.toNat % 16) :: rest) = some (c, rest) := by
        have hlow : ¬ (0xDC00 ≤ c.toNat ∧ c.toNat ≤ 0xDFFF) := by omega
        have hhigh : ¬ (0xD800 ≤ c.toNat ∧ c.toNat < 0xDC00) := by omega
        simp [unicodeEscape?, hexUnit?_of_lt h, hlow, hhigh, Char.ofNat_toNat]
      simp [textBody?, escape?, hunit]
    · next h =>
      rw [List.singleton_append, textBody?, if_neg hquote, if_neg hback, if_neg h]

theorem textBody?_flatMap {cs : List Char} {fuel : Nat} (h : cs.length < fuel) (acc : List Char) :
    textBody? fuel acc (cs.flatMap escapeChar ++ '"' :: rest) =
      some (cs.reverse ++ acc, rest) := by
  induction cs generalizing fuel acc with
  | nil =>
    obtain ⟨fuel, rfl⟩ := Nat.exists_eq_add_of_lt h
    rfl
  | cons c cs ih =>
    obtain ⟨fuel, rfl⟩ : ∃ k, fuel = k + 1 := ⟨fuel - 1, by omega⟩
    rw [List.flatMap_cons, List.append_assoc, textBody?_escapeChar,
      ih (Nat.lt_of_succ_lt_succ h) (c :: acc), List.reverse_cons, List.append_assoc,
      List.singleton_append]

/-- What stands for a text between quotes is no shorter than the text. -/
theorem length_le_flatMap (cs : List Char) : cs.length ≤ (cs.flatMap escapeChar).length := by
  have hone (c : Char) : 1 ≤ (escapeChar c).length := by
    unfold escapeChar
    repeat' split
    all_goals simp
  induction cs with
  | nil => exact Nat.le_refl _
  | cons c cs ih =>
    rw [List.flatMap_cons, List.length_append, List.length_cons]
    have := hone c
    omega

/-- A text is read back from its quoted form. -/
theorem text??_quoted (s : String) (rest : List Char) :
    text?? (s.toList.flatMap escapeChar ++ '"' :: rest) = some (s, rest) := by
  have hlen := length_le_flatMap s.toList
  have hfuel : s.toList.length < (s.toList.flatMap escapeChar ++ '"' :: rest).length + 1 := by
    rw [List.length_append]
    omega
  rw [text??, textBody?_flatMap hfuel, Option.map_some, List.append_nil]
  dsimp only
  rw [List.reverse_reverse, String.ofList_toList]

theorem toList_quoted (s : String) :
    (quoted s).toList = '"' :: (s.toList.flatMap escapeChar ++ ['"']) := by
  rw [quoted, String.toList_ofList, List.cons_append]

/-! ### White space -/

theorem skipSpace_skipSpace (cs : List Char) : skipSpace (skipSpace cs) = skipSpace cs :=
  List.dropWhile_idempotent ..

theorem skipSpace_cons {c : Char} (h : isSpace c = false) (cs : List Char) :
    skipSpace (c :: cs) = c :: cs := by
  simp [skipSpace, h]

-- Most of what follows is one call of the reader, opened up to where it stops.
attribute [local simp] value? items?? fields??

theorem value?_skipSpace (fuel depth : Nat) (cs : List Char) :
    value? fuel depth (skipSpace cs) = value? fuel depth cs := by
  cases fuel with
  | zero => simp only [value?]
  | succ fuel => simp only [value?, skipSpace_skipSpace]

theorem items??_skipSpace (fuel depth : Nat) (acc : List Json) (cs : List Char) :
    items?? fuel depth acc (skipSpace cs) = items?? fuel depth acc cs := by
  cases fuel with
  | zero => simp only [items??]
  | succ fuel => simp only [items??, value?_skipSpace]

theorem fields??_skipSpace (fuel depth : Nat) (acc : List (String × Json)) (cs : List Char) :
    fields?? fuel depth acc (skipSpace cs) = fields?? fuel depth acc cs := by
  cases fuel with
  | zero => simp only [fields??]
  | succ fuel => simp only [fields??, skipSpace_skipSpace]

/-! ### Trees alone -/

variable {fuel depth : Nat} {cs left : List Char} {j : Json}

theorem isSpace_of_isDigit {c : Char} (h : isDigit c = true) : isSpace c = false := by
  by_contra hspace
  simp only [isSpace, Bool.not_eq_false, Bool.or_eq_true, decide_eq_true_eq] at hspace
  rcases hspace with ((rfl | rfl) | rfl) | rfl <;> exact absurd h (by decide)

theorem value?_digit {c : Char} (h : isDigit c = true) :
    value? (fuel + 1) depth (c :: cs) = numeral? false (c :: cs) := by
  rw [value?, skipSpace_cons (isSpace_of_isDigit h)]
  split <;> simp_all <;> contradiction

theorem value?_minus : value? (fuel + 1) depth ('-' :: cs) = numeral? true cs := by
  simp only [value?, skipSpace_cons (c := '-') rfl]

theorem value?_text (s : String) :
    value? (fuel + 1) depth ((quoted s).toList ++ rest) = some (text s, rest) := by
  rw [toList_quoted, List.cons_append, List.append_assoc, List.singleton_append]
  simp only [value?, skipSpace_cons (c := '"') rfl, text??_quoted, Option.map_some]

theorem value?_array_nil :
    value? (fuel + 1) (depth + 1) ('[' :: ']' :: rest) = some (array [], rest) := by
  simp only [value?, skipSpace_cons (c := '[') rfl, skipSpace_cons (c := ']') rfl]

theorem value?_array {r : Json × List Char} (h : items?? fuel depth [] cs = some r) :
    value? (fuel + 1) (depth + 1) ('[' :: cs) = some r := by
  simp only [value?, skipSpace_cons (c := '[') rfl]
  split
  · next left hleft =>
    have hnone (n : Nat) : value? n depth (']' :: left) = none := by
      cases n with
      | zero => simp only [value?]
      | succ n => simp [skipSpace_cons (c := ']') rfl, numeral?, takeDigits, isDigit]
    rw [← items??_skipSpace, hleft] at h
    cases fuel <;> simp [hnone] at h
  · rw [items??_skipSpace, h]

theorem value?_object_nil :
    value? (fuel + 1) (depth + 1) ('\x7b' :: '\x7d' :: rest) = some (object [], rest) := by
  simp only [value?, skipSpace_cons (c := '\x7b') rfl, skipSpace_cons (c := '\x7d') rfl]

theorem value?_object {r : Json × List Char} (h : fields?? fuel depth [] cs = some r) :
    value? (fuel + 1) (depth + 1) ('\x7b' :: cs) = some r := by
  simp only [value?, skipSpace_cons (c := '\x7b') rfl]
  split
  · next left hleft =>
    rw [← fields??_skipSpace, hleft] at h
    cases fuel <;> simp [skipSpace_cons (c := '\x7d') rfl] at h
  · rw [fields??_skipSpace, h]

/-! ### Floating-point numbers -/

theorem items??_isArray {acc : List Json} (h : items?? fuel depth acc cs = some (j, left)) :
    ∃ items, j = array items := by
  induction fuel generalizing acc cs with
  | zero => simp at h
  | succ fuel ih =>
    rw [items??] at h
    split at h
    · exact nomatch h
    · split at h
      · exact ih h
      · cases h
        exact ⟨_, rfl⟩
      · exact nomatch h

theorem fields??_isObject {acc : List (String × Json)}
    (h : fields?? fuel depth acc cs = some (j, left)) : ∃ fields, j = object fields := by
  induction fuel generalizing acc cs with
  | zero => simp at h
  | succ fuel ih =>
    rw [fields??] at h
    repeat' split at h
    any_goals contradiction
    · exact ih h
    · exact ⟨_, (congrArg Prod.fst (Option.some.inj h)).symm⟩

theorem isDigit_of_numeral? {negative : Bool} {c : Char} {r : Json × List Char}
    (h : numeral? negative (c :: cs) = some r) : isDigit c = true := by
  by_contra hc
  simp [numeral?, takeDigits, hc] at h

/-- What is read as a floating-point number is a numeral behind white space. -/
theorem numeral?_of_value?_float {x : Float} (h : value? fuel depth cs = some (float x, left)) :
    (∃ more, skipSpace cs = '-' :: more ∧ numeral? true more = some (float x, left)) ∨
      ∃ c more, skipSpace cs = c :: more ∧ isDigit c = true ∧
        numeral? false (c :: more) = some (float x, left) := by
  have hne (k : Json) (rest : List Char) (hk : ∀ y, k ≠ float y) :
      some (k, rest) ≠ some (float x, left) := by
    intro heq
    exact hk x (congrArg Prod.fst (Option.some.inj heq))
  have hword (word : String) (k : Json) (rest : List Char) (hk : ∀ y, k ≠ float y) :
      word? word k rest ≠ some (float x, left) := by
    rw [word?]
    split
    · exact hne k _ hk
    · exact fun h => nomatch h
  cases fuel with
  | zero => simp at h
  | succ fuel =>
    rw [value?] at h
    split at h
    · exact nomatch h
    · obtain ⟨⟨s, rest⟩, -, heq⟩ := Option.map_eq_some_iff.mp h
      exact nomatch (congrArg Prod.fst heq)
    · split at h
      · exact nomatch h
      split at h
      · exact absurd h (hne _ _ (by simp))
      · obtain ⟨items, hitems⟩ := items??_isArray h
        exact nomatch hitems
    · split at h
      · exact nomatch h
      split at h
      · exact absurd h (hne _ _ (by simp))
      · obtain ⟨fields, hfields⟩ := fields??_isObject h
        exact nomatch hfields
    · exact absurd h (hword _ _ _ (by simp))
    · exact absurd h (hword _ _ _ (by simp))
    · exact absurd h (hword _ _ _ (by simp))
    · next more hmore => exact .inl ⟨more, hmore, h⟩
    · next c more _ _ _ _ _ _ _ hmore => exact .inr ⟨c, more, hmore, isDigit_of_numeral? h, h⟩

/-- What is read as a floating-point number is read alike with anything else behind it. -/
theorem value?_float_append {x : Float} (h : value? fuel depth cs = some (float x, left))
    (hrest : EndsNumeral rest) (fuel' depth' : Nat) :
    value? (fuel' + 1) depth' (cs ++ rest) = some (float x, left ++ rest) := by
  have happend {c : Char} {more : List Char} (hmore : skipSpace cs = c :: more) :
      skipSpace (cs ++ rest) = c :: (more ++ rest) := by
    have hne : (cs.dropWhile isSpace).isEmpty = false := by
      rw [show cs.dropWhile isSpace = c :: more from hmore]
      rfl
    rw [skipSpace, List.dropWhile_append, if_neg (by simp [hne])]
    exact congrArg (· ++ rest) hmore
  rw [← value?_skipSpace]
  rcases numeral?_of_value?_float h with ⟨more, hmore, hnum⟩ | ⟨c, more, hmore, hc, hnum⟩
  · rw [happend hmore, value?_minus, numeral?_append hrest hnum]
  · rw [happend hmore, value?_digit hc, ← List.cons_append, numeral?_append hrest hnum]

/-! ### Trees -/

/-- The characters are read as the tree, up to white space, whatever follows that is not the rest of
a number; each character pays for one call of the reader. -/
def ReadsAs (cs : List Char) (j : Json) : Prop :=
  ∀ (fuel depth : Nat) (rest : List Char), cs.length ≤ fuel → j.depth ≤ depth →
    EndsNumeral rest → ∃ left, value? fuel depth (cs ++ rest) = some (j, left) ∧
      skipSpace left = skipSpace rest

theorem readsAs_float {x : Float} (h : parse (floatText x) = some (float x)) :
    ReadsAs (floatText x).toList (float x) := by
  intro fuel depth rest hfuel _ hrest
  unfold parse at h
  dsimp only at h
  split at h
  · next j left hread =>
    split at h
    · next hleft =>
      cases h
      have hne : (floatText x).toList ≠ [] := by
        intro hnil
        simp [hnil, skipSpace] at hread
      obtain ⟨fuel, rfl⟩ : ∃ k, fuel = k + 1 :=
        ⟨fuel - 1, by have := List.length_pos_iff.mpr hne; omega⟩
      refine ⟨left ++ rest, value?_float_append hread hrest fuel depth, ?_⟩
      rw [skipSpace, List.dropWhile_append, if_pos (by simpa [skipSpace] using hleft), skipSpace]
    · exact nomatch h
  · exact nomatch h

theorem readsAs_integer {n : Int} (h : -2 ^ 63 ≤ n ∧ n < 2 ^ 64) :
    ReadsAs (intText n).toList (integer n) := by
  intro fuel depth rest hfuel _ hrest
  refine ⟨rest, ?_, rfl⟩
  have hnat : (natText n.natAbs).toList = digitsOf n.natAbs := String.toList_ofList
  have hne : digitsOf n.natAbs ≠ [] := Nat.toDigits_ne_nil
  have hpos := List.length_pos_iff.mpr hne
  by_cases hneg : n < 0
  · have htext : (intText n).toList = '-' :: digitsOf n.natAbs := by
      rw [intText, if_pos hneg, String.toList_append, hnat]
      rfl
    rw [htext, List.length_cons] at hfuel
    obtain ⟨fuel, rfl⟩ : ∃ k, fuel = k + 1 := ⟨fuel - 1, by omega⟩
    rw [htext, List.cons_append, value?_minus,
      numeral?_digitsOf hrest (by simp only [if_true]; omega) (by omega), if_pos rfl,
      show -(n.natAbs : Int) = n by omega]
  · have htext : (intText n).toList = digitsOf n.natAbs := by rw [intText, if_neg hneg, hnat]
    rw [htext] at hfuel
    obtain ⟨fuel, rfl⟩ : ∃ k, fuel = k + 1 := ⟨fuel - 1, by omega⟩
    obtain ⟨c, ds, hds⟩ := List.exists_cons_of_ne_nil hne
    have hc : isDigit c = true := isDigit_of_mem_digitsOf (hds ▸ List.mem_cons_self)
    have hnum : numeral? false (digitsOf n.natAbs ++ rest) = _ := numeral?_digitsOf hrest
      (by simp only [Bool.false_eq_true, if_false]; omega) (by simp)
    rw [hds] at hnum
    rw [htext, hds, List.cons_append, value?_digit hc, ← List.cons_append, hnum,
      if_neg Bool.false_ne_true, show (n.natAbs : Int) = n by omega]

/-- Before a mark that ends an entry of an array or an object, a tree is read up to the mark. -/
theorem ReadsAs.exists_left {c : Char} (h : ReadsAs cs j) (hc : c ∈ [',', ']', '\x7d'])
    (hfuel : cs.length ≤ fuel) (hdepth : j.depth ≤ depth) (rest : List Char) :
    ∃ left, value? fuel depth (cs ++ c :: rest) = some (j, left) ∧ skipSpace left = c :: rest := by
  have hmark : (isDigit c = false ∧ c ≠ '.' ∧ c ≠ 'e' ∧ c ≠ 'E') ∧ isSpace c = false := by
    simp only [List.mem_cons, List.not_mem_nil, or_false] at hc
    rcases hc with rfl | rfl | rfl <;> decide
  obtain ⟨⟨hdigit, hpoint, he, hE⟩, hspace⟩ := hmark
  obtain ⟨left, hvalue, hleft⟩ := h fuel depth (c :: rest) hfuel hdepth
    (endsNumeral_cons hdigit hpoint he hE)
  exact ⟨left, hvalue, hleft.trans (skipSpace_cons hspace rest)⟩

/-- The items of an array are read up to its closing bracket. -/
theorem items??_compactItems {items : List Json} (hne : items ≠ [])
    (hread : ∀ j ∈ items, ReadsAs j.compact.toList j) (acc : List Json)
    (hfuel : (",".intercalate (compactItems items)).toList.length < fuel)
    (hdepth : itemsDepth items ≤ depth) :
    items?? fuel depth acc ((",".intercalate (compactItems items)).toList ++ ']' :: rest) =
      some (array (acc.reverse ++ items), rest) := by
  induction items generalizing fuel acc with
  | nil => exact absurd rfl hne
  | cons j items ih =>
    obtain ⟨fuel, rfl⟩ : ∃ n, fuel = n + 1 := ⟨fuel - 1, by omega⟩
    have hj : ReadsAs j.compact.toList j := hread j List.mem_cons_self
    have hjdepth : j.depth ≤ depth := (Nat.le_max_left ..).trans hdepth
    cases items with
    | nil =>
      have htext : ",".intercalate (compactItems [j]) = j.compact := by
        rw [compactItems, compactItems, String.intercalate_singleton]
      rw [htext] at hfuel ⊢
      have hjfuel : j.compact.toList.length ≤ fuel := by omega
      obtain ⟨left, hvalue, hleft⟩ := hj.exists_left (c := ']') (by decide) hjfuel hjdepth rest
      simp only [items??, hvalue, hleft, List.reverse_cons]
    | cons k items =>
      have htext : (",".intercalate (compactItems (j :: k :: items))).toList =
          j.compact.toList ++ ',' :: (",".intercalate (compactItems (k :: items))).toList := by
        rw [compactItems, compactItems, String.intercalate_cons_cons, ← compactItems]
        simp
      rw [htext] at hfuel ⊢
      rw [List.length_append, List.length_cons] at hfuel
      have hrest : items?? fuel depth (j :: acc) _ = _ := ih (List.cons_ne_nil _ _)
        (fun i hi => hread i (List.mem_cons_of_mem _ hi)) (j :: acc) (by omega)
        ((Nat.le_max_right ..).trans hdepth)
      have hjfuel : j.compact.toList.length ≤ fuel := by omega
      obtain ⟨left, hvalue, hleft⟩ := hj.exists_left (c := ',') (by decide) hjfuel hjdepth
        ((",".intercalate (compactItems (k :: items))).toList ++ ']' :: rest)
      rw [List.append_assoc, List.cons_append]
      simp only [items??, hvalue, hleft, hrest, List.reverse_cons, List.append_assoc,
        List.singleton_append]

theorem toList_field (k : String) (j : Json) (cs : List Char) :
    (quoted k ++ ":" ++ j.compact).toList ++ cs =
      '"' :: (k.toList.flatMap escapeChar ++ '"' :: ':' :: (j.compact.toList ++ cs)) := by
  simp [String.toList_append, toList_quoted]

/-- A field with another one behind it is read. -/
theorem fields??_more {k : String} {acc : List (String × Json)}
    (hread : ReadsAs j.compact.toList j) (hfuel : j.compact.toList.length ≤ fuel)
    (hdepth : j.depth ≤ depth) :
    fields?? (fuel + 1) depth acc ((quoted k ++ ":" ++ j.compact).toList ++ ',' :: rest) =
      fields?? fuel depth ((k, j) :: acc) rest := by
  obtain ⟨left, hj, hleft⟩ := hread.exists_left (c := ',') (by decide) hfuel hdepth rest
  rw [toList_field]
  simp only [fields??, skipSpace_cons (c := '"') rfl, text??_quoted, skipSpace_cons (c := ':') rfl,
    hj, hleft]

/-- The last field is read. -/
theorem fields??_last {k : String} {acc : List (String × Json)}
    (hread : ReadsAs j.compact.toList j) (hfuel : j.compact.toList.length ≤ fuel)
    (hdepth : j.depth ≤ depth) :
    fields?? (fuel + 1) depth acc ((quoted k ++ ":" ++ j.compact).toList ++ '\x7d' :: rest) =
      some (object (Bindings.ofList ((k, j) :: acc).reverse), rest) := by
  obtain ⟨left, hj, hleft⟩ := hread.exists_left (c := '\x7d') (by decide) hfuel hdepth rest
  rw [toList_field]
  simp only [fields??, skipSpace_cons (c := '"') rfl, text??_quoted, skipSpace_cons (c := ':') rfl,
    hj, hleft]

/-- The fields of an object are read up to its closing brace. -/
theorem fields??_compactFields {fields : List (String × Json)} (hne : fields ≠ [])
    (hread : ∀ e ∈ fields, ReadsAs e.2.compact.toList e.2) (acc : List (String × Json))
    (hfuel : (",".intercalate (compactFields fields)).toList.length < fuel)
    (hdepth : fieldsDepth fields ≤ depth) :
    fields?? fuel depth acc ((",".intercalate (compactFields fields)).toList ++ '\x7d' :: rest) =
      some (object (Bindings.ofList (acc.reverse ++ fields)), rest) := by
  induction fields generalizing fuel acc with
  | nil => exact absurd rfl hne
  | cons e fields ih =>
    obtain ⟨k, j⟩ := e
    obtain ⟨fuel, rfl⟩ : ∃ n, fuel = n + 1 := ⟨fuel - 1, by omega⟩
    have hj : ReadsAs j.compact.toList j := hread _ List.mem_cons_self
    have hjdepth : j.depth ≤ depth := (Nat.le_max_left ..).trans hdepth
    cases fields with
    | nil =>
      have htext : ",".intercalate (compactFields [(k, j)]) = quoted k ++ ":" ++ j.compact := by
        rw [compactFields, compactFields, String.intercalate_singleton]
      rw [htext] at hfuel ⊢
      simp only [String.toList_append, List.length_append] at hfuel
      rw [fields??_last hj (by omega) hjdepth, List.reverse_cons]
    | cons e fields =>
      have htext : (",".intercalate (compactFields ((k, j) :: e :: fields))).toList =
          (quoted k ++ ":" ++ j.compact).toList ++
            ',' :: (",".intercalate (compactFields (e :: fields))).toList := by
        rw [compactFields, compactFields, String.intercalate_cons_cons, ← compactFields]
        simp
      rw [htext] at hfuel ⊢
      simp only [String.toList_append, List.length_append, List.length_cons] at hfuel
      rw [List.append_assoc, List.cons_append, fields??_more hj (by omega) hjdepth,
        ih (List.cons_ne_nil _ _) (fun i hi => hread i (List.mem_cons_of_mem _ hi)) _ (by omega)
          ((Nat.le_max_right ..).trans hdepth),
        List.reverse_cons, List.append_assoc, List.singleton_append]

theorem word?_append (word : String) (value : Json) (rest : List Char) :
    word? word value (word.toList ++ rest) = some (value, rest) := by
  simp [word?]

/-- A tree that is written as a word is read from the word. -/
theorem readsAs_word (c : Char) (word : String)
    (h : ∀ fuel depth rest, value? (fuel + 1) depth (c :: rest) = word? word j rest) :
    ReadsAs (c :: word.toList) j := by
  intro fuel depth rest hfuel _ _
  rw [List.length_cons] at hfuel
  obtain ⟨fuel, rfl⟩ : ∃ n, fuel = n + 1 := ⟨fuel - 1, by omega⟩
  exact ⟨rest, (h fuel depth _).trans (word?_append word j rest), rfl⟩

theorem readsAs_null : ReadsAs null.compact.toList null :=
  readsAs_word 'n' "ull" fun _ _ _ => by
    simp only [value?, skipSpace_cons (c := 'n') rfl]

theorem readsAs_bool (b : Bool) : ReadsAs (bool b).compact.toList (bool b) := by
  cases b with
  | true =>
    exact readsAs_word 't' "rue" fun _ _ _ => by
      simp only [value?, skipSpace_cons (c := 't') rfl]
  | false =>
    exact readsAs_word 'f' "alse" fun _ _ _ => by
      simp only [value?, skipSpace_cons (c := 'f') rfl]

theorem readsAs_text (s : String) : ReadsAs (quoted s).toList (text s) := by
  intro fuel depth rest hfuel _ _
  rw [toList_quoted, List.length_cons] at hfuel
  obtain ⟨fuel, rfl⟩ : ∃ n, fuel = n + 1 := ⟨fuel - 1, by omega⟩
  exact ⟨rest, value?_text s, rfl⟩

/-- What stands between two marks is read as a tree if it is read up to the closing one. -/
theorem readsAs_bracketed {first last : Char} {inner : List Char}
    (htext : j.compact.toList = first :: (inner ++ [last])) (hdeep : 0 < j.depth)
    (h : ∀ fuel depth rest, inner.length < fuel → j.depth ≤ depth + 1 →
      value? (fuel + 1) (depth + 1) (first :: (inner ++ last :: rest)) = some (j, rest)) :
    ReadsAs j.compact.toList j := by
  intro fuel depth rest hfuel hdepth _
  rw [htext, List.length_cons, List.length_append, List.length_singleton] at hfuel
  obtain ⟨fuel, rfl⟩ : ∃ n, fuel = n + 1 := ⟨fuel - 1, by omega⟩
  obtain ⟨depth, rfl⟩ : ∃ n, depth = n + 1 := ⟨depth - 1, by omega⟩
  rw [htext, List.cons_append, List.append_assoc, List.singleton_append]
  exact ⟨rest, h fuel depth rest (by omega) hdepth, rfl⟩

theorem readsAs_array {items : List Json} (h : ∀ j ∈ items, ReadsAs j.compact.toList j) :
    ReadsAs (array items).compact.toList (array items) := by
  have htext : (array items).compact.toList =
      '[' :: ((",".intercalate (compactItems items)).toList ++ [']']) := by
    simp [compact, String.toList_append]
  refine readsAs_bracketed htext (Nat.succ_pos _) fun fuel depth rest hfuel hdepth => ?_
  cases items with
  | nil => exact value?_array_nil
  | cons j items =>
    exact value?_array
      (items??_compactItems (List.cons_ne_nil _ _) h [] hfuel (Nat.le_of_succ_le_succ hdepth))

theorem readsAs_object {fields : List (String × Json)} (hnodup : (Bindings.keys fields).Nodup)
    (h : ∀ e ∈ fields, ReadsAs e.2.compact.toList e.2) :
    ReadsAs (object fields).compact.toList (object fields) := by
  have htext : (object fields).compact.toList =
      '\x7b' :: ((",".intercalate (compactFields fields)).toList ++ ['\x7d']) := by
    simp [compact, String.toList_append]
  refine readsAs_bracketed htext (Nat.succ_pos _) fun fuel depth rest hfuel hdepth => ?_
  cases fields with
  | nil => exact value?_object_nil
  | cons e fields =>
    have hread : fields?? fuel depth [] (_ ++ '\x7d' :: rest) = _ :=
      fields??_compactFields (List.cons_ne_nil _ _) h [] hfuel (Nat.le_of_succ_le_succ hdepth)
    rw [List.reverse_nil, List.nil_append, Bindings.ofList_of_nodup hnodup] at hread
    exact value?_object hread

mutual

/-- A legible tree is read from its compact form. -/
theorem readsAs_compact : (j : Json) → j.IsLegible → ReadsAs j.compact.toList j
  | null, _ => readsAs_null
  | bool b, _ => readsAs_bool b
  | integer _, h => readsAs_integer h
  | float _, h => readsAs_float h
  | text s, _ => readsAs_text s
  | array items, h => readsAs_array (forall_mem_readsAs items h)
  | object fields, h => readsAs_object h.1 (forall_mem_fields_readsAs fields h.2)

private theorem forall_mem_readsAs : (items : List Json) → AreLegible items →
    ∀ j ∈ items, ReadsAs j.compact.toList j
  | j :: rest, h, i, hi => by
    rcases List.mem_cons.mp hi with hi | hi
    · exact hi ▸ readsAs_compact j h.1
    · exact forall_mem_readsAs rest h.2 i hi

private theorem forall_mem_fields_readsAs : (fields : List (String × Json)) →
    HasLegibleFields fields → ∀ e ∈ fields, ReadsAs e.2.compact.toList e.2
  | (_, j) :: rest, h, e, he => by
    rcases List.mem_cons.mp he with he | he
    · exact he ▸ readsAs_compact j h.1
    · exact forall_mem_fields_readsAs rest h.2 e he

end

/-- A legible tree is read back from its compact form. -/
theorem parse_compact {j : Json} (h : j.IsLegible) (hdepth : j.depth ≤ maxDepth) :
    parse j.compact = some j := by
  obtain ⟨left, hread, hleft⟩ := readsAs_compact j h (2 * j.compact.toList.length + 2) maxDepth []
    (by omega) hdepth endsNumeral_nil
  rw [List.append_nil] at hread
  unfold parse
  simp only [hread, hleft]
  rfl

end Json

end Workflow
