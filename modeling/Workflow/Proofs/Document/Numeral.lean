import Mathlib.Tactic
import Workflow.Json.Parser
import Workflow.Json.Printer

/-!
# Numbers in documents

What the reader of numbers makes of the front of a text does not depend on what follows, as long as
that does not go on as a number would. An integer is read from its own digits.

## Main definitions

* `Workflow.Json.EndsNumeral` — what a number does not go on with.

## Main results

* `Workflow.Json.numeral?_append` — a number is read alike with anything else behind it.
* `Workflow.Json.numeral?_digitsOf` — the digits of an integer are read as the integer.
-/

namespace Workflow.Json

open Decimal

variable {cs left rest : List Char}

/-- The characters do not begin as the rest of a number does: with a digit, a point or the mark of
an exponent. -/
def EndsNumeral (cs : List Char) : Prop :=
  ∀ c ∈ cs.head?, isDigit c = false ∧ c ≠ '.' ∧ c ≠ 'e' ∧ c ≠ 'E'

theorem endsNumeral_nil : EndsNumeral [] := fun _ h => nomatch h

theorem endsNumeral_cons {c : Char} (hdigit : isDigit c = false) (hpoint : c ≠ '.')
    (he : c ≠ 'e') (hE : c ≠ 'E') : EndsNumeral (c :: cs) := by
  rintro _ ⟨⟩
  exact ⟨hdigit, hpoint, he, hE⟩

/-- A character that a number goes on with does not come up where something else follows. -/
theorem EndsNumeral.append_ne {c : Char} (h : EndsNumeral rest) (hc : c ∈ ['.', 'e', 'E'])
    (hcs : ∀ more, cs ≠ c :: more) (more : List Char) : cs ++ rest ≠ c :: more := by
  intro heq
  rcases List.append_eq_cons_iff.mp heq with ⟨-, rfl⟩ | ⟨more', rfl, -⟩
  · have hne := h c rfl
    simp_all
  · exact hcs more' rfl

/-! ### Digits -/

theorem EndsNumeral.takeWhile_isDigit (h : EndsNumeral rest) : rest.takeWhile isDigit = [] := by
  cases rest with
  | nil => rfl
  | cons c rest => simp [(h c rfl).1]

theorem EndsNumeral.dropWhile_isDigit (h : EndsNumeral rest) : rest.dropWhile isDigit = rest := by
  cases rest with
  | nil => rfl
  | cons c rest => simp [(h c rfl).1]

theorem EndsNumeral.takeWhile_append (h : EndsNumeral rest) (cs : List Char) :
    (cs ++ rest).takeWhile isDigit = cs.takeWhile isDigit := by
  rw [List.takeWhile_append, h.takeWhile_isDigit, List.append_nil]
  split
  · next hlen =>
    exact ((List.takeWhile_prefix isDigit).eq_of_length hlen).symm
  · rfl

theorem EndsNumeral.dropWhile_append (h : EndsNumeral rest) (cs : List Char) :
    (cs ++ rest).dropWhile isDigit = cs.dropWhile isDigit ++ rest := by
  rw [List.dropWhile_append, h.dropWhile_isDigit]
  split
  · next hempty => rw [List.isEmpty_iff.mp hempty, List.nil_append]
  · rfl

theorem takeDigits_append (h : EndsNumeral rest) (s n : Nat) (cs : List Char) :
    takeDigits s n (cs ++ rest) =
      ((takeDigits s n cs).1, (takeDigits s n cs).2.1, (takeDigits s n cs).2.2 ++ rest) := by
  induction cs generalizing s n with
  | nil =>
    cases rest with
    | nil => rfl
    | cons c rest => simp [takeDigits, (h c rfl).1]
  | cons c cs ih =>
    rw [List.cons_append, takeDigits, takeDigits]
    split
    · exact ih ..
    · rfl

/-! ### Fractions and exponents -/

theorem splitSign_append (h : cs ≠ []) (rest : List Char) :
    splitSign (cs ++ rest) = ((splitSign cs).1, (splitSign cs).2 ++ rest) := by
  obtain ⟨c, cs, rfl⟩ := List.exists_cons_of_ne_nil h
  rw [List.cons_append]
  unfold splitSign
  split <;> simp_all

variable {x : Float} {s : Nat} {e : Int}

theorem exponentPart?_append (hrest : EndsNumeral rest)
    (h : exponentPart? s e cs = some (x, left)) :
    exponentPart? s e (cs ++ rest) = some (x, left ++ rest) := by
  have hcs : cs ≠ [] := by
    rintro rfl
    simp [exponentPart?, splitSign] at h
  unfold exponentPart? at h ⊢
  rw [splitSign_append hcs]
  simp only [hrest.takeWhile_append, hrest.dropWhile_append] at h ⊢
  split at h
  · exact nomatch h
  · next hds =>
    rw [if_neg hds]
    split at h
    · next he =>
      rw [if_pos he]
      obtain ⟨y, hy, heq⟩ := Option.map_eq_some_iff.mp h
      cases heq
      rw [hy, Option.map_some]
    · next he =>
      rw [if_neg he]
      split at h
      · exact nomatch h
      · next hzero =>
        cases h
        rw [if_neg hzero]

theorem afterDigits?_append (hrest : EndsNumeral rest)
    (h : afterDigits? s e cs = some (x, left)) :
    afterDigits? s e (cs ++ rest) = some (x, left ++ rest) := by
  unfold afterDigits? at h
  split at h
  · exact exponentPart?_append hrest h
  · exact exponentPart?_append hrest h
  · next he hE =>
    obtain ⟨y, hy, heq⟩ := Option.map_eq_some_iff.mp h
    cases heq
    unfold afterDigits?
    split
    · next more hmore => exact absurd hmore (hrest.append_ne (by simp) (fun _ => he _) more)
    · next more hmore => exact absurd hmore (hrest.append_ne (by simp) (fun _ => hE _) more)
    · rw [hy, Option.map_some]

theorem fractionPart?_append (hrest : EndsNumeral rest)
    (h : fractionPart? s e cs = some (x, left)) :
    fractionPart? s e (cs ++ rest) = some (x, left ++ rest) := by
  unfold fractionPart? at h ⊢
  rw [takeDigits_append hrest]
  simp only [hrest.takeWhile_append, hrest.dropWhile_append] at h ⊢
  split at h
  · next hds =>
    rw [if_pos hds]
    split at h
    · exact nomatch h
    · next hcount =>
      rw [if_neg hcount]
      exact afterDigits?_append hrest h
  · next hds =>
    rw [if_neg hds]
    exact afterDigits?_append hrest h

/-! ### Numbers -/

variable {negative : Bool} {j : Json}

/-- A number with its sign is read alike with anything else behind it if its parts are. -/
private theorem signed_append {read read' : Option (Float × List Char)}
    (h : read.map (signed negative) = some (j, left))
    (hread : ∀ x more, read = some (x, more) → read' = some (x, more ++ rest)) :
    read'.map (signed negative) = some (j, left ++ rest) := by
  obtain ⟨⟨x, more⟩, hx, heq⟩ := Option.map_eq_some_iff.mp h
  cases heq
  rw [hread x _ hx]
  rfl

/-- A number is read alike with anything else behind it. -/
theorem numeral?_append (hrest : EndsNumeral rest) (h : numeral? negative cs = some (j, left)) :
    numeral? negative (cs ++ rest) = some (j, left ++ rest) := by
  have hcs : cs ≠ [] := by
    rintro rfl
    simp [numeral?, takeDigits] at h
  unfold numeral? at h ⊢
  rw [takeDigits_append hrest]
  simp only [hrest.takeWhile_append, hrest.dropWhile_append, List.head?_append_of_ne_nil _ hcs]
    at h ⊢
  split at h
  · exact nomatch h
  next hcount =>
  rw [if_neg hcount]
  split at h
  · exact nomatch h
  next hzero =>
  rw [if_neg hzero]
  split at h
  · next more hmore =>
    rw [hmore, List.cons_append]
    exact signed_append h fun _ _ => fractionPart?_append hrest
  · next more hmore =>
    rw [hmore, List.cons_append]
    exact signed_append h fun _ _ => exponentPart?_append hrest
  · next more hmore =>
    rw [hmore, List.cons_append]
    exact signed_append h fun _ _ => exponentPart?_append hrest
  next hpoint he hE =>
  split
  · next more hmore => exact absurd hmore (hrest.append_ne (by simp) (fun _ => hpoint _) more)
  · next more hmore => exact absurd hmore (hrest.append_ne (by simp) (fun _ => he _) more)
  · next more hmore => exact absurd hmore (hrest.append_ne (by simp) (fun _ => hE _) more)
  · split at h
    · next hskipped =>
      obtain ⟨y, hy, heq⟩ := Option.map_eq_some_iff.mp h
      cases heq
      rw [if_pos hskipped, hy, Option.map_some]
      rfl
    · next hskipped =>
      rw [if_neg hskipped]
      split at h
      · split at h <;> cases h <;> simp_all [signed]
      · cases h
        simp_all

/-! ### Integers -/

/-- The digits of a number that fits the significand are all taken into it. -/
theorem takeDigits_digits {ds : List Char} (hds : ∀ c ∈ ds, isDigit c = true)
    (hrest : EndsNumeral rest) (s n : Nat) (hmax : Nat.ofDigitChars 10 ds s ≤ maxSignificand) :
    takeDigits s n (ds ++ rest) = (Nat.ofDigitChars 10 ds s, n + ds.length, rest) := by
  induction ds generalizing s n with
  | nil =>
    rw [takeDigits_append hrest]
    rfl
  | cons c ds ih =>
    have hvalue : Nat.ofDigitChars 10 (c :: ds) s =
        Nat.ofDigitChars 10 ds (s * 10 + digitValue c) := by
      rw [Nat.ofDigitChars_cons, Nat.mul_comm 10 s]
      rfl
    rw [hvalue] at hmax ⊢
    have hstep : s * 10 + digitValue c ≤ Nat.ofDigitChars 10 ds (s * 10 + digitValue c) := by
      rw [Nat.ofDigitChars_eq_ofDigitChars_zero]
      exact Nat.le_add_right_of_le (Nat.le_mul_of_pos_left _ (by positivity))
    rw [List.cons_append, takeDigits, if_pos ⟨hds c List.mem_cons_self, hstep.trans hmax⟩,
      ih (fun d hd => hds d (List.mem_cons_of_mem _ hd)) _ _ hmax, List.length_cons,
      Nat.add_assoc, Nat.add_comm 1]

theorem isDigit_of_mem_digitsOf {c : Char} {n : Nat} (h : c ∈ digitsOf n) : isDigit c = true := by
  have hdigit := Nat.isDigit_of_mem_toDigits (by decide) (Nat.le_refl 10) h
  simpa [isDigit, Char.isDigit, Char.le_def] using hdigit

/-- No number but zero is written with a zero in front. -/
theorem head?_digitsOf_ne_zero {n : Nat} (hn : n ≠ 0) : (digitsOf n).head? ≠ some '0' := by
  induction n using Nat.strongRecOn with
  | ind n ih =>
    rw [digitsOf, Nat.toDigits_eq_if (by decide)]
    split
    · next hlt => interval_cases n <;> simp_all
    · next hge =>
      rw [List.head?_append_of_ne_nil _ Nat.toDigits_ne_nil]
      exact ih (n / 10) (by omega) (by omega)

/-- The digits of an integer of 64 bits are read as the integer. -/
theorem numeral?_digitsOf {n : Nat} (hrest : EndsNumeral rest)
    (h : n < if negative then 2 ^ 63 + 1 else 2 ^ 64) (hn : negative = true → n ≠ 0) :
    numeral? negative (digitsOf n ++ rest) =
      some (integer (if negative then -(n : Int) else n), rest) := by
  have hpow : Nat.pow 2 63 = 2 ^ 63 := rfl
  have hmax : n ≤ maxSignificand := by
    change n ≤ 2 ^ 64 - 1
    split at h <;> omega
  have hdigits : takeDigits 0 0 (digitsOf n ++ rest) = (n, (digitsOf n).length, rest) := by
    have hds : ∀ c ∈ digitsOf n, isDigit c = true := fun _ => isDigit_of_mem_digitsOf
    have hread := takeDigits_digits hds hrest 0 0
    rw [digitsOf, Nat.ofDigitChars_ten_toDigits, Nat.zero_add] at hread
    exact hread hmax
  have hne : digitsOf n ≠ [] := Nat.toDigits_ne_nil
  have hzero : ¬ ((digitsOf n).head? = some '0' ∧ 1 < (digitsOf n).length) := by
    rintro ⟨hhead, hlen⟩
    obtain rfl : n = 0 := by_contra fun hn => head?_digitsOf_ne_zero hn hhead
    exact absurd hlen (by decide)
  unfold numeral?
  simp only [hdigits, hrest.takeWhile_isDigit, hrest.dropWhile_isDigit, ne_eq, not_true_eq_false,
    or_false, List.head?_append_of_ne_nil _ hne, hzero, if_false, List.length_eq_zero_iff, hne]
  split
  · exact absurd rfl (hrest '.' rfl).2.1
  · exact absurd rfl (hrest 'e' rfl).2.2.1
  · exact absurd rfl (hrest 'E' rfl).2.2.2
  · cases negative with
    | false => rfl
    | true =>
      have hsmall : ¬ (n = 0 ∨ Nat.pow 2 63 < n) := by
        rw [if_pos rfl] at h
        exact not_or.mpr ⟨hn rfl, by omega⟩
      simp [hsmall]

end Workflow.Json
