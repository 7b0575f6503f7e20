import Workflow.Path

/-!
# Texts of paths

A written path tells the path: split at its slashes it gives the words of its segments, and no
segment begins with the words of another. So two steps of a run with the same text are the same
step, and a text that goes on behind a slash is that of something further down.

## Main definitions

* `Workflow.Segment.words`, `Workflow.Path.words` — what stands between the slashes.

## Main results

* `Workflow.Path.text_injective` — a path is told by its text.
* `Workflow.Path.exists_of_text` — a text that goes on behind a slash.
-/

namespace Workflow

/-! ### Words -/

/-- What stands between the slashes of the written form of a segment. -/
def Segment.words : Segment → List (List Char)
  | step i => [Decimal.digitsOf i]
  | whenTrue => ["then".toList]
  | whenFalse => ["else".toList]
  | body => ["steps".toList]
  | iteration i => ["iter".toList, Decimal.digitsOf i]
  | branch i => ["branch".toList, Decimal.digitsOf i]

/-- What stands between the slashes of a written path. -/
def Path.words (p : Path) : List (List Char) := p.flatMap Segment.words

theorem digitsOf_inj {i j : Nat} : Decimal.digitsOf i = Decimal.digitsOf j ↔ i = j := by
  refine ⟨fun h => ?_, congrArg _⟩
  calc
    i = Nat.ofDigitChars 10 (Decimal.digitsOf i) 0 := Nat.ofDigitChars_ten_toDigits.symm
    _ = Nat.ofDigitChars 10 (Decimal.digitsOf j) 0 := by rw [h]
    _ = j := Nat.ofDigitChars_ten_toDigits

/-- A word with a character that is no digit writes no number. -/
theorem natText_injective : Function.Injective Decimal.natText := by
  intro i j h
  exact digitsOf_inj.mp (String.ofList_injective h)

theorem digitsOf_ne {c : Char} {w : List Char} (hc : c ∈ w) (hd : c.isDigit = false) (i : Nat) :
    Decimal.digitsOf i ≠ w := by
  rintro rfl
  have hdigit := Nat.isDigit_of_mem_toDigits (by decide) (Nat.le_refl 10) hc
  exact nomatch hd.symm.trans hdigit

theorem slash_notMem_digitsOf (i : Nat) : '/' ∉ Decimal.digitsOf i := fun h =>
  digitsOf_ne h rfl i rfl

namespace Segment

theorem words_ne_nil (s : Segment) : s.words ≠ [] := by cases s <;> exact List.cons_ne_nil _ _

theorem slash_notMem_words (s : Segment) : ∀ w ∈ s.words, '/' ∉ w := by
  cases s <;> simp [words, slash_notMem_digitsOf]

theorem word_ne_nil (s : Segment) : ∀ w ∈ s.words, w ≠ [] := by
  have hdigits (i : Nat) : Decimal.digitsOf i ≠ [] := Nat.toDigits_ne_nil
  cases s <;> simp [words, hdigits]

theorem toList_text (s : Segment) : s.text.toList = ['/'].intercalate s.words := by
  have hnumber (i : Nat) : (Decimal.natText i).toList = Decimal.digitsOf i := String.toList_ofList
  cases s <;> simp [text, words, hnumber]

theorem intercalate_words_append (s : Segment) {l : List (List Char)} (hl : l ≠ []) :
    ['/'].intercalate (s.words ++ l) = ['/'].intercalate s.words ++ '/' :: ['/'].intercalate l := by
  obtain ⟨w, rest, rfl⟩ := List.exists_cons_of_ne_nil hl
  cases s <;> simp [words]

/-- No segment begins with the words of another. -/
theorem words_append_inj {s s' : Segment} {l l' : List (List Char)}
    (h : s.words ++ l = s'.words ++ l') : s = s' ∧ l = l' := by
  have hthen := digitsOf_ne (c := 't') (w := "then".toList) (List.mem_cons_self ..) rfl
  have helse := digitsOf_ne (c := 'e') (w := "else".toList) (List.mem_cons_self ..) rfl
  have hsteps := digitsOf_ne (c := 's') (w := "steps".toList) (List.mem_cons_self ..) rfl
  have hiter := digitsOf_ne (c := 'i') (w := "iter".toList) (List.mem_cons_self ..) rfl
  have hbranch := digitsOf_ne (c := 'b') (w := "branch".toList) (List.mem_cons_self ..) rfl
  cases s <;> cases s' <;>
    simp only [words, List.cons_append, List.nil_append, List.cons.injEq] at h <;>
    grind [digitsOf_inj]

end Segment

namespace Path

variable {p q : Path}

theorem words_ne_nil (hp : p ≠ []) : p.words ≠ [] := by
  obtain ⟨s, rest, rfl⟩ := List.exists_cons_of_ne_nil hp
  exact List.append_ne_nil_of_left_ne_nil s.words_ne_nil _

theorem word_ne_nil (p : Path) : ∀ w ∈ p.words, w ≠ [] := by
  intro w hw
  obtain ⟨s, -, hs⟩ := List.mem_flatMap.mp hw
  exact s.word_ne_nil w hs

theorem slash_notMem_words (p : Path) : ∀ w ∈ p.words, '/' ∉ w := by
  intro w hw
  obtain ⟨s, -, hs⟩ := List.mem_flatMap.mp hw
  exact s.slash_notMem_words w hs

theorem toList_text : (p : Path) → p.text.toList = ['/'].intercalate p.words
  | [] => rfl
  | [s] => by simp [text, words, s.toList_text]
  | s :: s' :: rest => by
    have htext : text (s :: s' :: rest) = s.text ++ "/" ++ text (s' :: rest) :=
      String.intercalate_cons_cons
    have hrest : words (s' :: rest) ≠ [] := words_ne_nil (List.cons_ne_nil s' rest)
    calc (text (s :: s' :: rest)).toList
      _ = s.text.toList ++ '/' :: (text (s' :: rest)).toList := by
        rw [htext]
        simp
      _ = ['/'].intercalate s.words ++ '/' :: ['/'].intercalate (words (s' :: rest)) := by
        rw [s.toList_text, toList_text (s' :: rest)]
      _ = ['/'].intercalate (words (s :: s' :: rest)) := (s.intercalate_words_append hrest).symm

/-- A written path, split at its slashes. -/
theorem splitOn_text (hp : p ≠ []) : p.text.toList.splitOn '/' = p.words := by
  rw [toList_text]
  exact List.splitOn_intercalate '/' p.slash_notMem_words (words_ne_nil hp)

theorem text_ne_empty (hp : p ≠ []) : p.text ≠ text [] := by
  intro h
  have hempty : ([] : List Char).splitOn '/' = p.words := by
    rw [← splitOn_text hp, h]
    rfl
  obtain ⟨w, hw⟩ : ∃ w, w ∈ p.words := List.exists_mem_of_ne_nil _ (words_ne_nil hp)
  have hne := word_ne_nil p w hw
  rw [← hempty] at hw
  exact hne (List.mem_singleton.mp hw)

/-- Words that begin with those of a path are those of a path that begins with it. -/
theorem exists_of_words : {p q : Path} → {l : List (List Char)} → q.words = p.words ++ l →
    ∃ r : Path, q = p ++ r ∧ r.words = l
  | [], q, _, h => ⟨q, rfl, h⟩
  | s :: p, [], _, h => by
    have hnil := (List.append_eq_nil_iff.mp (h.symm.trans rfl)).1
    exact absurd hnil (words_ne_nil (List.cons_ne_nil s p))
  | s :: p, s' :: q, l, h => by
    have h' : s'.words ++ words q = s.words ++ (words p ++ l) := by
      rw [← List.append_assoc]
      exact h
    obtain ⟨rfl, hrest⟩ := Segment.words_append_inj h'
    obtain ⟨r, rfl, hr⟩ := exists_of_words hrest
    exact ⟨r, rfl, hr⟩

/-- A text that goes on behind a slash is that of something further down. -/
theorem exists_of_text {rest : String} (hp : p ≠ []) (h : q.text = p.text ++ "/" ++ rest) :
    ∃ r : Path, r ≠ [] ∧ q = p ++ r := by
  have hq : q ≠ [] := by
    rintro rfl
    have hlen := congrArg (List.length ∘ String.toList) h
    simp [text] at hlen
  have hsplit : q.words = p.words ++ rest.toList.splitOn '/' := by
    rw [← splitOn_text hp, ← splitOn_text hq, h]
    simp only [String.toList_append]
    rw [List.append_assoc]
    exact List.splitOn_append_cons_self _ _
  obtain ⟨r, hr, hwords⟩ := exists_of_words hsplit
  refine ⟨r, ?_, hr⟩
  rintro rfl
  exact List.splitOn_ne_nil _ _ hwords.symm

/-- A path is told by its text. -/
theorem text_injective : Function.Injective text := by
  intro p q h
  by_cases hp : p = [] <;> by_cases hq : q = []
  · rw [hp, hq]
  · exact absurd (hp ▸ h.symm) (text_ne_empty hq)
  · exact absurd (hq ▸ h) (text_ne_empty hp)
  · have hwords : q.words = p.words ++ [] := by
      rw [List.append_nil, ← splitOn_text hp, ← splitOn_text hq, h]
    obtain ⟨r, hr, hnil⟩ := exists_of_words hwords
    cases r with
    | nil => rw [hr, List.append_nil]
    | cons s r => exact absurd hnil (words_ne_nil (List.cons_ne_nil s r))

end Path

end Workflow
