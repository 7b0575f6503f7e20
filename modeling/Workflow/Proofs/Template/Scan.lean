import Mathlib.Data.List.DropRight
import Mathlib.Data.List.TakeWhile
import Workflow.Template

/-!
# Where the placeholders of a text stand

The scan of a text finds the placeholders that the text has by a rule on its characters alone: going
from left to right, the next one starts at the first opening mark that is not closed at once and is
closed somewhere behind, and it ends at the first closing brace behind. There is just one way to
read a text by this rule.

## Main definitions

* `Workflow.Template.Starts` — a placeholder starts at the front of some characters.
* `Workflow.Template.Decomposes` — the characters of a text are read as some parts.
* `Workflow.Template.IsName` — the name that the inner text of a placeholder writes.

## Main results

* `Workflow.Template.scan_eq_iff` — the scan reads a text as the rule says, and in no other way.
* `Workflow.Template.isName_iff` — the name of a placeholder.
-/

namespace Workflow

/-- Trimming takes blanks away down to the first and the last character that is not blank. -/
theorem Text.trimList_append_append {front name back : List Char}
    (hfront : ∀ c ∈ front, isBlank c = true) (hback : ∀ c ∈ back, isBlank c = true)
    (hname : name ≠ []) (hhead : isBlank (name.head hname) = false)
    (hlast : isBlank (name.getLast hname) = false) : trimList (front ++ name ++ back) = name := by
  have htrimFront : trimFront (front ++ name ++ back) = name ++ back := by
    obtain ⟨c, rest, rfl⟩ := List.exists_cons_of_ne_nil hname
    rw [trimFront, List.append_assoc, List.dropWhile_append_of_pos hfront]
    exact List.dropWhile_cons_of_neg (by simpa using hhead)
  have htrimBack : trimBack (name ++ back) = name :=
    calc trimBack (name ++ back)
      _ = ((back.reverse ++ name.reverse).dropWhile isBlank).reverse := by
        rw [trimBack, List.reverse_append]
      _ = name.rdropWhile isBlank := by
        rw [List.dropWhile_append_of_pos (by simpa using hback), List.rdropWhile]
      _ = name := (List.rdropWhile_eq_self_iff ..).mpr fun _ => by simpa using hlast
  rw [trimList, htrimFront, htrimBack]

end Workflow

namespace Workflow.Template

/-! ### The rule -/

/-- A placeholder starts at the front: an opening mark with a closing brace behind it, but not
directly behind it. -/
def Starts (cs : List Char) : Prop :=
  ∃ rest, cs = '$' :: '\x7b' :: rest ∧ rest.head? ≠ some '\x7d' ∧ '\x7d' ∈ rest

/-- No placeholder starts within the first characters, the others being behind them. -/
def NoneStarts (lead behind : List Char) : Prop :=
  ∀ front back, lead = front ++ back → back ≠ [] → ¬ Starts (back ++ behind)

/-- The characters are read as these parts. -/
inductive Decomposes : List Char → List Piece → Prop
  /-- No placeholder starts anywhere. -/
  | plain {cs : List Char} (hnone : NoneStarts cs []) : Decomposes cs (cs.map .literal)
  /-- The first place at which a placeholder starts, and the first closing brace behind it. -/
  | hole {lead inner behind : List Char} {ps : List Piece}
      (hfirst : NoneStarts lead ((Piece.hole inner).span ++ behind)) (hinner : inner ≠ [])
      (hclosed : '\x7d' ∉ inner) (hbehind : Decomposes behind ps) :
      Decomposes (lead ++ ((Piece.hole inner).span ++ behind))
        (lead.map .literal ++ .hole inner :: ps)

variable {cs lead inner behind : List Char} {ps : List Piece} {c : Char}

theorem span_hole_append (inner behind : List Char) :
    (Piece.hole inner).span ++ behind = '$' :: '\x7b' :: (inner ++ '\x7d' :: behind) := by
  simp [Piece.span]

/-- What starts with a placeholder is its span with characters behind. -/
theorem starts_iff :
    Starts cs ↔ ∃ inner behind, inner ≠ [] ∧ '\x7d' ∉ inner ∧
      cs = (Piece.hole inner).span ++ behind := by
  constructor
  · rintro ⟨rest, rfl, hhead, hmem⟩
    obtain ⟨inner, behind, rfl, hclosed⟩ := List.eq_append_cons_of_mem hmem
    refine ⟨inner, behind, ?_, hclosed, (span_hole_append inner behind).symm⟩
    rintro rfl
    exact hhead rfl
  · rintro ⟨inner, behind, hinner, hclosed, rfl⟩
    refine ⟨inner ++ '\x7d' :: behind, span_hole_append inner behind, ?_, by simp⟩
    obtain ⟨c, rest, rfl⟩ := List.exists_cons_of_ne_nil hinner
    intro hhead
    exact hclosed (Option.some.inj hhead ▸ List.mem_cons_self ..)

theorem noneStarts_nil (behind : List Char) : NoneStarts [] behind := by
  intro front back hsplit hback
  exact absurd (List.append_eq_nil_iff.mp hsplit.symm).2 hback

theorem noneStarts_cons_iff :
    NoneStarts (c :: lead) behind ↔ ¬ Starts (c :: (lead ++ behind)) ∧ NoneStarts lead behind := by
  constructor
  · intro h
    refine ⟨h [] (c :: lead) rfl (List.cons_ne_nil c lead), fun front back hsplit hback => ?_⟩
    exact h (c :: front) back (congrArg (c :: ·) hsplit) hback
  · rintro ⟨hc, hlead⟩ front back hsplit hback
    cases front with
    | nil =>
      rw [List.nil_append] at hsplit
      rwa [← hsplit]
    | cons d front => exact hlead front back (List.cons.inj hsplit).2 hback

/-- A character at which no placeholder starts is read as itself. -/
theorem Decomposes.cons (hc : ¬ Starts (c :: cs)) (h : Decomposes cs ps) :
    Decomposes (c :: cs) (.literal c :: ps) := by
  cases h with
  | plain hnone =>
    have hcons : NoneStarts (c :: cs) [] := by
      refine noneStarts_cons_iff.mpr ⟨?_, hnone⟩
      rwa [List.append_nil]
    exact .plain hcons
  | @hole lead inner behind ps hfirst hinner hclosed hbehind =>
    have hcons : NoneStarts (c :: lead) ((Piece.hole inner).span ++ behind) :=
      noneStarts_cons_iff.mpr ⟨hc, hfirst⟩
    exact .hole hcons hinner hclosed hbehind

/-! ### The scan -/

theorem isInner_iff {c : Char} : isInner c = true ↔ c ≠ '\x7d' := by simp [isInner]

/-- A placeholder at the front is found. -/
theorem scan_hole_append (hinner : inner ≠ []) (hclosed : '\x7d' ∉ inner) (behind : List Char) :
    scan ((Piece.hole inner).span ++ behind) = .hole inner :: scan behind := by
  have hall : ∀ c ∈ inner, isInner c = true := fun c hc =>
    isInner_iff.mpr (ne_of_mem_of_not_mem hc hclosed)
  have htake : (inner ++ '\x7d' :: behind).takeWhile isInner = inner := by
    rw [List.takeWhile_append_of_pos hall]
    exact List.append_nil inner
  have hdrop : (inner ++ '\x7d' :: behind).dropWhile isInner = '\x7d' :: behind := by
    rw [List.dropWhile_append_of_pos hall]
    rfl
  rw [span_hole_append, scan]
  split
  · rename_i _ behind' hbehind
    rw [hdrop] at hbehind
    rw [htake, if_neg hinner, (List.cons.inj hbehind).2]
  · rename_i hbehind
    rw [hdrop] at hbehind
    cases hbehind

/-- A character at which no placeholder starts is taken as it is. -/
theorem scan_cons (hc : ¬ Starts (c :: cs)) : scan (c :: cs) = .literal c :: scan cs := by
  by_cases hmark : ∃ rest, c :: cs = '$' :: '\x7b' :: rest
  · obtain ⟨rest, hrest⟩ := hmark
    obtain ⟨rfl, rfl⟩ := List.cons.inj hrest
    rw [scan]
    split
    · rename_i d behind hbehind
      split
      · rfl
      · rename_i hinner
        -- The inner text is not empty and a closing brace is behind it: a placeholder starts.
        have hd : d = '\x7d' := by
          have hstop := List.head_dropWhile_not isInner (l := rest) (by simp [hbehind])
          simpa [hbehind, isInner] using hstop
        refine absurd (starts_iff.mpr ⟨_, behind, hinner, ?_, ?_⟩) hc
        · exact fun hmem => absurd rfl (isInner_iff.mp (List.mem_takeWhile_imp hmem))
        · rw [span_hole_append, ← hd, ← hbehind, List.takeWhile_append_dropWhile]
    · rfl
  · rw [scan]
    rintro rest rfl rfl
    exact hmark ⟨rest, rfl⟩

theorem scan_append (h : NoneStarts lead behind) :
    scan (lead ++ behind) = lead.map .literal ++ scan behind := by
  induction lead with
  | nil => rfl
  | cons c lead ih =>
    obtain ⟨hc, hlead⟩ := noneStarts_cons_iff.mp h
    rw [List.cons_append, scan_cons hc, ih hlead]
    rfl

theorem scan_nil : scan [] = [] := by rw [scan]

/-- What is to be scanned is nothing, or begins with a character that stands for itself or with a
placeholder. -/
theorem front_cases (cs : List Char) :
    cs = [] ∨ (∃ c rest, ¬ Starts (c :: rest) ∧ cs = c :: rest) ∨
      ∃ inner behind, inner ≠ [] ∧ '\x7d' ∉ inner ∧ cs = (Piece.hole inner).span ++ behind := by
  by_cases hstarts : Starts cs
  · exact .inr (.inr (starts_iff.mp hstarts))
  · cases cs with
    | nil => exact .inl rfl
    | cons c rest => exact .inr (.inl ⟨c, rest, hstarts, rfl⟩)

/-- The scan reads the characters as the rule says. -/
theorem decomposes_scan (cs : List Char) : Decomposes cs (scan cs) := by
  rcases front_cases cs with hcs | ⟨c, rest, hc, hcs⟩ | ⟨inner, behind, hinner, hclosed, hcs⟩
  · rw [hcs, scan_nil]
    exact .plain (noneStarts_nil [])
  · have hlength : rest.length < cs.length := by simp [hcs]
    rw [hcs, scan_cons hc]
    exact (decomposes_scan rest).cons hc
  · have hlength : behind.length < cs.length := by
      simp only [hcs, span_hole_append, List.length_cons, List.length_append]
      omega
    rw [hcs, scan_hole_append hinner hclosed]
    exact .hole (noneStarts_nil _) hinner hclosed (decomposes_scan behind)
termination_by cs.length

/-- The scan reads a text as the rule says, and in no other way. -/
theorem scan_eq_iff : scan cs = ps ↔ Decomposes cs ps := by
  refine ⟨fun h => h ▸ decomposes_scan cs, fun h => ?_⟩
  induction h with
  | @plain cs hnone =>
    have hscan := scan_append hnone
    rwa [List.append_nil, scan_nil, List.append_nil] at hscan
  | hole hfirst hinner hclosed _ ih =>
    rw [scan_append hfirst, scan_hole_append hinner hclosed, ih]

/-- The parts take up the whole text. -/
theorem Decomposes.flatMap_span (h : Decomposes cs ps) : ps.flatMap Piece.span = cs := by
  have hliterals (lead : List Char) : (lead.map Piece.literal).flatMap Piece.span = lead := by
    rw [List.flatMap_map]
    exact List.flatMap_singleton' lead
  induction h with
  | plain => exact hliterals _
  | hole _ _ _ _ ih => rw [List.flatMap_append, List.flatMap_cons, hliterals, ih]

/-- The inner text of a placeholder is not empty and holds no closing brace. -/
theorem Decomposes.of_mem (h : Decomposes cs ps) (hmem : .hole inner ∈ ps) :
    inner ≠ [] ∧ '\x7d' ∉ inner := by
  induction h with
  | plain => simp at hmem
  | hole _ hinner hclosed _ ih =>
    simp only [List.mem_append, List.mem_map, reduceCtorEq, and_false, exists_false,
      List.mem_cons, Piece.hole.injEq, false_or] at hmem
    rcases hmem with rfl | hmem
    · exact ⟨hinner, hclosed⟩
    · exact ih hmem

/-! ### Names -/

/-- The name that an inner text writes: what is between the white space at its ends, or its last
character when all of it is white space. -/
inductive IsName : List Char → List Char → Prop
  | trimmed {front name back : List Char} (hfront : ∀ c ∈ front, Text.isBlank c = true)
      (hback : ∀ c ∈ back, Text.isBlank c = true) (hname : name ≠ [])
      (hhead : Text.isBlank (name.head hname) = false)
      (hlast : Text.isBlank (name.getLast hname) = false) : IsName (front ++ name ++ back) name
  | blank {front : List Char} {c : Char} (hfront : ∀ d ∈ front, Text.isBlank d = true)
      (hc : Text.isBlank c = true) : IsName (front ++ [c]) [c]

variable {name : List Char}

/-- Every inner text writes a name. -/
theorem exists_isName (hinner : inner ≠ []) : ∃ name, IsName inner name := by
  by_cases hall : ∀ c ∈ inner, Text.isBlank c = true
  · rw [← List.dropLast_append_getLast hinner]
    refine ⟨_, .blank (fun c hc => hall c (List.dropLast_subset _ hc)) ?_⟩
    exact hall _ (List.getLast_mem hinner)
  · obtain ⟨rest, hrest⟩ : ∃ rest, inner.dropWhile Text.isBlank = rest := ⟨_, rfl⟩
    have hne : inner.dropWhile Text.isBlank ≠ [] := by rwa [Ne, List.dropWhile_eq_nil_iff]
    have hstop := List.head_dropWhile_not Text.isBlank hne
    simp only [hrest] at hne hstop
    have hname : rest.rdropWhile Text.isBlank ≠ [] := by
      rw [Ne, List.rdropWhile_eq_nil_iff]
      intro hblank
      rw [hblank _ (List.head_mem hne)] at hstop
      exact nomatch hstop
    have hhead : Text.isBlank ((rest.rdropWhile Text.isBlank).head hname) = false := by
      rwa [(List.rdropWhile_prefix Text.isBlank rest).head hname]
    have hlast : Text.isBlank ((rest.rdropWhile Text.isBlank).getLast hname) = false := by
      simpa using List.rdropWhile_last_not Text.isBlank rest hname
    have hsplit : inner.takeWhile Text.isBlank ++ rest.rdropWhile Text.isBlank ++
        rest.rtakeWhile Text.isBlank = inner := by
      rw [List.append_assoc, List.rdropWhile_append_rtakeWhile, ← hrest,
        List.takeWhile_append_dropWhile]
    refine ⟨rest.rdropWhile Text.isBlank, hsplit ▸ ?_⟩
    exact .trimmed (fun _ => List.mem_takeWhile_imp) (fun _ => List.mem_rtakeWhile_imp) hname
      hhead hlast

/-- The name of a placeholder is the one that its inner text writes. -/
theorem IsName.holeName_eq (h : IsName inner name) : holeName inner = String.ofList name := by
  cases h with
  | @trimmed front name back hfront hback hname hhead hlast =>
    unfold holeName
    rw [Text.trimList_append_append hfront hback hname hhead hlast]
    split
    · exact absurd rfl hname
    · rfl
  | @blank front c hfront hc =>
    have hall : ∀ d ∈ front ++ [c], Text.isBlank d = true := by
      intro d hd
      rcases List.mem_append.mp hd with hd | hd
      · exact hfront d hd
      · rwa [List.mem_singleton.mp hd]
    have htrim : Text.trimList (front ++ [c]) = [] := by
      rw [Text.trimList, Text.trimFront, List.dropWhile_eq_nil_iff.mpr hall]
      rfl
    unfold holeName
    rw [htrim]
    simp

/-- An inner text writes the name of its placeholder and no other. -/
theorem isName_iff (hinner : inner ≠ []) :
    IsName inner name ↔ holeName inner = String.ofList name := by
  refine ⟨IsName.holeName_eq, fun h => ?_⟩
  obtain ⟨name', hname'⟩ := exists_isName hinner
  rwa [String.ofList_injective (h.symm.trans hname'.holeName_eq)]

end Workflow.Template
