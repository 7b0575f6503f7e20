import Workflow.Proofs.Template.Backtracking

/-!
# What a text stands for

All that is done with the placeholders of a text follows from one way to read it, which depends on
the text alone: a text is filled in part by part, it counts as one placeholder or as holding a
placeholder by its parts, and the value that it stands for has the text that it is filled in to.

## Main definitions

* `Workflow.Template.Reads` — the parts of a text, and what follows from them.

## Main results

* `Workflow.Template.reads_pieces` — every text is read as its parts.
-/

namespace Workflow.Template

variable {t : String} {env : Environment} {ps front behind : List Piece} {cs inner : List Char}
  {c : Char}

/-! ### The pattern at every part -/

/-- At every part of a text the pattern fits as the part says: at a placeholder it takes its inner
text first, and at a character that stands for itself it does not fit. -/
def Piece.Fits (p : Piece) (behind : List Char) : Prop :=
  match p with
  | .literal c => attempts (c :: behind) = []
  | .hole inner =>
    (attempts ((Piece.hole inner).span ++ behind)).head? = some ((holeName inner).toList, behind)

theorem fits_hole (hinner : inner ≠ []) (hclosed : '\x7d' ∉ inner) (behind : List Char) :
    (Piece.hole inner).Fits behind := by
  obtain ⟨name, hname⟩ := exists_isName hinner
  rw [Piece.Fits, hname.holeName_eq, String.toList_ofList]
  exact head?_attempts_span hclosed hname behind

theorem flatMap_span_scan (cs : List Char) : (scan cs).flatMap Piece.span = cs :=
  (decomposes_scan cs).flatMap_span

/-- The first part of a text fits, and the others are those of what is behind it. -/
theorem exists_of_scan_eq_cons {p : Piece} (h : scan cs = p :: ps) :
    ∃ rest, scan rest = ps ∧ p.Fits rest := by
  rcases front_cases cs with rfl | ⟨c, rest, hc, rfl⟩ | ⟨inner, rest, hinner, hclosed, rfl⟩
  · rw [scan_nil] at h
    exact nomatch h
  · rw [scan_cons hc] at h
    obtain ⟨rfl, rfl⟩ := List.cons.inj h
    exact ⟨rest, rfl, attempts_eq_nil_iff.mpr hc⟩
  · rw [scan_hole_append hinner hclosed] at h
    obtain ⟨rfl, rfl⟩ := List.cons.inj h
    exact ⟨rest, rfl, fits_hole hinner hclosed rest⟩

theorem fits_scan (cs : List Char) {p : Piece} (h : scan cs = front ++ p :: behind) :
    p.Fits (behind.flatMap Piece.span) := by
  induction front generalizing cs with
  | nil =>
    obtain ⟨rest, rfl, hfits⟩ := exists_of_scan_eq_cons h
    rwa [flatMap_span_scan]
  | cons q front ih =>
    obtain ⟨rest, hrest, -⟩ := exists_of_scan_eq_cons h
    exact ih rest hrest

/-! ### Placeholders and what is filled in -/

/-- The text that takes the place of a part when names are looked up: a name without a value leaves
nothing. -/
def Piece.filled (lookup : String → Option Value) : Piece → String
  | literal c => String.singleton c
  | hole inner => ((lookup (holeName inner)).map Value.toText).getD ""

theorem render_eq_join (t : String) (env : Environment) :
    render t env = String.join ((pieces t).map (Piece.filled env.lookup?)) := by
  refine congrArg String.join (List.map_congr_left fun p _ => ?_)
  cases p <;> rfl

theorem sole?_eq_some_iff {name : String} :
    sole? t = some name ↔ ∃ inner, pieces t = [.hole inner] ∧ holeName inner = name := by
  unfold sole?
  split
  · rename_i inner hpieces
    simp [hpieces]
  · rename_i hpieces
    constructor
    · exact fun h => nomatch h
    · rintro ⟨inner, heq, -⟩
      exact absurd heq (hpieces inner)

theorem hasHole_iff : hasHole t = true ↔ ∃ inner, .hole inner ∈ pieces t := by
  rw [hasHole, List.any_eq_true]
  constructor
  · rintro ⟨p, hp, hhole⟩
    cases p with
    | literal => exact nomatch hhole
    | hole inner => exact ⟨inner, hp⟩
  · rintro ⟨inner, hp⟩
    exact ⟨_, hp, rfl⟩

/-- A text without placeholders is filled in to itself. -/
theorem render_of_not_hasHole (h : hasHole t = false) (env : Environment) : render t env = t := by
  have hliteral : ∀ p ∈ pieces t, (p.render env).toList = p.span := by
    intro p hp
    cases p with
    | literal c => exact String.toList_singleton ..
    | hole inner => exact nomatch h.symm.trans (hasHole_iff.mpr ⟨inner, hp⟩)
  refine String.toList_injective ?_
  calc (render t env).toList
    _ = (pieces t).flatMap fun p => (p.render env).toList := by
      rw [render, String.toList_join, List.flatMap_map]
    _ = (pieces t).flatMap Piece.span := List.flatMap_congr hliteral
    _ = t.toList := flatMap_span_scan t.toList

theorem resolveText_of_not_hasHole (h : hasHole t = false) (env : Environment) :
    resolveText t env = .text t := by
  have hsole : sole? t = none := by
    rw [Option.eq_none_iff_forall_ne_some]
    intro name hname
    obtain ⟨inner, hpieces, -⟩ := sole?_eq_some_iff.mp hname
    exact nomatch h.symm.trans (hasHole_iff.mpr ⟨inner, hpieces ▸ List.mem_singleton_self _⟩)
  rw [resolveText, hsole]
  exact congrArg Value.text (render_of_not_hasHole h env)

/-- The value of a text has the text that it is filled in to. -/
theorem toText_resolveText (t : String) (env : Environment) :
    (resolveText t env).toText = render t env := by
  unfold resolveText
  split
  · rename_i name hsole
    obtain ⟨inner, hpieces, rfl⟩ := sole?_eq_some_iff.mp hsole
    rw [render, hpieces]
    cases h : env.lookup? (holeName inner) <;> simp [Piece.render, h, Value.toText]
  · rfl

/-! ### Reading -/

/-- The parts of a text are what the rule finds in it, and whatever is done with the text follows
from them. -/
structure Reads (t : String) (ps : List Piece) : Prop where
  /-- The rule reads the text as these parts, and in no other way. -/
  decomposes : ∀ qs, Decomposes t.toList qs ↔ qs = ps
  spans : ps.flatMap Piece.span = t.toList
  /-- From left to right, the pattern of a placeholder fits at every part as the part says. -/
  fits : ∀ front p behind, ps = front ++ p :: behind → p.Fits (behind.flatMap Piece.span)
  /-- A placeholder has the name that its inner text writes. -/
  named : ∀ inner, .hole inner ∈ ps →
    ∀ name, IsName inner name ↔ holeName inner = String.ofList name
  /-- The text is filled in part by part; a name that is not bound leaves nothing. -/
  rendered : ∀ env : Environment,
    render t env = String.join (ps.map (Piece.filled env.lookup?))
  /-- The text counts as a placeholder if it is one and nothing else. -/
  sole : ∀ name, sole? t = some name ↔ ∃ inner, ps = [.hole inner] ∧ holeName inner = name
  hasHole : hasHole t = true ↔ ∃ inner, .hole inner ∈ ps
  /-- A placeholder stands for its value, null if it has none; any other text with a placeholder is
  filled in, and a text without one stands for itself. -/
  resolved : ∀ env : Environment, resolve (.text t) env =
    match sole? t with
    | some name => (env.lookup? name).getD .null
    | none => if Template.hasHole t then .text (render t env) else .text t
  /-- The value that the text stands for has the text that it is filled in to. -/
  agree : ∀ env : Environment, render t env = (resolve (.text t) env).toText

/-- Every text is read as its parts, which depend on the text alone. -/
theorem reads_pieces (t : String) : Reads t (pieces t) where
  decomposes qs := scan_eq_iff.symm.trans eq_comm
  spans := flatMap_span_scan t.toList
  fits _ _ _ h := fits_scan t.toList h
  named _ hmem _ := isName_iff ((decomposes_scan t.toList).of_mem hmem).1
  rendered := render_eq_join t
  sole _ := sole?_eq_some_iff
  hasHole := hasHole_iff
  resolved env := by
    rw [resolve, resolveText]
    cases sole? t with
    | some name => rfl
    | none =>
      cases hhole : Template.hasHole t with
      | true => rfl
      | false => exact congrArg Value.text (render_of_not_hasHole hhole env)
  agree env := (toText_resolveText t env).symm

end Workflow.Template
