import Mathlib.Data.Prod.Lex
import Mathlib.Data.String.Basic
import Mathlib.Tactic.MkIffOfInductiveProp
import Workflow.File.Path

/-!
# Names below paths, and the order of paths

The path of a name below a path has one part more, and no two sequences of names lead to the same
parts. Paths are put in order by their parts as words are by their letters, so of two paths with
different parts one stands before the other.

## Main definitions

* `Workflow.FilePart.IsName` — the texts that entries of directories can be called.
* `Workflow.FilePath.below` — the path of names below a path, one below the other.

## Main results

* `Workflow.FilePath.parts_below` — the parts of the path of names.
* `Workflow.FilePath.before_irrefl`, `Workflow.FilePath.before_trans`,
  `Workflow.FilePath.before_or_before` — the order of paths.
* `Workflow.FilePath.extensionOf?_eq_some_iff` — what follows the last point of a name.
-/

namespace Workflow

/-! ### Pieces between the occurrences of a character -/

namespace Text

variable {s t : String} {c : Char}

private theorem modifyHead_nil_append (l : List (List Char)) :
    l.modifyHead ([].reverse ++ ·) = l := by
  cases l <;> rfl

theorem piecesFrom_singleton (c : Char) (piece cs : List Char) :
    piecesFrom [c] 0 piece cs = (cs.splitOn c).modifyHead (piece.reverse ++ ·) := by
  induction cs generalizing piece with
  | nil => simp [piecesFrom]
  | cons d cs ih =>
    rw [List.splitOn, List.splitOnP_cons_eq_if_modifyHead, ← List.splitOn, piecesFrom]
    by_cases h : d = c
    · have hnext : piecesFrom [c] 0 [] cs = cs.splitOn c := (ih []).trans (modifyHead_nil_append _)
      simp [h, hnext]
    · simp [ih, h, Ne.symm h, List.modifyHead_modifyHead, Function.comp_def]

theorem pieces_eq_splitOn (s : String) (c : Char) :
    pieces s (String.singleton c) = (s.toList.splitOn c).map String.ofList := by
  rw [pieces, if_neg (by simp [← String.toList_eq_nil_iff]), String.toList_singleton,
    piecesFrom_singleton, modifyHead_nil_append]

theorem pieces_append (s t : String) (c : Char) :
    pieces (s ++ String.singleton c ++ t) (String.singleton c) =
      pieces s (String.singleton c) ++ pieces t (String.singleton c) := by
  have hlist : (s ++ String.singleton c ++ t).toList = s.toList ++ c :: t.toList := by simp
  rw [pieces_eq_splitOn, pieces_eq_splitOn, pieces_eq_splitOn, hlist,
    List.splitOn_append_cons_self, List.map_append]

theorem pieces_of_notMem (h : c ∉ s.toList) : pieces s (String.singleton c) = [s] := by
  rw [pieces_eq_splitOn, List.splitOn_eq_singleton h, List.map_singleton, String.ofList_toList]

theorem pieces_ne_nil (s : String) (c : Char) : pieces s (String.singleton c) ≠ [] := by
  rw [pieces_eq_splitOn, Ne, List.map_eq_nil_iff]
  exact List.splitOn_ne_nil c s.toList

/-- A text whose only piece is empty is empty. -/
theorem eq_empty_of_pieces (h : pieces s (String.singleton c) = [""]) : s = "" := by
  rw [pieces_eq_splitOn, List.map_eq_singleton_iff] at h
  obtain ⟨cs, hsplit, hcs⟩ := h
  have hlist : [c].intercalate (s.toList.splitOn c) = s.toList := List.intercalate_splitOn c
  rw [hsplit, List.intercalate_singleton] at hlist
  rw [← hcs, hlist, String.ofList_toList]

end Text

/-! ### Parts -/

/-- A text that an entry of a directory can be called. -/
@[mk_iff]
structure FilePart.IsName (s : String) : Prop where
  ne_empty : s ≠ ""
  ne_here : s ≠ "."
  ne_above : s ≠ ".."
  slash_notMem : '/' ∉ s.toList

instance (s : String) : Decidable (FilePart.IsName s) :=
  decidable_of_iff _ (FilePart.isName_iff s).symm

theorem FilePart.IsName.ofPiece? {s : String} (h : IsName s) :
    FilePart.ofPiece? s = some (.name s) := by
  rw [FilePart.ofPiece?, if_neg (by simp [h.ne_empty, h.ne_here]), if_neg h.ne_above]

namespace FilePath

variable {p q r : FilePath} {name : String} {names : List String}

theorem pieces_eq (p : FilePath) : p.pieces = Text.pieces p.text (String.singleton '/') := rfl

/-- The parts that pieces stand for. -/
theorem parts_of_pieces {first : String} {rest : List String} (h : p.pieces = first :: rest) :
    p.parts = (if first = "" then (if rest = [] then [] else [.root])
      else if first = "." then [.here] else (FilePart.ofPiece? first).toList) ++
        rest.filterMap FilePart.ofPiece? := by
  rw [parts, h]

/-- The pieces of a path with a name below it: an empty piece at the end of the path is filled. -/
theorem exists_pieces_join (hp : p.text ≠ "") (hname : FilePart.IsName name) :
    ∃ first rest front, p.pieces = first :: rest ∧
      (p.join name).pieces = first :: (front ++ [name]) ∧
      rest.filterMap FilePart.ofPiece? = front.filterMap FilePart.ofPiece? ∧
      (first = "" → rest ≠ []) := by
  have hlone : Text.pieces name (String.singleton '/') = [name] :=
    Text.pieces_of_notMem hname.slash_notMem
  rw [join, if_neg hp]
  by_cases hslash : Text.endsWith p.text "/" = true
  · obtain ⟨cs, hcs⟩ := List.isSuffixOf_iff_suffix.mp hslash
    have htext : p.text = String.ofList cs ++ String.singleton '/' ++ "" :=
      String.toList_injective (by simpa using hcs.symm)
    obtain ⟨first, front, hfront⟩ :=
      List.exists_cons_of_ne_nil (Text.pieces_ne_nil (String.ofList cs) '/')
    have hempty : Text.pieces "" (String.singleton '/') = [""] := rfl
    refine ⟨first, front ++ [""], front, ?_, ?_, ?_, ?_⟩
    · rw [pieces_eq, htext, Text.pieces_append, hfront, hempty, List.cons_append]
    · rw [if_pos hslash, pieces_eq, htext, String.append_empty, Text.pieces_append, hfront, hlone,
        List.cons_append]
    · rw [List.filterMap_append]
      exact List.append_nil _
    · exact fun _ => List.concat_ne_nil _ _
  · obtain ⟨first, rest, hrest⟩ := List.exists_cons_of_ne_nil (Text.pieces_ne_nil p.text '/')
    refine ⟨first, rest, rest, hrest, ?_, rfl, ?_⟩
    · rw [if_neg hslash, pieces_eq]
      change Text.pieces (p.text ++ String.singleton '/' ++ name) _ = _
      rw [Text.pieces_append, hrest, hlone, List.cons_append]
    · rintro rfl rfl
      exact hp (Text.eq_empty_of_pieces hrest)

theorem parts_join (hp : p.text ≠ "") (hname : FilePart.IsName name) :
    (p.join name).parts = p.parts ++ [.name name] := by
  obtain ⟨first, rest, front, hpieces, hjoin, hfront, hfirst⟩ := exists_pieces_join hp hname
  rw [parts_of_pieces hpieces, parts_of_pieces hjoin, List.filterMap_append, hfront]
  have hlast : [name].filterMap FilePart.ofPiece? = [.name name] := by
    simp [hname.ofPiece?]
  rw [hlast, List.append_assoc]
  by_cases hempty : first = ""
  · simp [hempty, hfirst hempty]
  · simp [hempty]

theorem text_join_ne_empty (p : FilePath) (hname : FilePart.IsName name) :
    (p.join name).text ≠ "" := by
  rw [join]
  split
  · exact hname.ne_empty
  · split <;> simp [hname.ne_empty]

/-- The path of a name asks for no directory. -/
theorem demandsDirectory_join (hp : p.text ≠ "") (hname : FilePart.IsName name) :
    (p.join name).demandsDirectory = false := by
  obtain ⟨first, rest, front, -, hjoin, -, -⟩ := exists_pieces_join hp hname
  rw [demandsDirectory, hjoin, ← List.cons_append, List.getLast?_concat]
  simp [hname.ne_empty, hname.ne_here, hname.ne_above]

/-- The path of names below a path, one below the other. -/
def below (p : FilePath) (names : List String) : FilePath := names.foldl join p

@[simp]
theorem below_nil (p : FilePath) : p.below [] = p := rfl

@[simp]
theorem below_cons (p : FilePath) (name : String) (names : List String) :
    p.below (name :: names) = (p.join name).below names := rfl

theorem below_concat (p : FilePath) (names : List String) (name : String) :
    p.below (names ++ [name]) = (p.below names).join name := List.foldl_concat ..

theorem text_below_ne_empty (hp : p.text ≠ "") (hnames : ∀ name ∈ names, FilePart.IsName name) :
    (p.below names).text ≠ "" := by
  induction names generalizing p with
  | nil => exact hp
  | cons name names ih =>
    obtain ⟨hname, hrest⟩ := List.forall_mem_cons.mp hnames
    exact ih (text_join_ne_empty p hname) hrest

/-- The parts of the path of names are those of the path and the names. -/
theorem parts_below (hp : p.text ≠ "") (hnames : ∀ name ∈ names, FilePart.IsName name) :
    (p.below names).parts = p.parts ++ names.map .name := by
  induction names generalizing p with
  | nil => simp
  | cons name names ih =>
    obtain ⟨hname, hrest⟩ := List.forall_mem_cons.mp hnames
    rw [below_cons, ih (text_join_ne_empty p hname) hrest, parts_join hp hname, List.append_assoc,
      List.map_cons, List.singleton_append]

end FilePath

/-! ### The order of paths -/

namespace FilePart

/-- What tells a part in the order of parts: the number of its kind, and the characters of a
name. -/
def key : FilePart → ℕ ×ₗ String
  | root => toLex (0, "")
  | here => toLex (1, "")
  | above => toLex (2, "")
  | name s => toLex (3, s)

theorem key_injective : Function.Injective key := by
  intro p q h
  cases p <;> cases q <;> simp_all [key]

theorem before_iff {p q : FilePart} : p.before q = true ↔ p.key < q.key := by
  cases p <;> cases q <;> simp [before, key, rank, Prod.Lex.toLex_lt_toLex]

/-- Parts are put in order as the letters of words are. -/
theorem listBefore_iff {ps qs : List FilePart} :
    listBefore ps qs = true ↔ ps.map key < qs.map key := by
  induction ps generalizing qs with
  | nil => cases qs <;> simp [listBefore]
  | cons p ps ih =>
    cases qs with
    | nil => simp [listBefore]
    | cons q qs =>
      simp [listBefore, List.cons_lt_cons_iff, before_iff, ih, key_injective.eq_iff]

end FilePart

namespace FilePath

variable {p q r : FilePath} {name ext : String}

theorem before_iff : p.before q = true ↔ p.parts.map FilePart.key < q.parts.map FilePart.key :=
  FilePart.listBefore_iff

theorem before_irrefl (p : FilePath) : p.before p = false := by
  rw [← Bool.not_eq_true, before_iff]
  exact lt_irrefl _

theorem before_trans (hpq : p.before q = true) (hqr : q.before r = true) : p.before r = true :=
  before_iff.mpr ((before_iff.mp hpq).trans (before_iff.mp hqr))

theorem before_asymm (h : p.before q = true) : q.before p = false := by
  rw [← Bool.not_eq_true]
  intro hqp
  exact absurd (before_trans h hqp) (by simp [before_irrefl])

/-- Of two paths with different parts one stands before the other. -/
theorem before_or_before (h : p.parts ≠ q.parts) : p.before q = true ∨ q.before p = true := by
  rw [before_iff, before_iff]
  exact lt_or_gt_of_ne fun hkeys => h (FilePart.key_injective.list_map hkeys)

/-- Paths of which none stands before the one in front of it do not stand before each other. -/
theorem not_before_trans (hpq : q.before p = false) (hqr : r.before q = false) :
    r.before p = false := by
  rw [← Bool.not_eq_true, before_iff, not_lt] at *
  exact hpq.trans hqr

/-! ### What follows the last point -/

theorem extensionOf?_of_notMem (h : '.' ∉ name.toList) : extensionOf? name = none := by
  have hpieces : Text.pieces name "." = [name] := Text.pieces_of_notMem h
  rw [extensionOf?, hpieces]
  rfl

theorem extensionOf?_append (stem : String) (h : '.' ∉ ext.toList) :
    extensionOf? (stem ++ "." ++ ext) = if stem = "" then none else some ext := by
  have hlone : Text.pieces ext "." = [ext] := Text.pieces_of_notMem h
  have hpieces : Text.pieces (stem ++ "." ++ ext) "." = Text.pieces stem "." ++ [ext] :=
    hlone ▸ Text.pieces_append stem ext '.'
  have hstem : Text.pieces stem "." = [""] ↔ stem = "" := by
    refine ⟨@Text.eq_empty_of_pieces stem '.', ?_⟩
    rintro rfl
    rfl
  have hne : Text.pieces stem "." ≠ [] := Text.pieces_ne_nil stem '.'
  rw [extensionOf?, hpieces, List.reverse_append]
  simp [hne, hstem, List.reverse_eq_iff]

/-- A name has what follows its last point if something stands in front of the point. -/
theorem extensionOf?_eq_some_iff :
    extensionOf? name = some ext ↔
      '.' ∉ ext.toList ∧ ∃ stem, stem ≠ "" ∧ name = stem ++ "." ++ ext := by
  constructor
  · intro h
    by_cases hpoint : '.' ∈ name.toList
    · obtain ⟨back, front, hlist, hback⟩ :=
        List.eq_append_cons_of_mem (List.mem_reverse.mpr hpoint)
      have hname : name = String.ofList front.reverse ++ "." ++ String.ofList back.reverse := by
        refine String.toList_injective ?_
        rw [← List.reverse_reverse name.toList, hlist]
        simp
      have hend : '.' ∉ (String.ofList back.reverse).toList := by simpa using hback
      rw [hname, extensionOf?_append _ hend] at h
      split at h
      · exact nomatch h
      · rename_i hstem
        obtain rfl := Option.some.inj h
        exact ⟨hend, _, hstem, hname⟩
    · rw [extensionOf?_of_notMem hpoint] at h
      exact nomatch h
  · rintro ⟨hext, stem, hstem, rfl⟩
    rw [extensionOf?_append stem hext, if_neg hstem]

end FilePath

end Workflow
