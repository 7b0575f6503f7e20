import Mathlib.Data.List.Nodup
import Workflow.File.Tree
import Workflow.Proofs.Document.Keys
import Workflow.Proofs.File.Path

/-!
# What stands in a tree of files

The files of a tree are told by the names that lead to them, and no names lead to two files. What
stands at the path of names below a directory is what the names lead to from there. In which order
the directories are enumerated makes no difference to any of this.

## Main definitions

* `Workflow.FileTree.IsProper` — every directory calls its entries by names, no two by one name.
* `Workflow.FileTree.files` — the files of a tree with the names that lead to them.
* `Workflow.FileTree.Reenumerated` — a tree whose directories are enumerated in other orders.

## Main results

* `Workflow.FileTree.mem_files_iff` — the files are those that names lead to.
* `Workflow.FileTree.nodup_files` — no names lead to two files.
* `Workflow.FileTree.lookup_below` — what stands at the path of names is what the names lead to.
* `Workflow.FileTree.Reenumerated.lookup` — what stands at a path in another enumeration.
-/

namespace Workflow

namespace FileTree

variable {t u x y : FileTree} {base path : FilePath} {names rest : List String} {name : String}
  {content : String}

/-! ### Proper trees -/

/-- Every directory calls its entries by names, and no two of them by one name. -/
inductive IsProper : FileTree → Prop
  | file (content : String) : IsProper (file content)
  | directory {entries : List (String × FileTree)}
      (hnames : ∀ name ∈ Bindings.keys entries, FilePart.IsName name)
      (hkeys : (Bindings.keys entries).Nodup) (hentries : ∀ e ∈ entries, IsProper e.2) :
      IsProper (directory entries)

theorem isProper_empty : empty.IsProper :=
  .directory (by simp [Bindings.keys]) List.nodup_nil (by simp)

@[simp]
theorem descend_nil (t : FileTree) : t.descend [] = .ok t := by rw [descend]

@[simp]
theorem descend_file (content name : String) (rest : List String) :
    (file content).descend (name :: rest) = .error .notDirectory := by
  rw [descend, child]

theorem descend_directory {entries : List (String × FileTree)}
    (h : Bindings.get? entries name = some t) :
    (directory entries).descend (name :: rest) = t.descend rest := by
  rw [descend, child, h]

theorem descend_singleton (t : FileTree) (name : String) : t.descend [name] = t.child name := by
  rw [descend]
  cases t.child name <;> rfl

/-- Names that lead somewhere from a directory begin with the name of an entry. -/
theorem descend_cons_eq_ok (h : t.descend (name :: rest) = .ok x) :
    ∃ entries s, t = directory entries ∧ Bindings.get? entries name = some s ∧
      s.descend rest = .ok x := by
  cases t with
  | file content => exact nomatch (descend_file content name rest).symm.trans h
  | directory entries =>
    cases hs : Bindings.get? entries name with
    | none => rw [descend, child, hs] at h; exact nomatch h
    | some s => exact ⟨entries, s, rfl, hs, (descend_directory hs).symm.trans h⟩

theorem descend_append (names rest : List String) (h : t.descend names = .ok x) :
    t.descend (names ++ rest) = x.descend rest := by
  induction names generalizing t with
  | nil => rw [List.nil_append, Except.ok.inj ((descend_nil t).symm.trans h)]
  | cons name names ih =>
    obtain ⟨entries, s, rfl, hs, hx⟩ := descend_cons_eq_ok h
    rw [List.cons_append, descend_directory hs, ih hx]

theorem IsProper.descend (ht : t.IsProper) (h : t.descend names = .ok x) : x.IsProper := by
  induction names generalizing t with
  | nil => rwa [← Except.ok.inj ((descend_nil t).symm.trans h)]
  | cons name names ih =>
    obtain ⟨entries, s, rfl, hs, hx⟩ := descend_cons_eq_ok h
    cases ht with
    | directory hnames hkeys hentries => exact ih (hentries _ (Bindings.mem_of_get? hs)) hx

/-- What leads somewhere in a proper tree are names. -/
theorem IsProper.isName (ht : t.IsProper) (h : t.descend names = .ok x) :
    ∀ name ∈ names, FilePart.IsName name := by
  induction names generalizing t with
  | nil => exact fun _ hmem => nomatch hmem
  | cons name names ih =>
    obtain ⟨entries, s, rfl, hs, hx⟩ := descend_cons_eq_ok h
    cases ht with
    | directory hnames hkeys hentries =>
      have hmem := Bindings.mem_of_get? hs
      exact List.forall_mem_cons.mpr
        ⟨hnames name (List.mem_map_of_mem hmem), ih (hentries _ hmem) hx⟩

theorem IsProper.standing {place : FilePlace} (ht : t.IsProper) (h : t.standing place = .ok x) :
    x.IsProper := by
  cases place with
  | none => exact Except.ok.inj h ▸ isProper_empty
  | some names => exact ht.descend h

/-! ### Files of a tree -/

mutual

/-- The files of a tree: the names that lead to each of them, with its text. -/
def files : FileTree → List (List String × String)
  | .file content => [([], content)]
  | .directory entries => filesAmong entries

/-- The files of the entries of a directory. -/
def filesAmong : List (String × FileTree) → List (List String × String)
  | [] => []
  | (name, t) :: rest => t.files.map (Prod.map (name :: ·) id) ++ filesAmong rest

end

theorem filesAmong_eq (entries : List (String × FileTree)) :
    filesAmong entries = entries.flatMap fun e => e.2.files.map (Prod.map (e.1 :: ·) id) := by
  induction entries with
  | nil => rw [filesAmong, List.flatMap_nil]
  | cons e rest ih => rw [filesAmong, ih, List.flatMap_cons]

/-- The files of a tree are those that names lead to. -/
theorem mem_files_iff (ht : t.IsProper) :
    (names, content) ∈ t.files ↔ t.descend names = .ok (.file content) := by
  induction ht generalizing names with
  | file content' =>
    rw [files]
    cases names <;> simp [eq_comm]
  | @directory entries hnames hkeys hentries ih =>
    rw [files, filesAmong_eq, List.mem_flatMap]
    constructor
    · rintro ⟨⟨name, s⟩, hmem, hfile⟩
      obtain ⟨⟨rest, content⟩, hrest, heq⟩ := List.mem_map.mp hfile
      cases heq
      rw [descend_directory (Bindings.get?_of_mem hkeys hmem)]
      exact (ih _ hmem).mp hrest
    · intro h
      cases names with
      | nil => exact nomatch (descend_nil _).symm.trans h
      | cons name rest =>
        obtain ⟨_, s, heq, hs, hrest⟩ := descend_cons_eq_ok h
        cases heq
        have hmem := Bindings.mem_of_get? hs
        exact ⟨(name, s), hmem, List.mem_map.mpr ⟨(rest, content), (ih _ hmem).mpr hrest, rfl⟩⟩

/-- No names lead to two files. -/
theorem nodup_files (ht : t.IsProper) : (t.files.map Prod.fst).Nodup := by
  induction ht with
  | file content =>
    rw [files]
    exact List.nodup_singleton _
  | @directory entries hnames hkeys hentries ih =>
    rw [files, filesAmong_eq, List.map_flatMap, List.nodup_flatMap]
    constructor
    · intro e he
      have hcons : (e.2.files.map (Prod.map (e.1 :: ·) id)).map Prod.fst =
          (e.2.files.map Prod.fst).map (e.1 :: ·) := by
        simp
      rw [hcons]
      exact (ih e he).map List.cons_injective
    · refine (List.pairwise_map.mp hkeys).imp fun {e e'} hne => ?_
      intro names hmem hmem'
      simp only [List.map_map, List.mem_map] at hmem hmem'
      obtain ⟨f, -, rfl⟩ := hmem
      obtain ⟨f', -, heq⟩ := hmem'
      exact hne (List.cons.inj heq).1.symm

/-! ### Paths below a path -/

theorem enter_name_eq_ok_iff {place place' : FilePlace} :
    t.enter place (.name name) = .ok place' ↔
      ∃ x y, t.standing place = .ok x ∧ x.child name = .ok y ∧
        place.map (· ++ [name]) = place' := by
  cases hx : t.standing place with
  | error e => simp [enter, hx, bind, Except.bind]
  | ok x => cases hy : x.child name <;> simp [enter, hx, hy, bind, Except.bind]

theorem foldlM_enter_names {place : FilePlace} (hx : t.standing place = .ok x)
    (hy : x.descend names = .ok y) :
    ∃ place', (names.map FilePart.name).foldlM t.enter place = .ok place' ∧
      t.standing place' = .ok y := by
  induction names generalizing place x with
  | nil => exact ⟨place, rfl, hx.trans ((descend_nil x).symm.trans hy)⟩
  | cons name names ih =>
    obtain ⟨entries, s, rfl, hs, hrest⟩ := descend_cons_eq_ok hy
    have hchild : (directory entries).child name = .ok s := by rw [child, hs]
    cases place with
    | none =>
      -- What lies outside has no entries.
      cases hx
      exact nomatch hs
    | some above =>
      have henter : t.enter (some above) (.name name) = .ok (some (above ++ [name])) :=
        enter_name_eq_ok_iff.mpr ⟨_, s, hx, hchild, rfl⟩
      have hstands : t.standing (some (above ++ [name])) = .ok s :=
        (descend_append above [name] hx).trans (by rw [descend_directory hs, descend_nil])
      obtain ⟨place', hfold, hplace⟩ := ih hstands hrest
      refine ⟨place', ?_, hplace⟩
      rw [List.map_cons, List.foldlM_cons, henter]
      exact hfold

theorem lookup_eq_ok_iff :
    t.lookup path = .ok x ↔ path.text ≠ "" ∧ (path.demandsDirectory → x.isDirectory) ∧
      ∃ place, t.walk path.parts = .ok place ∧ t.standing place = .ok x := by
  by_cases htext : path.text = ""
  · simp [lookup, htext]
  · cases hwalk : t.walk path.parts with
    | error e => simp [lookup, htext, hwalk, bind, Except.bind]
    | ok place =>
      cases hstands : t.standing place with
      | error e => simp [lookup, htext, hwalk, hstands, bind, Except.bind]
      | ok y =>
        cases hdemands : path.demandsDirectory <;> cases hdir : y.isDirectory <;>
          simp [lookup, htext, hwalk, hstands, hdemands, bind, Except.bind, hdir] <;> grind

/-- What stands at the path of names below a path is what the names lead to from there. -/
theorem lookup_below (hnames : ∀ name ∈ names, FilePart.IsName name) (hx : t.lookup base = .ok x)
    (hy : x.descend names = .ok y) : t.lookup (base.below names) = .ok y := by
  obtain ⟨htext, hdemands, place, hplace, hstands⟩ := lookup_eq_ok_iff.mp hx
  obtain ⟨place', hfold, hstands'⟩ := foldlM_enter_names hstands hy
  refine lookup_eq_ok_iff.mpr ⟨FilePath.text_below_ne_empty htext hnames, ?_, place', ?_, hstands'⟩
  · rcases names.eq_nil_or_concat with rfl | ⟨above, name, rfl⟩
    · exact Except.ok.inj ((descend_nil x).symm.trans hy) ▸ hdemands
    · rw [List.concat_eq_append] at hnames ⊢
      obtain ⟨habove, hname⟩ := List.forall_mem_append.mp hnames
      rw [FilePath.below_concat, FilePath.demandsDirectory_join
        (FilePath.text_below_ne_empty htext habove) (hname name (List.mem_singleton_self name))]
      exact nofun
  · rw [walk] at hplace ⊢
    rw [FilePath.parts_below htext hnames, List.foldlM_append, hplace]
    exact hfold

/-- What stands in a proper tree is proper. -/
theorem IsProper.lookup (ht : t.IsProper) (h : t.lookup path = .ok x) : x.IsProper := by
  obtain ⟨-, -, place, -, hstands⟩ := lookup_eq_ok_iff.mp h
  exact ht.standing hstands

/-! ### Other orders of enumeration -/

/-- The same files in the same directories, whose entries are enumerated in another order. -/
inductive Reenumerated : FileTree → FileTree → Prop
  | file (content : String) : Reenumerated (file content) (file content)
  | directory {entries entries' : List (String × FileTree)}
      (hkeys : (Bindings.keys entries).Perm (Bindings.keys entries'))
      (hentries : ∀ name t u, (name, t) ∈ entries → (name, u) ∈ entries' → Reenumerated t u) :
      Reenumerated (directory entries) (directory entries')

theorem Reenumerated.symm (h : t.Reenumerated u) : u.Reenumerated t := by
  induction h with
  | file content => exact .file content
  | directory hkeys hentries ih =>
    exact .directory hkeys.symm fun name t u hu ht => ih name u t ht hu

theorem Reenumerated.isProper (h : t.Reenumerated u) (ht : t.IsProper) : u.IsProper := by
  induction h with
  | file content => exact .file content
  | @directory entries entries' hkeys hentries ih =>
    cases ht with
    | directory hnames hnodup hproper =>
      refine .directory (fun name hname => hnames name (hkeys.mem_iff.mpr hname))
        (hkeys.nodup_iff.mp hnodup) ?_
      rintro ⟨name, u⟩ hu
      obtain ⟨⟨_, t⟩, ht, rfl⟩ := List.mem_map.mp (hkeys.mem_iff.mpr (List.mem_map_of_mem hu))
      exact ih _ t u ht hu (hproper _ ht)

theorem Reenumerated.isDirectory_eq (h : t.Reenumerated u) : u.isDirectory = t.isDirectory := by
  cases h <;> rfl

/-- Names lead to the same files and directories. -/
theorem Reenumerated.descend (h : t.Reenumerated u) (ht : t.IsProper)
    (hx : t.descend names = .ok x) : ∃ y, u.descend names = .ok y ∧ x.Reenumerated y := by
  induction names generalizing t u with
  | nil =>
    obtain rfl := Except.ok.inj ((descend_nil t).symm.trans hx)
    exact ⟨u, descend_nil u, h⟩
  | cons name names ih =>
    obtain ⟨entries, s, rfl, hs, hrest⟩ := descend_cons_eq_ok hx
    have hu := h.isProper ht
    cases h with
    | @directory _ entries' hkeys hentries =>
      cases ht with
      | directory hnames hnodup hproper =>
        cases hu with
        | directory _ hnodup' _ =>
          have hmem := Bindings.mem_of_get? hs
          obtain ⟨⟨_, s'⟩, hmem', rfl⟩ :=
            List.mem_map.mp (hkeys.mem_iff.mp (List.mem_map_of_mem hmem))
          rw [descend_directory (Bindings.get?_of_mem hnodup' hmem')]
          exact ih (hentries _ s s' hmem hmem') (hproper _ hmem) hrest

theorem Reenumerated.standing {place : FilePlace} (h : t.Reenumerated u) (ht : t.IsProper)
    (hx : t.standing place = .ok x) : ∃ y, u.standing place = .ok y ∧ x.Reenumerated y := by
  cases place with
  | none =>
    obtain rfl := Except.ok.inj hx
    exact ⟨empty, rfl, .directory (.refl _) nofun⟩
  | some names => exact h.descend ht hx

theorem Reenumerated.enter {place place' : FilePlace} {part : FilePart} (h : t.Reenumerated u)
    (ht : t.IsProper) (hplace : t.enter place part = .ok place') :
    u.enter place part = .ok place' := by
  cases part with
  | root => exact hplace
  | here => exact hplace
  | above =>
    unfold FileTree.enter at hplace ⊢
    cases hx : t.standing place with
    | error e =>
      rw [hx] at hplace
      exact nomatch hplace
    | ok x =>
      obtain ⟨y, hy, hxy⟩ := h.standing ht hx
      rw [hx] at hplace
      rw [hy]
      cases hxy with
      | file content => exact hplace
      | directory hkeys hentries => exact hplace
  | name s =>
    obtain ⟨x, z, hx, hz, heq⟩ := enter_name_eq_ok_iff.mp hplace
    obtain ⟨y, hy, hxy⟩ := h.standing ht hx
    obtain ⟨z', hz', -⟩ := hxy.descend (ht.standing hx) ((descend_singleton x s).trans hz)
    exact enter_name_eq_ok_iff.mpr ⟨y, z', hy, (descend_singleton y s).symm.trans hz', heq⟩

theorem Reenumerated.walk {parts : List FilePart} {place place' : FilePlace}
    (h : t.Reenumerated u) (ht : t.IsProper) (hplace : parts.foldlM t.enter place = .ok place') :
    parts.foldlM u.enter place = .ok place' := by
  induction parts generalizing place with
  | nil => exact hplace
  | cons part parts ih =>
    rw [List.foldlM_cons] at hplace ⊢
    cases hnext : t.enter place part with
    | error e =>
      rw [hnext] at hplace
      exact nomatch hplace
    | ok next =>
      rw [hnext] at hplace
      rw [h.enter ht hnext]
      exact ih hplace

/-- What stands at a path is the same but for the order of enumeration. -/
theorem Reenumerated.lookup (h : t.Reenumerated u) (ht : t.IsProper)
    (hx : t.lookup path = .ok x) : ∃ y, u.lookup path = .ok y ∧ x.Reenumerated y := by
  obtain ⟨htext, hdemands, place, hplace, hstands⟩ := lookup_eq_ok_iff.mp hx
  obtain ⟨y, hy, hxy⟩ := h.standing ht hstands
  exact ⟨y, lookup_eq_ok_iff.mpr
    ⟨htext, hxy.isDirectory_eq ▸ hdemands, place, h.walk ht hplace, hy⟩, hxy⟩

end FileTree

end Workflow
