import Mathlib.Data.List.Sort
import Workflow.Definition.File
import Workflow.Proofs.File.Tree

/-!
# What discovery finds

Discovery reads every file below a directory on its own, so no file hides another one. What can be
read is put in the order of paths. As no two files have one path, this order is the same in
whatever order the directories are enumerated.

## Main definitions

* `Workflow.Definition.StandsBelow` — a definition can be loaded from a file below a directory.

## Main results

* `Workflow.Definition.mem_foundBelow_iff` — what is found below a directory.
* `Workflow.Definition.discovers` — what discovery finds, and in which order.
-/

namespace Workflow

open FileTree

variable {t : FileTree} {base path : FilePath} {entries : List (String × FileTree)}

namespace DocumentFormat

/-- The names that tell a format: something in front of a point, and one of three texts behind. -/
theorem isSome_ofPath?_iff {above : List String} {name : String} (hbase : base.text ≠ "")
    (hnames : ∀ s ∈ above ++ [name], FilePart.IsName s) :
    (ofPath? (base.below (above ++ [name]))).isSome ↔
      ∃ stem, ∃ ext ∈ ["json", "yaml", "yml"], stem ≠ "" ∧ name = stem ++ "." ++ ext := by
  have hname : (base.below (above ++ [name])).name? = some name := by
    rw [FilePath.name?, FilePath.parts_below hbase hnames, List.map_append, ← List.append_assoc]
    simp
  have hext : (base.below (above ++ [name])).extension? = FilePath.extensionOf? name := by
    rw [FilePath.extension?, hname, Option.bind_some]
  have hformat : (ofPath? (base.below (above ++ [name]))).isSome ↔
      ∃ ext ∈ ["json", "yaml", "yml"], FilePath.extensionOf? name = some ext := by
    rw [ofPath?, hext]
    split <;> simp_all
  rw [hformat]
  constructor
  · rintro ⟨ext, hmem, h⟩
    obtain ⟨-, stem, hstem, heq⟩ := FilePath.extensionOf?_eq_some_iff.mp h
    exact ⟨stem, ext, hmem, hstem, heq⟩
  · rintro ⟨stem, ext, hmem, hstem, heq⟩
    refine ⟨ext, hmem, FilePath.extensionOf?_eq_some_iff.mpr ⟨?_, stem, hstem, heq⟩⟩
    have hpoint : ∀ ext ∈ ["json", "yaml", "yml"], '.' ∉ ext.toList := by decide
    exact hpoint ext hmem

end DocumentFormat

namespace Definition

/-! ### Files one by one -/

theorem foundAt?_eq_some_iff {content : String} {f : Found} :
    foundAt? path content = some f ↔ (DocumentFormat.ofPath? path).isSome ∧ f.path = path ∧
      ofFile path content = .ok f.definition := by
  obtain ⟨path', d⟩ := f
  rw [foundAt?]
  split
  · next h => cases hfile : ofFile path content <;> simp [h, eq_comm]
  · next h => simp [h]

mutual

theorem foundBelow_eq (path : FilePath) : (t : FileTree) →
    foundBelow path t = t.files.filterMap fun f => foundAt? (path.below f.1) f.2
  | .file content => by
    rw [foundBelow, files]
    cases h : foundAt? path content <;> simp [h]
  | .directory entries => by rw [foundBelow, files, foundAmong_eq path entries]

theorem foundAmong_eq (path : FilePath) : (entries : List (String × FileTree)) →
    foundAmong path entries =
      (filesAmong entries).filterMap fun f => foundAt? (path.below f.1) f.2
  | [] => by rw [foundAmong, filesAmong, List.filterMap_nil]
  | (name, t) :: rest => by
    rw [foundAmong, filesAmong, List.filterMap_append, List.filterMap_map,
      foundBelow_eq (path.join name) t, foundAmong_eq path rest]
    rfl

end

theorem load_of_lookup {view : FileView} {content : String} (h : view path = .ok (.file content)) :
    load view path = ofFile path content := by
  rw [load, FileView.read, h]

/-- A definition can be loaded from a file somewhere below a directory, whose name tells a
format. -/
def StandsBelow (t : FileTree) (base : FilePath) (f : Found) : Prop :=
  ∃ directory above stem content, ∃ ext ∈ ["json", "yaml", "yml"],
    t.lookup base = .ok directory ∧
    directory.descend (above ++ [stem ++ "." ++ ext]) = .ok (.file content) ∧ stem ≠ "" ∧
    f.path = base.below (above ++ [stem ++ "." ++ ext]) ∧
    load t.lookup f.path = .ok f.definition

/-- What is found below a directory is what can be loaded there. -/
theorem mem_foundBelow_iff (ht : t.IsProper) (hbase : t.lookup base = .ok (.directory entries))
    (f : Found) : f ∈ foundBelow base (.directory entries) ↔ StandsBelow t base f := by
  have htext : base.text ≠ "" := (lookup_eq_ok_iff.mp hbase).1
  have hdirectory : (FileTree.directory entries).IsProper := ht.lookup hbase
  rw [foundBelow_eq, List.mem_filterMap]
  constructor
  · rintro ⟨⟨names, content⟩, hfile, hfound⟩
    rw [mem_files_iff hdirectory] at hfile
    have hnames := hdirectory.isName hfile
    obtain ⟨hformat, hpath, hdefinition⟩ := foundAt?_eq_some_iff.mp hfound
    rcases names.eq_nil_or_concat with rfl | ⟨above, name, rfl⟩
    · exact nomatch (descend_nil _).symm.trans hfile
    · rw [List.concat_eq_append] at *
      obtain ⟨stem, ext, hext, hstem, rfl⟩ :=
        (DocumentFormat.isSome_ofPath?_iff htext hnames).mp hformat
      refine ⟨_, above, stem, content, ext, hext, hbase, hfile, hstem, hpath, ?_⟩
      rw [hpath, load_of_lookup (lookup_below hnames hbase hfile)]
      exact hdefinition
  · rintro ⟨directory, above, stem, content, ext, hext, hdir, hfile, hstem, hpath, hload⟩
    obtain rfl := Except.ok.inj (hdir.symm.trans hbase)
    have hnames := hdirectory.isName hfile
    refine ⟨(above ++ [stem ++ "." ++ ext], content), (mem_files_iff hdirectory).mpr hfile, ?_⟩
    refine foundAt?_eq_some_iff.mpr ⟨?_, hpath, ?_⟩
    · exact (DocumentFormat.isSome_ofPath?_iff htext hnames).mpr ⟨stem, ext, hext, hstem, rfl⟩
    · rwa [hpath, load_of_lookup (lookup_below hnames hbase hfile)] at hload

/-! ### The order of what is found -/

/-- No two files below a directory have paths with the same parts. -/
theorem pairwise_parts_foundBelow (htext : base.text ≠ "") (ht : t.IsProper) :
    (foundBelow base t).Pairwise fun x y => x.path.parts ≠ y.path.parts := by
  rw [foundBelow_eq, List.pairwise_filterMap]
  refine (List.pairwise_map.mp (nodup_files ht)).imp_of_mem ?_
  rintro ⟨names, content⟩ ⟨names', content'⟩ hmem hmem' hne x hx y hy hparts
  rw [(foundAt?_eq_some_iff.mp hx).2.1, (foundAt?_eq_some_iff.mp hy).2.1,
    FilePath.parts_below htext (ht.isName ((mem_files_iff ht).mp hmem)),
    FilePath.parts_below htext (ht.isName ((mem_files_iff ht).mp hmem')),
    List.append_cancel_left_eq] at hparts
  exact hne (List.map_injective_iff.mpr (fun _ _ => FilePart.name.inj) hparts)

/-- Files with different paths are put in strictly increasing order. -/
theorem pairwise_before_mergeSort {found : List Found}
    (h : found.Pairwise fun x y => x.path.parts ≠ y.path.parts) :
    (found.mergeSort fun x y => !y.path.before x.path).Pairwise
      fun x y => x.path.before y.path = true := by
  let le (x y : Found) : Bool := !y.path.before x.path
  have htrans (x y z : Found) (hxy : le x y) (hyz : le y z) : le x z := by
    simp only [le, Bool.not_eq_true'] at *
    exact FilePath.not_before_trans hxy hyz
  have htotal (x y : Found) : le x y || le y x := by
    cases hxy : x.path.before y.path with
    | false => simp [le, hxy]
    | true => simp [le, FilePath.before_asymm hxy]
  have hle : (found.mergeSort le).Pairwise (fun x y => le x y) :=
    List.pairwise_mergeSort htrans htotal found
  have hne : (found.mergeSort le).Pairwise fun x y => x.path.parts ≠ y.path.parts :=
    (List.mergeSort_perm found le).symm.pairwise h fun hparts => hparts.symm
  refine hle.imp₂ ?_ hne
  intro x y hxy hparts
  exact (FilePath.before_or_before hparts).resolve_right (by simpa [le] using hxy)

theorem eq_of_pairwise_before {found found' : List Found}
    (h : found.Pairwise fun x y => x.path.before y.path = true)
    (h' : found'.Pairwise fun x y => x.path.before y.path = true)
    (hmem : ∀ f, f ∈ found ↔ f ∈ found') : found = found' := by
  have hirrefl : Std.Irrefl fun x y : Found => x.path.before y.path = true :=
    ⟨fun x => by simp [FilePath.before_irrefl]⟩
  have hantisymm : Std.Antisymm fun x y : Found => x.path.before y.path = true :=
    ⟨fun x y hxy hyx => absurd hyx (by simp [FilePath.before_asymm hxy])⟩
  exact h.eq_of_mem_iff h' hmem

/-! ### Discovery -/

/-- In another enumeration of the same directories the same definitions can be loaded. -/
theorem StandsBelow.reenumerated {u : FileTree} {f : Found} (hf : StandsBelow t base f)
    (ht : t.IsProper) (h : t.Reenumerated u) : StandsBelow u base f := by
  obtain ⟨directory, above, stem, content, ext, hext, hdir, hfile, hstem, hpath, hload⟩ := hf
  have hproper := ht.lookup hdir
  obtain ⟨directory', hdir', hsame⟩ := h.lookup ht hdir
  obtain ⟨x, hfile', hx⟩ := hsame.descend hproper hfile
  cases hx
  refine ⟨directory', above, stem, content, ext, hext, hdir', hfile', hstem, hpath, ?_⟩
  rw [hpath, load_of_lookup (lookup_below (hproper.isName hfile) hdir hfile), ← hpath] at hload
  rwa [hpath, load_of_lookup (lookup_below (hproper.isName hfile) hdir' hfile'), ← hpath]

/-- What discovery finds below a directory, and in which order. -/
theorem exists_discover (ht : t.IsProper) (hbase : t.lookup base = .ok (.directory entries)) :
    ∃ found, discover t.lookup base = .ok found ∧ (∀ f, f ∈ found ↔ StandsBelow t base f) ∧
      found.Pairwise fun x y => x.path.before y.path = true := by
  refine ⟨_, by rw [discover, hbase], fun f => ?_, ?_⟩
  · rw [List.mem_mergeSort, ← foundBelow, mem_foundBelow_iff ht hbase]
  · rw [← foundBelow]
    exact pairwise_before_mergeSort
      (pairwise_parts_foundBelow (lookup_eq_ok_iff.mp hbase).1 (ht.lookup hbase))

/-- Discovery finds what can be loaded from the files below a directory, in strictly increasing
order of paths, and the same in whatever order the directories are enumerated. -/
theorem discovers (ht : t.IsProper) (hbase : t.lookup base = .ok (.directory entries)) :
    ∃ found, discover t.lookup base = .ok found ∧ (∀ f, f ∈ found ↔ StandsBelow t base f) ∧
      found.Pairwise (fun x y => x.path.before y.path = true) ∧
      ∀ u, t.Reenumerated u → discover u.lookup base = .ok found := by
  obtain ⟨found, hfound, hmem, hsorted⟩ := exists_discover ht hbase
  refine ⟨found, hfound, hmem, hsorted, fun u hu => ?_⟩
  obtain ⟨x, hx, hsame⟩ := hu.lookup ht hbase
  cases hsame with
  | directory hkeys hentries =>
    have hproper := hu.isProper ht
    obtain ⟨found', hfound', hmem', hsorted'⟩ := exists_discover hproper hx
    rw [hfound', eq_of_pairwise_before hsorted hsorted' fun f => ?_]
    rw [hmem, hmem']
    exact ⟨fun hf => hf.reenumerated ht hu, fun hf => hf.reenumerated hproper hu.symm⟩

private def pause : String :=
  "\x7b\"name\":\"pause\",\"steps\":[\x7b\"type\":\"wait\",\"duration\":5\x7d]\x7d"

/-- A directory with a definition, a file that cannot be read as one, and a definition below. -/
private def flows : List (String × FileTree) :=
  [("z.json", .file pause), ("notes.txt", .file pause),
    ("old", .directory [("a.json", .file pause), ("b.yaml", .file "steps: [")])]

/-- The directory as it is enumerated the other way around. -/
private def flowsTurned : List (String × FileTree) :=
  [("old", .directory [("b.yaml", .file "steps: ["), ("a.json", .file pause)]),
    ("notes.txt", .file pause), ("z.json", .file pause)]

private def shelf : FileTree := .directory [("flows", .directory flows)]

private def shelfTurned : FileTree := .directory [("flows", .directory flowsTurned)]

private theorem isProper_shelf : shelf.IsProper := by
  refine .directory (by decide) (by decide) ?_
  simp only [List.forall_mem_cons, List.not_mem_nil, false_implies, implies_true, and_true]
  refine .directory (by decide) (by decide) ?_
  simp only [flows, List.forall_mem_cons, List.not_mem_nil, false_implies, implies_true, and_true]
  refine ⟨.file _, .file _, .directory (by decide) (by decide) ?_⟩
  simp only [List.forall_mem_cons, List.not_mem_nil, false_implies, implies_true, and_true]
  exact ⟨.file _, .file _⟩

private theorem shelf_reenumerated : shelf.Reenumerated shelfTurned := by
  refine .directory (.refl _) fun name t u ht hu => ?_
  simp only [List.mem_singleton, Prod.mk.injEq] at ht hu
  obtain ⟨⟨-, rfl⟩, -, rfl⟩ := And.intro ht hu
  refine .directory (by decide) fun name t u ht hu => ?_
  simp only [flows, flowsTurned, List.mem_cons, List.not_mem_nil, or_false, Prod.mk.injEq] at ht hu
  obtain ⟨rfl, rfl⟩ | ⟨rfl, rfl⟩ | ⟨rfl, rfl⟩ := ht <;> simp at hu <;> obtain rfl := hu
  · exact .file pause
  · exact .file pause
  · refine .directory (by decide) fun name t u ht hu => ?_
    simp only [List.mem_cons, List.not_mem_nil, or_false, Prod.mk.injEq] at ht hu
    obtain ⟨rfl, rfl⟩ | ⟨rfl, rfl⟩ := ht <;> simp at hu <;> obtain rfl := hu
    · exact .file pause
    · exact .file "steps: ["

/-- The definition below is found although the file beside it cannot be read, and it is found in
both orders. -/
theorem discovers_shelf : ∃ found, discover shelf.lookup ⟨"flows"⟩ = .ok found ∧
    discover shelfTurned.lookup ⟨"flows"⟩ = .ok found ∧
    ∃ f ∈ found, f.path = ⟨"flows/old/a.json"⟩ := by
  have hbase : shelf.lookup ⟨"flows"⟩ = .ok (.directory flows) := rfl
  obtain ⟨found, hfound, hmem, -, hsame⟩ := discovers isProper_shelf hbase
  refine ⟨found, hfound, hsame shelfTurned shelf_reenumerated, ?_⟩
  have hloads : (load shelf.lookup ⟨"flows/old/a.json"⟩).toOption.isSome = true := by
    decide +kernel
  cases hload : load shelf.lookup ⟨"flows/old/a.json"⟩ with
  | error e => simp [hload, Except.toOption] at hloads
  | ok d =>
    refine ⟨⟨⟨"flows/old/a.json"⟩, d⟩, (hmem _).mpr ?_, rfl⟩
    have hpath : FilePath.below ⟨"flows"⟩ ["old", "a.json"] = ⟨"flows/old/a.json"⟩ := by decide
    exact ⟨_, ["old"], "a", pause, "json", by decide, hbase, rfl, by decide, hpath.symm, hload⟩

end Definition

end Workflow
