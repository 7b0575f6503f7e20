import Workflow.Proofs.Template.Scan

/-!
# Placeholders found by backtracking

A placeholder is written by a pattern: an opening mark, white space, a name of at least one
character that is no closing brace, white space, and a closing brace. The white space takes as much
as it can and the name as little as it can, and what was taken is given back step by step until the
rest of the pattern fits. Of all ways to fit, the one that is tried first takes the inner text up to
the first closing brace, and its name is the inner text without white space at its ends; if all of
the inner text is white space, the leading white space gives its last character back to the name.

## Main definitions

* `Workflow.Template.mostFirst`, `Workflow.Template.fewestFirst` — the ways to take characters.
* `Workflow.Template.attempts` — the ways in which the pattern fits, in the order in which they are
  tried.

## Main results

* `Workflow.Template.head?_attempts_iff` — the way that is tried first.
-/

namespace Workflow.Template

/-! ### The pattern -/

/-- The ways to take characters with a property from the front, more of them being tried before
fewer: what is taken and what is left. -/
def mostFirst (p : Char → Bool) : List Char → List (List Char × List Char)
  | [] => [([], [])]
  | c :: cs =>
    (if p c then (mostFirst p cs).map fun t => (c :: t.1, t.2) else []) ++
      [([], c :: cs)]

/-- The ways to take at least one character with a property from the front, fewer of them being
tried before more. -/
def fewestFirst (p : Char → Bool) : List Char → List (List Char × List Char)
  | [] => []
  | c :: cs =>
    if p c then ([c], cs) :: (fewestFirst p cs).map fun t => (c :: t.1, t.2) else []

/-- The characters behind a closing brace at the front. -/
def closed? : List Char → Option (List Char)
  | '\x7d' :: behind => some behind
  | _ => none

/-- The ways in which the pattern of a placeholder fits at the front, in the order in which they are
tried: the name, and the characters behind. -/
def attempts : List Char → List (List Char × List Char)
  | '$' :: '\x7b' :: rest =>
    (mostFirst Text.isBlank rest).flatMap fun lead =>
      (fewestFirst isInner lead.2).flatMap fun name =>
        (mostFirst Text.isBlank name.2).filterMap fun trail => (closed? trail.2).map (name.1, ·)
  | _ => []

variable {p : Char → Bool} {c : Char} {cs taken left front name back inner behind : List Char}

/-! ### What is taken -/

theorem of_mem_mostFirst (h : (taken, left) ∈ mostFirst p cs) :
    cs = taken ++ left ∧ ∀ c ∈ taken, p c = true := by
  induction cs generalizing taken with
  | nil =>
    obtain ⟨rfl, rfl⟩ := Prod.mk.inj (List.mem_singleton.mp h)
    exact ⟨rfl, by simp⟩
  | cons c cs ih =>
    rw [mostFirst, List.mem_append, List.mem_singleton] at h
    rcases h with h | h
    · by_cases hc : p c = true
      · rw [if_pos hc] at h
        obtain ⟨⟨taken, left'⟩, hmem, heq⟩ := List.mem_map.mp h
        obtain ⟨rfl, rfl⟩ := Prod.mk.inj heq
        obtain ⟨rfl, hall⟩ := ih hmem
        exact ⟨rfl, List.forall_mem_cons.mpr ⟨hc, hall⟩⟩
      · rw [if_neg hc] at h
        exact nomatch h
    · obtain ⟨rfl, rfl⟩ := Prod.mk.inj h
      exact ⟨rfl, by simp⟩

theorem of_mem_fewestFirst (h : (taken, left) ∈ fewestFirst p cs) :
    cs = taken ++ left ∧ taken ≠ [] ∧ ∀ c ∈ taken, p c = true := by
  induction cs generalizing taken with
  | nil => exact nomatch h
  | cons c cs ih =>
    rw [fewestFirst] at h
    by_cases hc : p c = true
    · rw [if_pos hc, List.mem_cons] at h
      rcases h with h | h
      · obtain ⟨rfl, rfl⟩ := Prod.mk.inj h
        exact ⟨rfl, List.cons_ne_nil c [], by simpa using hc⟩
      · obtain ⟨⟨taken, left'⟩, hmem, heq⟩ := List.mem_map.mp h
        obtain ⟨rfl, rfl⟩ := Prod.mk.inj heq
        obtain ⟨rfl, -, hall⟩ := ih hmem
        exact ⟨rfl, List.cons_ne_nil c taken, List.forall_mem_cons.mpr ⟨hc, hall⟩⟩
    · rw [if_neg hc] at h
      exact nomatch h

theorem eq_of_closed? (h : closed? cs = some behind) : cs = '\x7d' :: behind := by
  unfold closed? at h
  split at h
  · rw [Option.some.inj h]
  · cases h

theorem closed?_cons_of_ne (hc : c ≠ '\x7d') (cs : List Char) : closed? (c :: cs) = none := by
  unfold closed?
  split
  · rename_i heq
    exact absurd (List.cons.inj heq).1 hc
  · rfl

theorem isBlank_brace : Text.isBlank '\x7d' = false := by decide

theorem ne_brace_of_isBlank (hc : Text.isBlank c = true) : c ≠ '\x7d' := by
  rintro rfl
  exact nomatch hc.symm.trans isBlank_brace

/-- The pattern fits only where a placeholder starts. -/
theorem starts_of_mem_attempts (h : (name, behind) ∈ attempts cs) : Starts cs := by
  unfold attempts at h
  split at h
  · rename_i rest
    obtain ⟨⟨lead, rest₁⟩, hlead, h⟩ := List.mem_flatMap.mp h
    obtain ⟨⟨name', rest₂⟩, hname, h⟩ := List.mem_flatMap.mp h
    obtain ⟨⟨trail, rest₃⟩, htrail, h⟩ := List.mem_filterMap.mp h
    obtain ⟨behind', hclosed, -⟩ := Option.map_eq_some_iff.mp h
    obtain ⟨rfl, hblank⟩ := of_mem_mostFirst hlead
    obtain ⟨rfl, hne, hinner⟩ := of_mem_fewestFirst hname
    obtain ⟨rfl, -⟩ := of_mem_mostFirst htrail
    have hrest : rest₃ = '\x7d' :: behind' := eq_of_closed? hclosed
    refine ⟨_, rfl, ?_, by simp [hrest]⟩
    -- The first character is white space or belongs to the name, so it is no closing brace.
    intro hhead
    cases lead with
    | cons c lead =>
      exact ne_brace_of_isBlank (hblank c (List.mem_cons_self ..)) (Option.some.inj hhead)
    | nil =>
      obtain ⟨c, name', rfl⟩ := List.exists_cons_of_ne_nil hne
      exact isInner_iff.mp (hinner c (List.mem_cons_self ..)) (Option.some.inj hhead)
  · exact nomatch h

/-! ### What is tried first -/

/-- Only all of the white space can be followed by a closing brace. -/
theorem findSome?_closed? (cs : List Char) :
    (mostFirst Text.isBlank cs).findSome? (fun t => closed? t.2) =
      closed? (cs.dropWhile Text.isBlank) := by
  induction cs with
  | nil => rfl
  | cons c cs ih =>
    rw [mostFirst, List.dropWhile_cons]
    by_cases hc : Text.isBlank c = true
    · have hnone := closed?_cons_of_ne (ne_brace_of_isBlank hc) cs
      rw [if_pos hc, if_pos hc, List.findSome?_append, List.findSome?_map, List.findSome?_cons,
        hnone, List.findSome?_nil, Option.or_none]
      exact ih
    · rw [if_neg hc, if_neg hc]
      simp

/-- What the pattern takes first from the name on. -/
def firstName? (cs : List Char) : Option (List Char × List Char) :=
  (fewestFirst isInner cs).findSome? fun name =>
    (closed? (name.2.dropWhile Text.isBlank)).map (name.1, ·)

theorem head?_attempts (rest : List Char) :
    (attempts ('$' :: '\x7b' :: rest)).head? =
      (mostFirst Text.isBlank rest).findSome? fun lead => firstName? lead.2 := by
  have hname (name : List Char × List Char) :
      ((mostFirst Text.isBlank name.2).filterMap fun trail =>
        (closed? trail.2).map (name.1, ·)).head? =
      (closed? (name.2.dropWhile Text.isBlank)).map (name.1, ·) := by
    rw [List.head?_filterMap, ← findSome?_closed?, List.map_findSome?]
    rfl
  rw [attempts, List.head?_flatMap]
  simp only [List.head?_flatMap, hname]
  rfl

theorem firstName?_cons (hc : c ≠ '\x7d') (cs : List Char) :
    firstName? (c :: cs) =
      ((closed? (cs.dropWhile Text.isBlank)).map ([c], ·)).or
        ((firstName? cs).map fun t => (c :: t.1, t.2)) := by
  have hrest : ((fewestFirst isInner cs).map fun t => (c :: t.1, t.2)).findSome? (fun name =>
      (closed? (name.2.dropWhile Text.isBlank)).map (name.1, ·)) =
      (firstName? cs).map fun t => (c :: t.1, t.2) := by
    rw [firstName?, List.map_findSome?, List.findSome?_map]
    congr 1
    funext t
    simp only [Function.comp_apply, Option.map_map]
    rfl
  rw [firstName?, fewestFirst, if_pos (isInner_iff.mpr hc), List.findSome?_cons, hrest]
  cases closed? (cs.dropWhile Text.isBlank) <;> rfl

/-- White space that a part of the name follows is not followed by a closing brace. -/
theorem closed?_dropWhile_append (hname : name ≠ []) (hinner : '\x7d' ∉ name)
    (hlast : Text.isBlank (name.getLast hname) = false) (behind : List Char) :
    closed? ((name ++ behind).dropWhile Text.isBlank) = none := by
  have hne : name.dropWhile Text.isBlank ≠ [] := by
    rw [Ne, List.dropWhile_eq_nil_iff]
    intro hall
    exact nomatch (hall _ (List.getLast_mem hname)).symm.trans hlast
  obtain ⟨c, rest, hrest⟩ := List.exists_cons_of_ne_nil hne
  have hc : c ∈ name := List.dropWhile_subset _ (hrest ▸ List.mem_cons_self ..)
  rw [List.dropWhile_append, hrest]
  exact closed?_cons_of_ne (ne_of_mem_of_not_mem hc hinner) _

/-- The name goes up to the white space before the closing brace, and has one character at least. -/
theorem firstName?_append (hname : name ≠ []) (hinner : '\x7d' ∉ name)
    (hlast : name.tail ≠ [] → Text.isBlank (name.getLast hname) = false)
    (hback : ∀ c ∈ back, Text.isBlank c = true) (behind : List Char) :
    firstName? (name ++ (back ++ '\x7d' :: behind)) = some (name, behind) := by
  induction name with
  | nil => exact absurd rfl hname
  | cons c name ih =>
    rw [List.cons_append, firstName?_cons (ne_of_mem_of_not_mem (List.mem_cons_self ..) hinner)]
    cases name with
    | nil =>
      rw [List.nil_append, List.dropWhile_append_of_pos hback,
        List.dropWhile_cons_of_neg (by simp [isBlank_brace])]
      rfl
    | cons d name =>
      have hne : d :: name ≠ [] := List.cons_ne_nil d name
      have hinner' : '\x7d' ∉ d :: name := fun h => hinner (List.mem_cons_of_mem c h)
      have hlast' : Text.isBlank ((d :: name).getLast hne) = false := by
        rw [← List.getLast_cons (a := c) hne]
        exact hlast hne
      rw [closed?_dropWhile_append hne hinner' hlast', ih hne hinner' fun _ => hlast']
      rfl

/-- White space before a place is taken first when something is found behind it. -/
theorem findSome?_mostFirst_append {f : List Char → Option (List Char × List Char)}
    (hfront : ∀ c ∈ front, Text.isBlank c = true)
    (h : ((mostFirst Text.isBlank cs).findSome? fun lead => f lead.2) = some (name, behind)) :
    ((mostFirst Text.isBlank (front ++ cs)).findSome? fun lead => f lead.2) =
      some (name, behind) := by
  induction front with
  | nil => exact h
  | cons c front ih =>
    obtain ⟨hc, hfront⟩ := List.forall_mem_cons.mp hfront
    rw [List.cons_append, mostFirst, if_pos hc, List.findSome?_append, List.findSome?_map]
    exact Option.or_eq_some_iff.mpr (.inl (ih hfront))

/-- At a placeholder the pattern first takes the inner text, and its name is the one that the inner
text writes. -/
theorem head?_attempts_span (hinner : '\x7d' ∉ inner) (h : IsName inner name)
    (behind : List Char) :
    (attempts ((Piece.hole inner).span ++ behind)).head? = some (name, behind) := by
  rw [span_hole_append, head?_attempts]
  cases h with
  | @trimmed front name back hfront hback hname hhead hlast =>
    have hname' : '\x7d' ∉ name := fun h => hinner (by simp [h])
    rw [List.append_assoc, List.append_assoc]
    refine findSome?_mostFirst_append hfront ?_
    have hfirst := firstName?_append hname hname' (fun _ => hlast) hback behind
    obtain ⟨c, rest, rfl⟩ := List.exists_cons_of_ne_nil hname
    rw [List.cons_append, mostFirst, if_neg (by simpa using hhead)]
    simpa using hfirst
  | @blank front c hfront hc =>
    have hfirst : firstName? ([c] ++ ([] ++ '\x7d' :: behind)) = some ([c], behind) :=
      firstName?_append (List.cons_ne_nil c [])
        (fun h => ne_brace_of_isBlank hc (List.mem_singleton.mp h).symm) (fun h => absurd rfl h)
        (by simp) behind
    rw [List.append_assoc]
    refine findSome?_mostFirst_append hfront ?_
    -- All of the white space leaves no character for the name, so one is given back.
    have hnone : firstName? ('\x7d' :: behind) = none := rfl
    rw [List.singleton_append, mostFirst, if_pos hc, mostFirst, if_neg (by simp [isBlank_brace])]
    simpa [hnone] using hfirst

/-- The way that is tried first, if the pattern fits at all. -/
theorem head?_attempts_iff :
    (attempts cs).head? = some (name, behind) ↔
      ∃ inner, inner ≠ [] ∧ '\x7d' ∉ inner ∧ cs = (Piece.hole inner).span ++ behind ∧
        IsName inner name := by
  constructor
  · intro h
    have hstarts := starts_of_mem_attempts (List.mem_of_mem_head? h)
    obtain ⟨inner, behind', hne, hinner, rfl⟩ := starts_iff.mp hstarts
    obtain ⟨name', hname'⟩ := exists_isName hne
    rw [head?_attempts_span hinner hname'] at h
    obtain ⟨rfl, rfl⟩ := Prod.mk.inj (Option.some.inj h)
    exact ⟨inner, hne, hinner, rfl, hname'⟩
  · rintro ⟨inner, -, hinner, rfl, hname⟩
    exact head?_attempts_span hinner hname behind

/-- The pattern does not fit where no placeholder starts. -/
theorem attempts_eq_nil_iff : attempts cs = [] ↔ ¬ Starts cs := by
  constructor
  · rintro h hstarts
    obtain ⟨inner, behind, hne, hinner, rfl⟩ := starts_iff.mp hstarts
    obtain ⟨name, hname⟩ := exists_isName hne
    have hhead := head?_attempts_span hinner hname behind
    rw [h] at hhead
    exact nomatch hhead
  · intro h
    exact List.eq_nil_iff_forall_not_mem.mpr fun _ hmem => h (starts_of_mem_attempts hmem)

end Workflow.Template
