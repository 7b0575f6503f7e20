import Workflow.Proofs.Story.Order

/-!
# What happens to a step

Of a single step there is told, turn by turn, that it starts, that it is tried again and that it
ends; or the host crashes on the line on which it is open, and it is cut off. If a step starts only
where it is not open, and something else is told of it only on the line where it is, then this comes
to one bracket after another, and the step is open just while its bracket is.

## Main definitions

* `Workflow.Mark`, `Workflow.Bracketed` — what happens to a step, and the order in which it should.
* `Workflow.Pages.Lone` — no step is open twice.

## Main results

* `Workflow.bracketed_marks` — orderly turns come to brackets.
* `Workflow.mem_closed_past` — the events that have closed steps around which no other was open.
* `Workflow.stands_follows` — the events of a strand that obeys tell of steps in order.
-/

namespace Workflow

/-! ### Marks -/

/-- What happens to a step: an event tells of it, or the host crashes on the line on which it is
open. -/
inductive Mark where
  | told (p : Phase)
  | cut
deriving DecidableEq

/-- What a turn means to a step. -/
def Deed.mark? (d : Deed) (pages : Pages) (s : Spot) : Option Mark :=
  match d.own with
  | answer (.publish e) _ =>
    match e.phase? with
    | some (p, s') => if s' = s then some (.told p) else none
    | none => none
  | crash _ => if s ∈ (pages d.line).opened then some .cut else none
  | _ => none

/-- A step starts, is tried again any number of times, and ends or is cut off, and all of this again
any number of times; it may be open in the end. -/
inductive Bracketed : List Mark → Bool → Prop
  | nil : Bracketed [] false
  | starts {l : List Mark} (h : Bracketed l false) : Bracketed (l ++ [.told .starts]) true
  | retries {l : List Mark} (h : Bracketed l true) : Bracketed (l ++ [.told .retries]) true
  | ends {l : List Mark} (h : Bracketed l true) : Bracketed (l ++ [.told .ends]) false
  | cut {l : List Mark} (h : Bracketed l true) : Bracketed (l ++ [.cut]) false

/-- A step that has just started is open. -/
theorem Bracketed.eq_true_of_starts {l : List Mark} {b : Bool}
    (h : Bracketed (l ++ [.told .starts]) b) : b = true := by
  generalize hl : l ++ [.told .starts] = l' at h
  cases h with
  | starts => rfl
  | retries => rfl
  | nil => simp at hl
  | ends => simp at hl
  | cut => simp at hl

/-- What the turns of a strand mean to a step, one after another. -/
def marks (pages : Pages) (s : Spot) : List Stroke → List Mark
  | [] => []
  | x :: l => (x.deed.mark? pages s).toList ++ marks (pages.after x.deed) s l

theorem marks_concat (x : Stroke) (s : Spot) : (pages : Pages) → (l : List Stroke) →
    marks pages s (l ++ [x]) = marks pages s l ++ (x.deed.mark? (pages.past l) s).toList
  | _, [] => List.append_nil _
  | pages, y :: l => by
    rw [List.cons_append, marks, marks_concat x s (pages.after y.deed) l, marks,
      List.append_assoc]
    rfl

/-! ### Steps that are open once -/

/-- An event starts a step that is not open, and tells otherwise of one that is open on its line. -/
structure Deed.Orderly (pages : Pages) (d : Deed) : Prop where
  starts : ∀ e a s, d.own = .answer (.publish e) a → e.phase? = some (.starts, s) →
    ¬ pages.IsOpen s
  tells : ∀ e a p s, d.own = .answer (.publish e) a → e.phase? = some (p, s) → p ≠ .starts →
    s ∈ (pages d.line).opened

/-- No step is open twice. -/
structure Pages.Lone (pages : Pages) : Prop where
  line : ∀ s line line', s ∈ (pages line).opened → s ∈ (pages line').opened → line = line'
  nodup : ∀ line, (pages line).opened.Nodup

/-- A turn tells of a step, or crashes, or changes nothing that is open. -/
theorem Deed.own_cases (d : Deed) :
    (∃ e a p s, d.own = .answer (.publish e) a ∧ e.phase? = some (p, s)) ∨
      (∃ report, d.own = .crash report) ∨
      (∀ g : Page, g.after d.own = g) ∧ ∀ pages s, d.mark? pages s = none := by
  unfold mark?
  generalize d.own = own
  cases own with
  | answer r a =>
    cases r with
    | publish e =>
      rcases hp : e.phase? with _ | ⟨p, s⟩
      · refine .inr (.inr ⟨fun g => ?_, fun pages s => by simp [hp]⟩)
        rw [Page.after, Page.tell, hp]
      · exact .inl ⟨e, a, p, s, rfl, hp⟩
    | _ => exact .inr (.inr ⟨fun _ => rfl, fun _ _ => rfl⟩)
  | crash report => exact .inr (.inl ⟨report, rfl⟩)
  | _ => exact .inr (.inr ⟨fun _ => rfl, fun _ _ => rfl⟩)

/-- A step is cut off by a crash of the host on the line on which it is open. -/
theorem Deed.crash_of_mark?_eq_cut {d : Deed} {pages : Pages} {s : Spot}
    (h : d.mark? pages s = some .cut) :
    (∃ report, d.own = .crash report) ∧ s ∈ (pages d.line).opened := by
  rcases d.own_cases with ⟨e, a, p, s', hown, hp⟩ | ⟨report, hown⟩ | ⟨-, hnone⟩
  · simp only [mark?, hown, hp] at h
    split at h <;> cases h
  · simp only [mark?, hown] at h
    split at h
    · next hs => exact ⟨⟨report, hown⟩, hs⟩
    · cases h
  · exact nomatch (hnone pages s).symm.trans h

namespace Pages

variable {pages : Pages} {d : Deed} {s : Spot}

theorem blank_lone : blank.Lone := ⟨fun _ _ _ h => (nomatch h), fun _ => List.nodup_nil⟩

theorem after_line : pages.after d d.line = (pages d.line).after d.own := pages.alter_self _ _

theorem after_of_ne {line : Line} (h : line ≠ d.line) : pages.after d line = pages line :=
  pages.alter_of_ne _ _ h

/-- What is open on the line of a turn after it was open there before, or is started by it. -/
theorem mem_opened_after (h : s ∈ ((pages d.line).after d.own).opened) :
    s ∈ (pages d.line).opened ∨
      ∃ e, d.own = .answer (.publish e) () ∧ e.phase? = some (.starts, s) := by
  rcases d.own_cases with ⟨e, a, p, s', hd, hp⟩ | ⟨report, hd⟩ | ⟨hsame, -⟩
  · rw [hd, Page.after, Page.tell, hp] at h
    cases p with
    | starts =>
      rcases List.mem_cons.mp h with rfl | h
      · exact .inr ⟨e, hd, hp⟩
      · exact .inl h
    | retries => exact .inl h
    | ends => exact .inl (List.mem_of_mem_erase h)
  · rw [hd] at h
    exact absurd h List.not_mem_nil
  · rw [hsame] at h
    exact .inl h

/-- What is open after a turn was open before on the same line, or is started by the turn. -/
theorem mem_opened_of_after {line : Line} (h : s ∈ (pages.after d line).opened) :
    s ∈ (pages line).opened ∨
      ∃ e, d.own = .answer (.publish e) () ∧ e.phase? = some (.starts, s) := by
  by_cases hl : line = d.line
  · rw [hl, after_line] at h
    rw [hl]
    exact mem_opened_after h
  · rw [after_of_ne hl] at h
    exact .inl h

namespace Lone

variable (h : pages.Lone)

include h

/-- An orderly turn opens no step twice. -/
theorem after (hd : d.Orderly pages) : Lone (pages.after d) := by
  have other : ∀ s line, line ≠ d.line → s ∈ ((pages d.line).after d.own).opened →
      s ∉ (pages line).opened := by
    intro s line hline hs hs'
    rcases mem_opened_after hs with hs | ⟨e, hown, hp⟩
    · exact hline (h.line s line d.line hs' hs)
    · exact hd.starts e () s hown hp ⟨line, hs'⟩
  refine ⟨fun s line line' hs hs' => ?_, fun line => ?_⟩
  · by_cases hl : line = d.line <;> by_cases hl' : line' = d.line
    · rw [hl, hl']
    · rw [hl, after_line] at hs
      rw [after_of_ne hl'] at hs'
      exact absurd hs' (other s line' hl' hs)
    · rw [hl', after_line] at hs'
      rw [after_of_ne hl] at hs
      exact absurd hs (other s line hl hs')
    · rw [after_of_ne hl] at hs
      rw [after_of_ne hl'] at hs'
      exact h.line s line line' hs hs'
  · by_cases hl : line = d.line
    · subst hl
      rw [after_line]
      rcases d.own_cases with ⟨e, a, p, s, hown, hp⟩ | ⟨report, hown⟩ | ⟨hsame, -⟩
      · rw [hown, Page.after, Page.tell, hp]
        cases p with
        | starts =>
          have hs : s ∉ (pages d.line).opened := fun hs => hd.starts e a s hown hp ⟨d.line, hs⟩
          exact List.nodup_cons.mpr ⟨hs, h.nodup d.line⟩
        | retries => exact h.nodup d.line
        | ends => exact (h.nodup d.line).erase s
      · rw [hown]
        exact List.nodup_nil
      · rw [hsame]
        exact h.nodup d.line
    · rw [after_of_ne hl]
      exact h.nodup line

/-- A step is open after a turn if it is then on the line of the turn, or was on another line. -/
theorem isOpen_after : (pages.after d).IsOpen s ↔ s ∈ ((pages d.line).after d.own).opened ∨
    pages.IsOpen s ∧ s ∉ (pages d.line).opened := by
  constructor
  · rintro ⟨line, hs⟩
    by_cases hl : line = d.line
    · rw [hl, after_line] at hs
      exact .inl hs
    · rw [after_of_ne hl] at hs
      exact .inr ⟨⟨line, hs⟩, fun hs' => hl (h.line s line d.line hs hs')⟩
  · rintro (hs | ⟨⟨line, hs⟩, hnot⟩)
    · exact ⟨d.line, by rwa [after_line]⟩
    · have hl : line ≠ d.line := fun hl => hnot (hl ▸ hs)
      exact ⟨line, by rwa [after_of_ne hl]⟩

/-- A turn that leaves a step open or not on its line leaves it so altogether. -/
theorem isOpen_after_of_iff
    (hs : s ∈ ((pages d.line).after d.own).opened ↔ s ∈ (pages d.line).opened) :
    (pages.after d).IsOpen s ↔ pages.IsOpen s := by
  rw [h.isOpen_after, hs]
  by_cases hline : s ∈ (pages d.line).opened
  · exact ⟨fun _ => ⟨_, hline⟩, fun _ => .inl hline⟩
  · exact ⟨fun h => h.elim (fun hs => absurd hs hline) And.left, fun hs => .inr ⟨hs, hline⟩⟩

end Lone

end Pages

/-! ### Brackets -/

/-- A step is open while its bracket is. -/
def Pages.Brackets (pages : Pages) (s : Spot) (l : List Mark) : Prop :=
  ∃ b, Bracketed l b ∧ (b = true ↔ pages.IsOpen s)

section

variable {pages : Pages} {d : Deed} {s : Spot} {l : List Mark}

theorem Pages.Brackets.of_open (h : pages.Brackets s l) (hs : pages.IsOpen s) :
    Bracketed l true := by
  obtain ⟨b, hb, hopen⟩ := h
  exact hopen.mpr hs ▸ hb

theorem Pages.Brackets.of_not_open (h : pages.Brackets s l) (hs : ¬ pages.IsOpen s) :
    Bracketed l false := by
  obtain ⟨b, hb, hopen⟩ := h
  have hfalse : b = false := Bool.eq_false_iff.mpr fun hb => hs (hopen.mp hb)
  exact hfalse ▸ hb

/-- An event about another step changes nothing for a step. -/
private theorem mem_opened_tell {g : Page} {e : Event} {p : Phase} {s' : Spot}
    (hp : e.phase? = some (p, s')) (hne : s' ≠ s) : s ∈ (g.tell e).opened ↔ s ∈ g.opened := by
  rw [Page.tell, hp]
  cases p with
  | starts => simp [hne.symm]
  | retries => rfl
  | ends => exact List.mem_erase_of_ne hne.symm

/-- A bracket goes on in order when an event tells of its step. -/
private theorem Pages.Brackets.after_told (h : pages.Brackets s l) (lone : pages.Lone)
    (hd : d.Orderly pages) {e : Event} {a : Unit} {p : Phase}
    (hown : d.own = .answer (.publish e) a) (hp : e.phase? = some (p, s)) :
    Pages.Brackets (pages.after d) s (l ++ [.told p]) := by
  have hafter := lone.isOpen_after (d := d) (s := s)
  rw [hown, Page.after, Page.tell, hp] at hafter
  cases p with
  | starts =>
    have hopen : (pages.after d).IsOpen s := hafter.mpr (.inl List.mem_cons_self)
    exact ⟨true, .starts (h.of_not_open (hd.starts e a s hown hp)), by simp [hopen]⟩
  | retries =>
    have hs := hd.tells e a _ s hown hp (by rintro ⟨⟩)
    have hopen : (pages.after d).IsOpen s := hafter.mpr (.inl hs)
    exact ⟨true, .retries (h.of_open ⟨_, hs⟩), by simp [hopen]⟩
  | ends =>
    have hs := hd.tells e a _ s hown hp (by rintro ⟨⟩)
    have hclosed : ¬ (pages.after d).IsOpen s := by
      rw [hafter]
      rintro (hs' | ⟨-, hs'⟩)
      · exact (lone.nodup d.line).not_mem_erase hs'
      · exact hs' hs
    exact ⟨false, .ends (h.of_open ⟨_, hs⟩), by simp [hclosed]⟩

/-- A turn of a strand keeps the brackets of a step. -/
theorem Pages.Brackets.after (h : pages.Brackets s l) (lone : pages.Lone) (hd : d.Orderly pages) :
    Pages.Brackets (pages.after d) s (l ++ (d.mark? pages s).toList) := by
  have still (hmark : d.mark? pages s = none)
      (hs : s ∈ ((pages d.line).after d.own).opened ↔ s ∈ (pages d.line).opened) :
      Pages.Brackets (pages.after d) s (l ++ (d.mark? pages s).toList) := by
    obtain ⟨b, hb, hopen⟩ := h
    rw [hmark, Option.toList_none, List.append_nil]
    exact ⟨b, hb, hopen.trans (lone.isOpen_after_of_iff hs).symm⟩
  rcases d.own_cases with ⟨e, a, p, s', hown, hp⟩ | ⟨report, hown⟩ | ⟨hsame, hnone⟩
  · have hmark : d.mark? pages s = if s' = s then some (.told p) else none := by
      simp only [Deed.mark?, hown, hp]
    rcases eq_or_ne s' s with rfl | hne
    · rw [hmark, if_pos rfl]
      exact h.after_told lone hd hown hp
    · rw [if_neg hne] at hmark
      exact still hmark (hown ▸ mem_opened_tell hp hne)
  · have hmark : d.mark? pages s = if s ∈ (pages d.line).opened then some .cut else none := by
      simp only [Deed.mark?, hown]
    by_cases hs : s ∈ (pages d.line).opened
    · rw [hmark, if_pos hs]
      have hclosed : ¬ (pages.after d).IsOpen s := by
        rw [lone.isOpen_after, hown]
        rintro (hs' | ⟨-, hs'⟩)
        · exact List.not_mem_nil hs'
        · exact hs' hs
      exact ⟨false, .cut (h.of_open ⟨_, hs⟩), by simp [hclosed]⟩
    · rw [if_neg hs] at hmark
      refine still hmark ?_
      rw [hown]
      exact iff_of_false List.not_mem_nil hs
  · exact still (hnone pages s) (by rw [hsame])

end

/-! ### Turns one after another -/

section

variable {pages : Pages} {l : List Stroke}

/-- Every one of some turns is orderly where it is taken. -/
def Pages.Orderly (pages : Pages) (l : List Stroke) : Prop :=
  ∀ l₁ x l₂, l = l₁ ++ x :: l₂ → x.deed.Orderly (pages.past l₁)

/-- Orderly turns come to brackets, one after another, and open no step twice. -/
theorem bracketed_marks (lone : pages.Lone) (h : pages.Orderly l) :
    Pages.Lone (pages.past l) ∧ ∀ s, pages.Brackets s [] →
      Pages.Brackets (pages.past l) s (marks pages s l) := by
  induction l using List.reverseRecOn with
  | nil => exact ⟨lone, fun _ hs => hs⟩
  | append_singleton l x ih =>
    obtain ⟨hl, hs⟩ := ih fun l₁ y l₂ hy => h l₁ y (l₂ ++ [x]) (by rw [hy]; simp)
    have hx := h l x [] rfl
    rw [Pages.past_concat]
    refine ⟨hl.after hx, fun s h => ?_⟩
    rw [marks_concat]
    exact (hs s h).after hl hx

/-- The event ends, on the line of the strand itself, a step around which no other is open. -/
def Deed.Closes (pages : Pages) (e : Event) (d : Deed) : Prop :=
  d.line = [] ∧ d.own = .answer (.publish e) () ∧
    ∃ s, e.phase? = some (.ends, s) ∧ (pages []).opened = [s]

private theorem mem_closed_tell {g : Page} {e e' : Event} : e ∈ (g.tell e').closed ↔
    e ∈ g.closed ∨ e' = e ∧ ∃ s, e.phase? = some (.ends, s) ∧ g.opened = [s] := by
  rw [Page.tell]
  split
  · next s hp =>
    refine ⟨.inl, fun h => h.resolve_right ?_⟩
    rintro ⟨rfl, s', hp', -⟩
    cases hp.symm.trans hp'
  · next s hp =>
    dsimp only
    split
    · next hs =>
      rw [List.mem_append, List.mem_singleton]
      refine or_congr_right ⟨?_, fun h => h.1.symm⟩
      rintro rfl
      exact ⟨rfl, s, hp, hs⟩
    · next hs =>
      refine ⟨.inl, fun h => h.resolve_right ?_⟩
      rintro ⟨rfl, s', hp', hs'⟩
      cases hp.symm.trans hp'
      exact hs hs'
  · next hends =>
    refine ⟨.inl, fun h => h.resolve_right ?_⟩
    rintro ⟨rfl, s', hp', -⟩
    exact hends s' hp'

theorem mem_closed_after {d : Deed} {e : Event} : e ∈ (pages.after d []).closed ↔
    e ∈ (pages []).closed ∨ d.Closes pages e := by
  by_cases hl : d.line = []
  · rw [Pages.after_nil hl, Deed.Closes, and_iff_right hl]
    generalize d.own = own
    cases own with
    | answer r a =>
      cases r with
      | publish e' =>
        refine mem_closed_tell.trans (or_congr_right (and_congr_left' ?_))
        exact ⟨fun h => h ▸ rfl, fun h => by cases h; rfl⟩
      | _ => exact ⟨.inl, fun h => h.resolve_right fun h => nomatch h.1⟩
    | _ => exact ⟨.inl, fun h => h.resolve_right fun h => nomatch h.1⟩
  · rw [Pages.after_of_ne (Ne.symm hl)]
    exact ⟨.inl, fun h => h.resolve_right fun hc => hl hc.1⟩

/-- The events that have closed steps around which no other was open were told so. -/
theorem mem_closed_past {e : Event} : e ∈ (pages.past l []).closed ↔
    e ∈ (pages []).closed ∨ ∃ l₁ x l₂, l = l₁ ++ x :: l₂ ∧ x.deed.Closes (pages.past l₁) e := by
  induction l using List.reverseRecOn with
  | nil => simp
  | append_singleton l x ih =>
    rw [Pages.past_concat, mem_closed_after, ih, or_assoc]
    refine or_congr_right ⟨?_, ?_⟩
    · rintro (⟨l₁, y, l₂, rfl, hy⟩ | hx)
      · exact ⟨l₁, y, l₂ ++ [x], by simp, hy⟩
      · exact ⟨l, x, [], rfl, hx⟩
    · rintro ⟨l₁, y, l₂, hl, hy⟩
      rcases split_concat hl with ⟨rfl, rfl⟩ | ⟨r, rfl⟩
      · exact .inr hy
      · exact .inl ⟨l₁, y, r, rfl, hy⟩

end

/-! ### Strands that obey -/

section

variable {α : Type} {t : Terms} {base : Address} {pages : Pages} {post : α → Standing → Prop}
  {l : List Stroke} {x y : Strand α}

/-- Every event tells of a step that stands in the order of steps where it is told. -/
def Pages.Stand (t : Terms) (base : Address) (pages : Pages) (l : List Stroke) : Prop :=
  ∀ l₁ x l₂, l = l₁ ++ x :: l₂ → ∀ e, x.deed.own = .answer (.publish e) () →
    ∃ (p : Phase) (s : Site), e.phase? = some (p, s.spot) ∧
      s.Stands t base (pages.past l₁) x.deed.line p

theorem Pages.Stand.orderly (h : pages.Stand t base l) : pages.Orderly l := by
  intro l₁ x l₂ hl
  refine ⟨fun e a s hown hp => ?_, fun e a p s hown hp hne => ?_⟩
  · obtain ⟨p, σ, hp', hs⟩ := h l₁ x l₂ hl e hown
    cases hp.symm.trans hp'
    exact hs.fresh rfl
  · obtain ⟨p', σ, hp', hs⟩ := h l₁ x l₂ hl e hown
    cases hp.symm.trans hp'
    exact List.mem_of_mem_head? (hs.innermost hne)

/-- However far a strand is carried on by calm turns, it obeys, and its events tell of steps in
order. -/
theorem stands_follows (hn : ¬ t.cancels) (ht : t.Settled) (h : Follows x l y)
    (hcalm : ∀ l₁ s l₂, l = l₁ ++ s :: l₂ → s.deed.Calm t (pages.past l₁))
    (hx : x.Obeys t post base pages) :
    y.Obeys t post base (pages.past l) ∧ pages.Stand t base l := by
  refine h.run (I := fun l y => y.Obeys t post base (pages.past l)) hx ?_
  intro l₁ s l₂ hl _ _ _ u hy
  rw [Pages.past_concat]
  exact ⟨obeys_turn hn u (hcalm l₁ s l₂ hl) hy, fun e he => stands_turn hn ht u hy he⟩

end

end Workflow
