import Workflow.Proofs.Course.Settlement
import Workflow.Proofs.Story.Bracket
import Workflow.Proofs.Story.Own

/-!
# Steps below steps on a course

What happens to the steps of all runs on a course, and how they stand below one another: a step
below another in the same run is written so in its path, and the steps of a run that is called stand
below the step that calls it. If no identifier is given out twice then every run has one address, a
step that stands below another stands at a further address, and only the call that owns a run tells
of its steps.

## Main definitions

* `Workflow.Course.marks`, `Workflow.Course.IsOpen` — what happens to a step on a course.
* `Workflow.Course.Owns`, `Workflow.Course.Calls` — the runs of a call, and those that steps call.
* `Workflow.Course.Below` — a step stands below another.
* `Workflow.Course.Home` — the addresses of runs.

## Main results

* `Workflow.Course.marks_eq` — only the turns of its call matter to a step.
* `Workflow.Course.address_of_below` — a step below another stands at a further address.
-/

namespace Workflow.Course

variable {config : Config} (C : Course config)

/-! ### Steps and runs on a course -/

/-- What is open on the lines of a call. -/
def pages (i n : Nat) : Pages := Pages.blank.past (C.turns i n)

/-- What a step of the course means to a step of a run. -/
def mark? (s : Spot) (n : Nat) : Option Mark :=
  match C.happening n with
  | .turn i d => d.mark? (C.pages i n) s
  | _ => none

/-- What has happened to a step of a run so far. -/
def marks (s : Spot) : Nat → List Mark
  | 0 => []
  | n + 1 => marks s n ++ (C.mark? s n).toList

/-- The step has started, and has neither ended nor been cut off since. -/
def IsOpen (s : Spot) (n : Nat) : Prop := Bracketed (C.marks s n) true

/-- The run is that of the call, or one that is called from it. -/
def Owns (i : Nat) (run : RunId) : Prop := ∃ n, C.Does i n .freshId run

/-- The run is given its identifier on a line with this page. -/
def Names (run : RunId) (g : Page) : Prop :=
  ∃ i n d, C.happening n = .turn i d ∧ d.named? = some run ∧ C.pages i n d.line = g

/-- The step has called the run: the run is given its identifier where the step is open
innermost. -/
def Calls (s : Spot) (run : RunId) : Prop := ∃ g, C.Names run g ∧ g.opened.head? = some s

/-- A step stands below another: its path begins with that of the other in the same run, or its run
is called by the other or by a step below that. -/
inductive Below (s : Spot) : Spot → Prop
  | inside {x : Spot} (rest : String) (hrun : x.run = s.run)
      (hpath : x.path = s.path ++ "/" ++ rest) : Below s x
  | called {x : Spot} (h : C.Calls s x.run) : Below s x
  | deeper {c x : Spot} (hc : Below s c) (h : C.Calls c x.run) : Below s x

variable {C} {i j n : Nat}

/-! ### What a call owns -/

theorem owner_unique (hids : C.FreshIds) {run : RunId} (h : C.Owns i run) (h' : C.Owns j run) :
    i = j := by
  obtain ⟨n, h⟩ := h
  obtain ⟨n', h'⟩ := h'
  exact (hids i j n n' run h h').1

theorem does_of_named {d : Deed} {run : RunId} (hd : C.happening n = .turn i d)
    (h : d.named? = some run) : C.Does i n .freshId run := ⟨d, hd, (Deed.named?_eq_some_iff d).mp h⟩

/-- A run is given its identifier once. -/
theorem names_unique (hids : C.FreshIds) {run : RunId} {g g' : Page} (h : C.Names run g)
    (h' : C.Names run g') : g = g' := by
  obtain ⟨i, n, d, hd, hn, rfl⟩ := h
  obtain ⟨i', n', d', hd', hn', rfl⟩ := h'
  obtain ⟨rfl, rfl⟩ := hids i i' n n' run (does_of_named hd hn) (does_of_named hd' hn')
  cases hd.symm.trans hd'
  rfl

/-- A call tells of runs only that it owns. -/
theorem owns_of_does {e : Event} (h : C.Does i n (.publish e) ()) : C.Owns i e.run := by
  obtain ⟨k, x, -, hk⟩ := exists_follows_of_does h (Nat.lt_succ_self n)
  have hgiven : ∀ s ∈ C.turns i (n + 1), ∀ r a, s.deed.answered? = some ⟨r, a⟩ →
      r.Gives (C.Owns i) a := by
    intro s hs r a ha
    cases r with
    | freshId => exact ⟨s.time, (does_of_mem_turns hs ha).2⟩
    | _ => trivial
  obtain ⟨s, hs, -, ha⟩ := mem_turns_of_does h (Nat.lt_succ_self n)
  exact (owns_follows hk hgiven (owns_errand config k)).2 s hs _ _ ha

/-- A step that is open on a line of a call is one of a run that the call owns. -/
theorem owns_of_open {s : Spot} : {n : Nat} → {line : Line} → s ∈ (C.pages i n line).opened →
    C.Owns i s.run
  | 0, _, h => nomatch h
  | n + 1, line, h => by
    by_cases hd : ∃ d, C.happening n = .turn i d
    · obtain ⟨d, hd⟩ := hd
      rw [pages, turns_turn hd, Pages.past_concat] at h
      rcases Pages.mem_opened_of_after h with h | ⟨e, hown, hp⟩
      · exact owns_of_open h
      · rw [← Event.run_of_phase? hp]
        exact owns_of_does ⟨d, hd, (Deed.own_eq_answer_iff d).mp hown⟩
    · rw [pages, turns_idle (not_exists.mp hd)] at h
      exact owns_of_open h

/-! ### Marks of owned steps -/

/-- What other calls do means nothing to a step. -/
theorem mark?_eq_none (hids : C.FreshIds) {s : Spot} (hs : C.Owns i s.run) {d : Deed}
    (hd : C.happening n = .turn j d) (hji : j ≠ i) : d.mark? (C.pages j n) s = none := by
  rcases d.own_cases with ⟨e, a, p, s', hown, hp⟩ | ⟨report, hown⟩ | ⟨-, hnone⟩
  · have howns : C.Owns j s'.run := by
      rw [← Event.run_of_phase? hp]
      exact owns_of_does ⟨d, hd, (Deed.own_eq_answer_iff d).mp hown⟩
    have hne : s' ≠ s := by
      rintro rfl
      exact hji (owner_unique hids howns hs)
    simp only [Deed.mark?, hown, hp, if_neg hne]
  · have hclosed : s ∉ (C.pages j n d.line).opened := fun h =>
      hji (owner_unique hids (owns_of_open h) hs)
    simp only [Deed.mark?, hown, if_neg hclosed]
  · exact hnone _ _

/-- What happens to a step is what the turns of its call mean to it. -/
theorem marks_eq (hids : C.FreshIds) {s : Spot} (hs : C.Owns i s.run) :
    (n : Nat) → C.marks s n = Workflow.marks .blank s (C.turns i n)
  | 0 => rfl
  | n + 1 => by
    rw [marks, marks_eq hids hs n, mark?]
    split
    · next j d hd =>
      rcases eq_or_ne j i with rfl | hji
      · rw [turns_turn hd, marks_concat]
        rfl
      · have hidle : ∀ d', C.happening n ≠ .turn i d' := by
          intro d' hd'
          cases hd.symm.trans hd'
          exact hji rfl
        rw [turns_idle hidle, mark?_eq_none hids hs hd hji, Option.toList_none, List.append_nil]
    · next hno => rw [turns_idle fun d hd => hno i d hd, Option.toList_none, List.append_nil]

/-! ### Addresses of runs -/

/-- The address of a run: that of a call stands alone, one that a step calls stands below the
step. -/
inductive Home (C : Course config) : RunId → Address → Prop
  | alone {run : RunId} {g : Page} (h : C.Names run g) (hg : g.opened = []) :
      Home C run [.call run]
  | called {run : RunId} {s : Site} (h : C.Calls s.spot run) (hs : Home C s.run s.home) :
      Home C run (s.address ++ [.call run])

/-- The terms of a course on which nothing is cancelled. -/
def terms (C : Course config) : Terms := ⟨C.Home, False⟩

/-- A run that a step has called stands below the step. -/
theorem exists_caller (hids : C.FreshIds) {c : Spot} {run : RunId} {a : Address}
    (hc : C.Calls c run) (h : C.Home run a) :
    ∃ s : Site, s.spot = c ∧ C.Home s.run s.home ∧ a = s.address ++ [.call run] := by
  obtain ⟨g, hn, hhead⟩ := hc
  cases h with
  | alone hn' hg =>
    obtain rfl := names_unique hids hn hn'
    rw [hg] at hhead
    exact nomatch hhead
  | @called _ s hc' hs =>
    obtain ⟨g', hn', hhead'⟩ := hc'
    obtain rfl := names_unique hids hn hn'
    exact ⟨s, Option.some.inj (hhead'.symm.trans hhead), hs, rfl⟩

theorem home_unique (hids : C.FreshIds) {run : RunId} {a a' : Address} (h : C.Home run a)
    (h' : C.Home run a') : a = a' := by
  induction h generalizing a' with
  | alone hn hg =>
    cases h' with
    | alone => rfl
    | called hc =>
      obtain ⟨g, hn', hhead⟩ := hc
      obtain rfl := names_unique hids hn hn'
      rw [hg] at hhead
      exact nomatch hhead
  | @called run s hc _ ih =>
    obtain ⟨s', hspot, hs', rfl⟩ := exists_caller hids hc h'
    obtain ⟨run', home, path⟩ := s
    obtain ⟨run'', home', path'⟩ := s'
    obtain ⟨rfl, hpath⟩ := Spot.mk.inj hspot
    obtain rfl : path' = path := Path.text_injective hpath
    obtain rfl : home = home' := ih hs'
    rfl

theorem settled (hids : C.FreshIds) : C.terms.Settled where
  unique _ _ _ := home_unique hids
  called run a h := by
    cases h with
    | alone => exact ⟨[], rfl⟩
    | called => exact ⟨_, rfl⟩

/-- A step that stands below another stands at a further address. -/
theorem address_of_below (hids : C.FreshIds) {σ : Site} (hσ : C.Home σ.run σ.home)
    (hstep : σ.path ≠ []) {x : Spot} (h : C.Below σ.spot x) : ∀ ρ : Site, ρ.spot = x →
      C.Home ρ.run ρ.home → σ.address <+: ρ.address ∧ σ.address.length < ρ.address.length := by
  have of_call : ∀ {c ρ : Site}, C.Home c.run c.home → C.Calls c.spot ρ.run →
      C.Home ρ.run ρ.home → c.address <+: ρ.address ∧ c.address.length < ρ.address.length := by
    intro c ρ hc hcall hρ
    have hhome : ρ.home = c.address ++ [.call ρ.run] := home_unique hids hρ (.called hcall hc)
    have haddress : ρ.address = c.address ++ (.call ρ.run :: ρ.path.map .part) := by
      rw [Site.address, hhome, List.append_assoc, List.singleton_append]
    rw [haddress]
    exact ⟨List.prefix_append _ _, by simp⟩
  induction h with
  | inside rest hrun hpath =>
    rintro ρ rfl hρ
    obtain ⟨run, home, path⟩ := σ
    obtain ⟨run', home', path'⟩ := ρ
    obtain rfl : run' = run := hrun
    obtain rfl : home = home' := home_unique hids hσ hρ
    obtain ⟨r, hr, rfl⟩ := Path.exists_of_text hstep hpath
    simp [Site.address, List.length_pos_iff.mpr hr]
  | called hcall =>
    rintro ρ rfl hρ
    exact of_call hσ hcall hρ
  | @deeper c x _ hcall ih =>
    rintro ρ rfl hρ
    obtain ⟨s, hspot, hs, -⟩ := exists_caller hids hcall hρ
    obtain ⟨hin, hlt⟩ := ih s hspot hs
    obtain ⟨hin', hlt'⟩ := of_call hs (hspot ▸ hcall) hρ
    exact ⟨hin.trans hin', by omega⟩

end Workflow.Course
