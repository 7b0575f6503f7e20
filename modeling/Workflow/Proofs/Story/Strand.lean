import Workflow.Proofs.Story.Flow
import Workflow.Proofs.Strand.Contract
import Workflow.Proofs.Strand.Rest

/-!
# Strands that open and close steps in order

A strand obeys the order of steps, with pages that say what is open on its lines, if every one of
its lines does: what a branch opens stands below the step that was open innermost when it was
forked, and nothing is open any more on the lines that have ended. While nothing is cancelled, every
turn of whichever line keeps this.

## Main definitions

* `Workflow.Strand.Obeys` — strands that open and close steps in order.
* `Workflow.Deed.Calm` — what is done tells of no cancellation, and names runs that are known.

## Main results

* `Workflow.obeys_turn` — a calm turn keeps the order.
-/

namespace Workflow

variable {α : Type} {c c' : Control} {d : Deed} {x y : Strand α} {t : Terms} {base : Address}
  {pages : Pages} {post : α → Standing → Prop}

/-! ### Strands that obey -/

/-- The open steps stand each below the one before, the outermost below the base of the line. -/
def Site.Stacked (t : Terms) (base : Address) : List Site → Prop
  | [] => True
  | s :: rest => t.home s.run s.home ∧ (Standing.top ⟨base, rest, []⟩).Opens s.address ∧
      Stacked t base rest

/-- A standing agrees with the page of its line. -/
structure Standing.Fits (t : Terms) (start : Address) (page : Page) (g : Standing) : Prop where
  base : g.base = start
  stacked : Site.Stacked t start g.opened
  page : page = g.page

/-- The strand opens and closes steps in order below a base, and its pages say what is open. -/
def Strand.Obeys (t : Terms) : {α : Type} → (post : α → Standing → Prop) → Address → Pages →
    Strand α → Prop
  | _, post, base, pages, line flow => ∃ g, Standing.Fits t base (pages []) g ∧
      (∀ k b, Pages.Clear (pages.branch k b)) ∧ flow.Obeys t post g
  | _, _, _, pages, crashed _ => pages.Clear
  | _, post, base, pages, joining _ n branch next => ∃ g, Standing.Fits t base (pages []) g ∧
      (∀ b : Fin n, Obeys t (fun _ g' => ¬ t.cancels → g'.opened = [])
        (g.top ++ [.part (.branch b)]) (pages.branch 0 b) (branch b)) ∧
      (∀ k b, (k ≠ 0 ∨ n ≤ b) → Pages.Clear (pages.branch k b)) ∧
      ∀ ends, (ends = none → t.cancels) → (next ends).Obeys t post g
  | _, post, base, pages, beside _ branch rest => (∀ b, (branch b).AtRest) ∧
      (∀ b, Pages.Clear (pages.branch 0 b)) ∧ Obeys t post base pages.shift rest

/-- A branch that has ended is at rest, and has left nothing open. -/
theorem atRest_of_ended (hn : ¬ t.cancels) {e : Except String α} {post : α → Standing → Prop}
    (hpost : ∀ a g, post a g → g.opened = []) :
    {base : Address} → {pages : Pages} → (x : Strand α) → x.Obeys t post base pages →
      x.ended? = some e → x.AtRest ∧ pages.Clear
  | _, _, .line (.done a), hx, _ => by
    obtain ⟨g, hg, hb, hx⟩ := hx
    refine ⟨trivial, .of_branches ?_ hb⟩
    rw [hg.page, Standing.page, hpost a g hx]
    rfl
  | _, _, .crashed _, hx, _ => ⟨trivial, hx⟩
  | _, _, .beside _ branch rest, hx, he => by
    obtain ⟨hb, hc, hr⟩ := hx
    obtain ⟨hrest, hclear⟩ := atRest_of_ended hn hpost rest hr he
    exact ⟨⟨hb, hrest⟩, .of_shift hc hclear⟩

/-- A strand that has ended has left a standing of the kind that it comes to. -/
theorem fits_of_ended {a : α} : {base : Address} → {pages : Pages} → (x : Strand α) →
    x.Obeys t post base pages → x.ended? = some (.ok a) →
      ∃ g, Standing.Fits t base (pages []) g ∧ post a g
  | _, _, .line (.done _), hx, h => by
    obtain ⟨g, hg, -, hpost⟩ := hx
    cases h
    exact ⟨g, hg, hpost⟩
  | _, _, .beside _ _ rest, hx, h => by
    have hrest := fits_of_ended rest hx.2.2 h
    exact hrest

/-! ### Turns -/

/-- What is done tells of no cancellation, and a run that is given an identifier is known to be
called by the step that is open innermost on the line. -/
structure Deed.Calm (t : Terms) (pages : Pages) (d : Deed) : Prop where
  untold : ∀ r a, d.own = .answer r a → ¬ r.TellsCancelled a
  stays : d.own ≠ .abandon
  called : ∀ run, d.named? = some run → ∀ s : Site, t.home s.run s.home →
    (pages d.line).opened.head? = some s.spot → t.home run (s.address ++ [.call run])

namespace Deed.Calm

theorem branch {k b : Nat} (h : (Deed.aside k b d).Calm t pages) : d.Calm t (pages.branch k b) :=
  ⟨h.untold, h.stays, h.called⟩

theorem shift (h : d.shift.Calm t pages) : d.Calm t pages.shift where
  untold := by simpa only [Deed.own_shift] using h.untold
  stays := by simpa only [Deed.own_shift] using h.stays
  called run hrun s hs hhead := by
    have hcalled := h.called run
    rw [Deed.named?_shift, Deed.line_shift] at hcalled
    exact hcalled hrun s hs hhead

end Deed.Calm

/-- What is open after an event is what the page of its line says. -/
theorem Standing.Tells.fits {g g' : Standing} {e : Event} {page : Page} (h : g.Tells t e g')
    (hg : g.Fits t base page) : g'.Fits t base (page.tell e) := by
  obtain ⟨rfl, hs, rfl⟩ := hg
  cases h with
  | @starts s he home hopens =>
    refine ⟨rfl, ⟨home, hopens, hs⟩, ?_⟩
    rw [Page.tell, he]
    rfl
  | @retries s rest he h =>
    refine ⟨rfl, hs, ?_⟩
    rw [Page.tell, he]
  | @ends s rest he h =>
    rw [h] at hs
    refine ⟨rfl, hs.2.2, ?_⟩
    rw [Page.tell, he]
    simp [Standing.page, Standing.close, h]

/-- An answer that is reckoned with leads on in order. -/
theorem obeys_answer (hn : ¬ t.cancels) {r : Request} {a : r.Answer} {next : r.Answer → Flow α}
    (hd : (Deed.answer r a).Calm t pages)
    (hx : (Strand.line (.ask r next)).Obeys t post base pages) :
    (Strand.line (next a)).Obeys t post base (pages.after (.answer r a)) := by
  obtain ⟨g, hg, hb, g', hm, hnext⟩ := hx
  have hclear : ∀ k b, Pages.Clear ((pages.after (.answer r a)).branch k b) := by
    intro k b
    rw [Pages.branch_after_nil rfl]
    exact hb k b
  have hpage : pages.after (.answer r a) [] = (pages []).after (.answer r a) := Pages.after_nil rfl
  have hreckons : t.Reckons g r a := by
    cases r with
    | freshId =>
      obtain ⟨hne, -⟩ := hm hn
      obtain ⟨s, rest, hopened⟩ := List.exists_cons_of_ne_nil hne
      have hstacked := hg.stacked
      rw [hopened] at hstacked
      have hhead : (pages []).opened.head? = some s.spot := by
        rw [hg.page, Standing.page, hopened]
        rfl
      change t.home a (g.top ++ [.call a])
      rw [Standing.top_of_cons hopened]
      exact hd.called a rfl s hstacked.1 hhead
    | _ => exact fun h => absurd h (hd.untold _ a rfl)
  refine ⟨g', ?_, hclear, hnext a hreckons⟩
  rw [hpage]
  cases r with
  | publish e => exact (hm.2 hn).fits hg
  | freshId =>
    obtain ⟨-, rfl⟩ := hm hn
    exact hg
  | _ =>
    obtain rfl := hm
    exact hg

/-- A branch that has taken a turn, among the others. -/
private theorem obeys_update {n : Nat} {branch : Fin n → Strand BranchResult} {b : Fin n}
    {z : Strand BranchResult} {bases : Fin n → Address}
    {post : BranchResult → Standing → Prop}
    (h : ∀ i : Fin n, (branch i).Obeys t post (bases i) (pages.branch 0 i))
    (hz : z.Obeys t post (bases b) (Pages.after (pages.branch 0 b) d)) (i : Fin n) :
    (Function.update branch b z i).Obeys t post (bases i)
      ((pages.after (.aside 0 b d)).branch 0 i) := by
  rcases eq_or_ne i b with rfl | hi
  · rw [Function.update_self, Pages.branch_after_self]
    exact hz
  · rw [Function.update_of_ne hi, Pages.branch_after_of_ne hi]
    exact h i

/-- A calm turn of whichever line keeps the order of steps. -/
theorem obeys_turn (hn : ¬ t.cancels) (h : Turn c x d c' y) (hd : d.Calm t pages)
    (hx : x.Obeys t post base pages) : y.Obeys t post base (pages.after d) := by
  induction h generalizing base pages with
  | answer => exact obeys_answer hn hd hx
  | crash _ report =>
    obtain ⟨g, hg, hb, -⟩ := hx
    refine .of_branches ?_ fun k b => ?_
    · rw [Pages.after_nil rfl]
      rfl
    · rw [Pages.branch_after_nil rfl]
      exact hb k b
  | @fork _ _ token n branch next =>
    obtain ⟨g, hg, hb, hflow, hnext⟩ := hx
    rw [Pages.after_of_same rfl]
    refine ⟨g, hg, fun b => ?_, fun k b _ => hb k b, hnext⟩
    have hblank := Page.eq_of_opened (pages.branch 0 b []) (hb 0 b [])
    exact ⟨⟨_, [], (pages.branch 0 b []).closed⟩, ⟨rfl, trivial, hblank⟩,
      fun k' b' => (hb 0 b).branch k' b', hflow b _⟩
  | @branch _ _ _ token n branch next b d y _ ih =>
    obtain ⟨g, hg, hb, hclear, hnext⟩ := hx
    refine ⟨g, ?_, obeys_update hb (ih hd.branch (hb b)), fun k i hi => ?_, hnext⟩
    · rwa [Pages.after_aside_nil]
    · rw [Pages.branch_after_of_beyond hi]
      exact hclear k i hi
  | @join _ _ token n branch next ends hends =>
    obtain ⟨g, hg, hb, hclear, hnext⟩ := hx
    have hrest (b : Fin n) : (branch b).AtRest ∧ Pages.Clear (pages.branch 0 b) :=
      atRest_of_ended hn (fun _ g' h => h hn) (branch b) (hb b) (hends b)
    rw [Pages.after_of_same rfl]
    refine ⟨fun b => (hrest b).1, fun b => ?_, g, hg, fun k b => ?_, hnext _ fun h => nomatch h⟩
    · rcases Nat.lt_or_ge b n with hlt | hge
      · exact (hrest ⟨b, hlt⟩).2
      · exact hclear 0 b (.inr hge)
    · exact hclear (k + 1) b (.inl (Nat.succ_ne_zero k))
  | abandon => exact absurd rfl hd.stays
  | drift t => exact absurd t (not_turn_of_atRest (hx.1 _))
  | rest _ ih =>
    obtain ⟨hb, hclear, hr⟩ := hx
    refine ⟨hb, fun b => ?_, ?_⟩
    · rw [Pages.branch_zero_after_shift]
      exact hclear b
    · rw [Pages.shift_after_shift]
      exact ih hd.shift hr

/-- Where nothing can be cancelled, no turn of a strand that keeps its contract tells of a
cancellation or abandons a fork. -/
theorem untold_of_keeps {k : Contract} {post : α → Prop} (hn : ¬ k.cancels) (h : Turn c x d c' y)
    (hk : k.Reckons c) (hx : x.Keeps k post) :
    (∀ r a, d.own = .answer r a → ¬ r.TellsCancelled a) ∧ d.own ≠ .abandon := by
  induction h with
  | answer ha =>
    refine ⟨?_, fun h => nomatch h⟩
    rintro r a ⟨⟩ htell
    exact hn (hk.told _ _ _ hx.1 ha htell)
  | branch _ ih => exact ih hk (hx.2.1 _)
  | abandon h => exact absurd (hk.abandons _ hx.1 h) hn
  | drift _ ih => exact ih hk (hx.1 _)
  | rest _ ih =>
    rw [Deed.own_shift]
    exact ih hk hx.2
  | _ => exact ⟨fun _ _ h => (nomatch h), fun h => nomatch h⟩

end Workflow
