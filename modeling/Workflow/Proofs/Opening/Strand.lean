import Mathlib.Data.List.Induction
import Workflow.Proofs.Opening.Flow
import Workflow.Proofs.Strand.Line

/-!
# Strands that start what they may

A ledger keeps what all lines of a strand may still start, which identifiers were given, and for
every line the definition that was looked up there last. The branches of a strand and what follows
them share the ledger. Whichever line takes a turn, it starts only what is on the ledger; if steps
are to be started once only, and identifiers are given once only, then a step that has started is
struck off for good.

## Main definitions

* `Workflow.Ledger` — what may be started in a strand.
* `Workflow.Strand.Opens` — strands that start what a ledger holds.

## Main results

* `Workflow.opens_turn`, `Workflow.opens_follows` — a strand starts in every turn what its ledger
  holds.
* `Workflow.Ledger.exists_of_mem_past` — what is on a ledger came with an identifier.
* `Workflow.phase?_ne_of_started` — a step that has started does not start again.
-/

namespace Workflow

/-! ### Ledgers -/

/-- The definition that was looked up on a line, if that was asked for last. -/
def Deed.found? : Option Definition → Deed → Option Definition
  | _, .answer (.lookup _) found => found
  | _, .answer _ _ => none
  | found, _ => found

/-- What the lines of a strand may start, and what is known on them. -/
structure Ledger where
  known : Set RunId
  found : Lined (Option Definition)
  openings : Set Opening

/-- The agenda after something was done on its line. -/
def Agenda.step (once : Prop) (g : Agenda) : Deed → Agenda
  | .answer r a => g.after once r a
  | _ => g

namespace Ledger

/-- What a line may start. -/
def agenda (g : Ledger) (line : Line) : Agenda := ⟨g.known, g.found line, g.openings⟩

/-- The ledger as it is seen from a branch to which some openings are left. -/
def branch (g : Ledger) (k b : Nat) (N : Set Opening) : Ledger := ⟨g.known, g.found.branch k b, N⟩

/-- The ledger as it is seen from behind the first fork, with what is left there. -/
def shift (g : Ledger) (N : Set Opening) : Ledger := ⟨g.known, g.found.shift, N⟩

/-- The ledger after a turn. -/
def after (once : Prop) (g : Ledger) (d : Deed) : Ledger where
  known := {run | run ∈ g.known ∨ d.named? = some run}
  found := g.found.after Deed.found? d
  openings := ((g.agenda d.line).step once d.own).openings

/-- The ledger after turns. -/
def past (once : Prop) (g : Ledger) (l : List Stroke) : Ledger :=
  l.foldl (fun g s => g.after once s.deed) g

/-- All runs of steps on the ledger are known. -/
def IsSound (g : Ledger) : Prop := ∀ o ∈ g.openings, o.run ∈ g.known

/-- What is answered on a line is to be reckoned with. -/
def Reckons (config : Config) (once : Prop) (g : Ledger) (d : Deed) : Prop :=
  ∀ r a, d.own = .answer r a → (g.agenda d.line).Reckons config once r a

/-- What is told on a line is allowed there. -/
def Allows (g : Ledger) (d : Deed) : Prop :=
  ∀ r a, d.own = .answer r a → (g.agenda d.line).Allows r

end Ledger

/-- On no line of a branch was anything looked up. -/
def Lined.Unfound (found : Lined (Option Definition)) : Prop := ∀ line, found line = none

section

variable (config : Config) (once : Prop)

/-- The strand starts, from a ledger on, only what the ledger holds. -/
def Strand.Opens : {α : Type} → Ledger → Strand α → Prop
  | _, g, line flow => flow.Opens config once (g.agenda []) ∧ ∀ j b, (g.found.branch j b).Unfound
  | _, _, crashed _ => True
  | _, g, joining _ n branch next =>
    ∃ share : Option (Fin n) → Set Opening, Opening.Shares once g.openings share ∧
      (∀ b : Fin n, Opens (g.branch 0 b (share (some b))) (branch b)) ∧
        (∀ j b, (j ≠ 0 ∨ n ≤ b) → (g.found.branch j b).Unfound) ∧
          ∀ ends, (next ends).Opens config once ⟨g.known, g.found [], share none⟩
  | _, g, beside n branch rest =>
    ∃ share : Option (Fin n) → Set Opening, Opening.Shares once g.openings share ∧
      (∀ b : Fin n, Opens (g.branch 0 b (share (some b))) (branch b)) ∧
        Opens (g.shift (share none)) rest

end

variable {config : Config} {once : Prop}

variable {α : Type} {x y : Strand α} {c c' : Control} {d : Deed} {g : Ledger}

/-! ### What is known and what is shared -/

namespace Agenda

theorem found_step (g : Agenda) (d : Deed) : (g.step once d).found = d.found? g.found := by
  cases d with
  | answer r a => cases r <;> rfl
  | _ => rfl

theorem known_step (g : Agenda) (d : Deed) :
    (g.step once d.own).known = {run | run ∈ g.known ∨ d.named? = some run} := by
  have hnone : g.known = {run | run ∈ g.known ∨ (none : Option RunId) = some run} := by
    simp
  unfold Deed.named?
  cases d.own with
  | answer r a =>
    cases r with
    | freshId =>
      ext run
      simp [step, after, or_comm, eq_comm]
    | _ => exact hnone
  | _ => exact hnone

end Agenda

/-- What is left is shared after a turn as before, but for the part that has taken the turn. -/
theorem Opening.Shares.step {ι : Type} [DecidableEq ι] {N : Set Opening} {share : ι → Set Opening}
    (h : Opening.Shares once N share) {K : Set RunId} {f : Option Definition} {p : ι}
    (hr : ∀ r a, d = .answer r a → (⟨K, f, share p⟩ : Agenda).Allows r)
    (ha : ∀ r a, d = .answer r a → (⟨K, f, share p⟩ : Agenda).Reckons config once r a)
    (hN : ∀ o ∈ N, o.run ∈ K) :
    Opening.Shares once ((⟨K, f, N⟩ : Agenda).step once d).openings
      (Function.update share p ((⟨K, f, share p⟩ : Agenda).step once d).openings) := by
  cases d with
  | answer r a =>
    have hp : (⟨K, f, share p⟩ : Agenda).Within ⟨K, f, N⟩ :=
      ⟨Set.Subset.rfl, rfl, h.subset p⟩
    have hq (q : ι) (hne : q ≠ p) := Agenda.Within.of_apart (N := share q) (hr r a rfl) (ha r a rfl)
      (fun honce => h.apart honce p q hne.symm) fun o ho => hN o (h.subset q ho)
    have hsubset (q : ι) (hne : q ≠ p) :
        share q ⊆ ((⟨K, f, N⟩ : Agenda).after once r a).openings := by
      have hboth : (⟨K, f, share p ∪ share q⟩ : Agenda).Within ⟨K, f, N⟩ :=
        ⟨Set.Subset.rfl, rfl, Set.union_subset (h.subset p) (h.subset q)⟩
      exact Set.subset_union_right.trans ((hq q hne).2.openings.trans hboth.after.openings)
    refine ⟨fun q => ?_, fun honce q q' hne => ?_⟩
    · rcases eq_or_ne q p with rfl | hqp
      · rw [Function.update_self]
        exact hp.after.openings
      · rw [Function.update_of_ne hqp]
        exact hsubset q hqp
    · rcases eq_or_ne q p with rfl | hqp
      · rw [Function.update_self, Function.update_of_ne hne.symm]
        exact (hq q' hne.symm).1 honce
      · rw [Function.update_of_ne hqp]
        rcases eq_or_ne q' p with rfl | hqp'
        · rw [Function.update_self]
          exact ((hq q hqp).1 honce).symm
        · rw [Function.update_of_ne hqp']
          exact h.apart honce q q' hne
  | _ =>
    change Opening.Shares once N (Function.update share p (share p))
    rwa [Function.update_eq_self]

/-! ### Turns -/

/-- What may be started may be started when more identifiers were given. -/
theorem Strand.Opens.mono_known {K : Set RunId} : {α : Type} → {g : Ledger} → g.known ⊆ K →
    (x : Strand α) → x.Opens config once g → x.Opens config once { g with known := K }
  | _, _, hK, line _, hx => ⟨hx.1.mono_known hK, hx.2⟩
  | _, _, _, crashed _, _ => trivial
  | _, g, hK, joining _ n branch next, hx => by
    obtain ⟨share, hshare, hbranch, hfresh, hnext⟩ := hx
    exact ⟨share, hshare,
      fun b => mono_known (g := g.branch 0 b (share (some b))) hK (branch b) (hbranch b), hfresh,
      fun ends => (hnext ends).mono_known hK⟩
  | _, g, hK, beside n branch rest, hx => by
    obtain ⟨share, hshare, hbranch, hrest⟩ := hx
    exact ⟨share, hshare,
      fun b => mono_known (g := g.branch 0 b (share (some b))) hK (branch b) (hbranch b),
      mono_known (g := g.shift (share none)) hK rest hrest⟩

/-- What is done on the line of a strand itself is done to its agenda. -/
theorem Ledger.agenda_after (g : Ledger) (hd : d.line = []) :
    (g.after once d).agenda [] = (g.agenda []).step once d.own := by
  have hopenings : ((g.agenda d.line).step once d.own).openings =
      ((g.agenda []).step once d.own).openings := by rw [hd]
  refine Agenda.ext ?_ ?_ ?_
  · exact (Agenda.known_step (g.agenda []) d).symm
  · exact (Lined.after_nil hd).trans (Agenda.found_step (g.agenda []) d.own).symm
  · exact hopenings

/-- What asks for nothing leaves a ledger as it is. -/
theorem Ledger.after_of_idle (g : Ledger) (hidle : d.answered? = none) :
    g.after once d = g := by
  have hd (r : Request) (a : r.Answer) : d.own ≠ .answer r a := fun h =>
    nomatch hidle.symm.trans ((Deed.own_eq_answer_iff d).mp h)
  have hnamed : d.named? = none := by
    unfold Deed.named?
    split
    · next h => exact absurd h (hd _ _)
    · rfl
  have hfound : g.found.after Deed.found? d = g.found := by
    refine Lined.after_of_same ?_
    cases hown : d.own with
    | answer r a => exact absurd hown (hd r a)
    | _ => rfl
  have hstep : (g.agenda d.line).step once d.own = g.agenda d.line := by
    cases hown : d.own with
    | answer r a => exact absurd hown (hd r a)
    | _ => rfl
  rw [after, hnamed, hfound, hstep]
  simp [agenda]

/-- What a branch makes of its part of a ledger is what the branch sees of the whole. -/
theorem Ledger.branch_after (g : Ledger) (k b : Nat) (N : Set Opening) (d : Deed) :
    (g.after once (.aside k b d)).branch k b ((g.branch k b N).after once d).openings =
      (g.branch k b N).after once d := by
  rw [Ledger.branch, Ledger.after, Lined.branch_after_self]
  rfl

theorem Ledger.branch_after_of_ne (g : Ledger) {n : Nat} {b i : Fin n} (hi : i ≠ b)
    (N : Set Opening) (d : Deed) : (g.after once (.aside 0 b d)).branch 0 i N =
      { g.branch 0 i N with known := {run | run ∈ g.known ∨ d.named? = some run} } := by
  rw [Ledger.branch, Ledger.after, Lined.branch_after_of_ne_branch hi]
  rfl

/-- What is done behind the first fork is seen there as it is done. -/
theorem Ledger.shift_after (g : Ledger) (N : Set Opening) (d : Deed) :
    (g.after once d.shift).shift ((g.shift N).after once d).openings =
      (g.shift N).after once d := by
  rw [Ledger.shift, Ledger.after, Lined.shift_after_shift, Deed.named?_shift]
  rfl

theorem Ledger.openings_after_shift (g : Ledger) (d : Deed) :
    (g.after once d.shift).openings = ((g.shift g.openings).after once d).openings := by
  rw [after, agenda, Deed.own_shift, Deed.line_shift]
  rfl

theorem Ledger.Reckons.shift (h : g.Reckons config once d.shift) (N : Set Opening) :
    (g.shift N).Reckons config once d := by
  intro r a hd
  have hr := h r a ((Deed.own_shift d).trans hd)
  cases r <;> exact hr

section

variable {token : Token} {n : Nat} {branch : Fin n → Strand BranchResult} {b : Fin n}
  {z : Strand BranchResult} {share : Option (Fin n) → Set Opening}

/-- A fork leaves a part of the ledger to each of its branches. -/
theorem Strand.Opens.fork {branch : Fin n → Flow BranchResult}
    {next : Option (List BranchEnd) → Flow α}
    (hx : (Strand.line (.fork token n branch next)).Opens config once g) :
    (Strand.joining token n (fun b => .line (branch b)) next).Opens config once g := by
  obtain ⟨⟨share, hshare, hbranch, hnext⟩, hfresh⟩ := hx
  refine ⟨share, hshare, fun b => ⟨?_, fun j b' line => hfresh 0 b ((j, b') :: line)⟩,
    fun j b _ => hfresh j b, hnext⟩
  have hnone : (g.branch 0 b (share (some b))).agenda [] = ⟨g.known, none, share (some b)⟩ :=
    congrArg (Agenda.mk g.known · _) (hfresh 0 b [])
  rw [hnone]
  exact hbranch b

/-- What follows branches starts what was left to it, whatever they have come to. -/
theorem Strand.Opens.join {next : Option (List BranchEnd) → Flow α}
    (hx : (Strand.joining token n branch next).Opens config once g)
    (ends : Option (List BranchEnd)) :
    (Strand.beside n branch (.line (next ends))).Opens config once g := by
  obtain ⟨share, hshare, hbranch, hfresh, hnext⟩ := hx
  exact ⟨share, hshare, hbranch, hnext ends,
    fun j b => hfresh (j + 1) b (.inl (Nat.succ_ne_zero j))⟩

/-- A branch that has taken a turn, among the others. -/
private theorem opens_update
    (h : ∀ i : Fin n, (branch i).Opens config once (g.branch 0 i (share (some i))))
    (hz : z.Opens config once ((g.branch 0 b (share (some b))).after once d)) (i : Fin n) :
    (Function.update branch b z i).Opens config once ((g.after once (.aside 0 b d)).branch 0 i
      (Function.update share (some b) ((g.branch 0 b (share (some b))).after once d).openings
        (some i))) := by
  rcases eq_or_ne i b with rfl | hi
  · rw [Function.update_self, Function.update_self]
    rwa [Ledger.branch_after]
  · rw [Function.update_of_ne hi, Ledger.branch_after_of_ne _ hi,
      Function.update_of_ne (fun hsame => hi (Option.some.inj hsame))]
    exact Strand.Opens.mono_known (fun _ => .inl) _ (h i)

end

/-- What is allowed by a part of a ledger is allowed by the whole. -/
theorem Ledger.Allows.of_subset {g' : Ledger} {d' : Deed} (h : g.Allows d) (hd : d'.own = d.own)
    (hN : g.openings ⊆ g'.openings) : g'.Allows d' := by
  intro r a hr
  have hallows := h r a (hd.symm.trans hr)
  cases r with
  | publish e =>
    intro s hs
    obtain ⟨o, ho, he⟩ := hallows s hs
    exact ⟨o, hN ho, he⟩
  | _ => trivial

/-- A turn of whichever line starts only what the ledger holds. -/
theorem opens_turn (h : Turn c x d c' y) (hx : x.Opens config once g) (hg : g.IsSound)
    (ha : g.Reckons config once d) : y.Opens config once (g.after once d) ∧ g.Allows d := by
  induction h generalizing g with
  | @answer _ _ _ r a next _ =>
    obtain ⟨⟨hr, hnext⟩, hfresh⟩ := hx
    refine ⟨⟨?_, fun j b => ?_⟩, ?_⟩
    · rw [Ledger.agenda_after g rfl]
      exact hnext a (ha r a rfl)
    · rw [Ledger.after, Lined.branch_after_nil rfl]
      exact hfresh j b
    · rintro r' a' ⟨⟩
      exact hr
  | crash => exact ⟨trivial, fun _ _ h => nomatch h⟩
  | fork =>
    rw [Ledger.after_of_idle g rfl]
    exact ⟨hx.fork, fun _ _ h => nomatch h⟩
  | @branch _ _ _ _ n branch next b d y _ ih =>
    obtain ⟨share, hshare, hbranch, hfresh, hnext⟩ := hx
    -- the branch starts from its own part, and the parts of the others stay apart from it
    obtain ⟨hy, hd⟩ := ih (hbranch b) (fun o ho => hg o (hshare.subset _ ho)) ha
    refine ⟨⟨_, hshare.step hd ha hg, opens_update hbranch hy, fun j i hi => ?_, fun ends => ?_⟩,
      hd.of_subset rfl (hshare.subset _)⟩
    · rw [Ledger.after, Lined.branch_after_of_beyond hi]
      exact hfresh j i hi
    · have hfound : (g.after once (.aside 0 b d)).found [] = g.found [] :=
        Lined.after_aside_nil (f := g.found) (k := 0) (b := b) (h := Deed.found?) (d := d)
      rw [Function.update_of_ne (Option.some_ne_none _).symm, hfound]
      exact (hnext ends).mono_known fun _ => .inl
  | join =>
    rw [Ledger.after_of_idle g rfl]
    exact ⟨hx.join _, fun _ _ h => nomatch h⟩
  | abandon =>
    rw [Ledger.after_of_idle g rfl]
    exact ⟨hx.join none, fun _ _ h => nomatch h⟩
  | drift _ ih =>
    obtain ⟨share, hshare, hbranch, hrest⟩ := hx
    obtain ⟨hy, hd⟩ := ih (hbranch _) (fun o ho => hg o (hshare.subset _ ho)) ha
    refine ⟨⟨_, hshare.step hd ha hg, opens_update hbranch hy, ?_⟩,
      hd.of_subset rfl (hshare.subset _)⟩
    rw [Function.update_of_ne (Option.some_ne_none _).symm, Ledger.shift, Ledger.after,
      Lined.shift_after_aside]
    exact Strand.Opens.mono_known (fun _ => .inl) _ hrest
  | @rest _ _ _ n branch rest y d _ ih =>
    obtain ⟨share, hshare, hbranch, hrest⟩ := hx
    have hreckons := ha.shift (share none)
    obtain ⟨hy, hd⟩ := ih hrest (fun o ho => hg o (hshare.subset none ho)) hreckons
    refine ⟨⟨Function.update share none ((g.shift (share none)).after once d).openings, ?_,
      fun b => ?_, ?_⟩, hd.of_subset (Deed.own_shift d) (hshare.subset none)⟩
    · rw [Ledger.openings_after_shift]
      exact hshare.step hd hreckons hg
    · rw [Function.update_of_ne (Option.some_ne_none _), Ledger.branch, Ledger.after,
        Lined.branch_zero_after_shift]
      exact Strand.Opens.mono_known (fun _ => .inl) _ (hbranch b)
    · rw [Function.update_self]
      exact (Ledger.shift_after g (share none) d).symm ▸ hy

/-! ### Many turns -/

variable {l : List Stroke} {s : Stroke} {σ : Spot}

namespace Ledger

/-- Something is said of every turn and of the ledger at that turn. -/
def Throughout (once : Prop) (P : Ledger → Deed → Prop) : Ledger → List Stroke → Prop
  | _, [] => True
  | g, s :: l => P g s.deed ∧ (g.after once s.deed).Throughout once P l

theorem past_append (g : Ledger) (l l' : List Stroke) :
    g.past once (l ++ l') = (g.past once l).past once l' := List.foldl_append

theorem past_concat (g : Ledger) (l : List Stroke) (s : Stroke) :
    g.past once (l ++ [s]) = (g.past once l).after once s.deed := g.past_append l [s]

theorem throughout_append {P : Ledger → Deed → Prop} (l l' : List Stroke) :
    g.Throughout once P (l ++ l') ↔ g.Throughout once P l ∧
      (g.past once l).Throughout once P l' := by
  induction l generalizing g with
  | nil => exact (iff_of_eq (true_and _)).symm
  | cons s l ih => exact (and_congr_right fun _ => ih).trans and_assoc.symm

theorem throughout_concat {P : Ledger → Deed → Prop} (l : List Stroke) (s : Stroke) :
    g.Throughout once P (l ++ [s]) ↔ g.Throughout once P l ∧ P (g.past once l) s.deed :=
  (throughout_append l [s]).trans (and_congr_right fun _ => and_iff_left trivial)

/-- What is said of every turn is said of each. -/
theorem throughout_of_split {P : Ledger → Deed → Prop}
    (h : ∀ l₁ s l₂, l = l₁ ++ s :: l₂ → P (g.past once l₁) s.deed) : g.Throughout once P l := by
  induction l using List.reverseRecOn with
  | nil => trivial
  | append_singleton l s ih =>
    refine (throughout_concat l s).mpr ⟨ih fun l₁ s' l₂ hl => ?_, h l s [] rfl⟩
    exact h l₁ s' (l₂ ++ [s]) (by rw [hl, List.append_assoc, List.cons_append])

/-- What comes on a ledger in a turn comes with an identifier, for the definition that was looked
up last on the line. -/
theorem mem_openings_after {o : Opening} (ho : o ∈ (g.after once d).openings) :
    o ∈ g.openings ∨ ∃ D, d.named? = some o.run ∧ g.found d.line = some D ∧
      o ∈ D.openings o.run Set.univ := by
  change o ∈ ((g.agenda d.line).step once d.own).openings at ho
  unfold Deed.named?
  cases hown : d.own with
  | answer r a =>
    rw [hown] at ho
    cases r with
    | publish e => exact .inl ho.1
    | freshId =>
      rcases ho with ho | ⟨D, hD, ho⟩
      · exact .inl ho
      · obtain rfl := ho.1
        exact .inr ⟨D, rfl, hD, ho⟩
    | _ => exact .inl ho
  | _ =>
    rw [hown] at ho
    exact .inl ho

theorem IsSound.after (hg : g.IsSound) (d : Deed) : (g.after once d).IsSound := by
  intro o ho
  rcases mem_openings_after ho with ho | ⟨D, hnamed, -⟩
  · exact .inl (hg o ho)
  · exact .inr hnamed

theorem IsSound.past (hg : g.IsSound) (l : List Stroke) : (g.past once l).IsSound := by
  induction l using List.reverseRecOn with
  | nil => exact hg
  | append_singleton l s ih =>
    rw [past_concat]
    exact ih.after s.deed

theorem mem_known_past {run : RunId} (g : Ledger) (l : List Stroke) :
    run ∈ (g.past once l).known ↔ run ∈ g.known ∨ ∃ s ∈ l, s.deed.named? = some run := by
  induction l generalizing g with
  | nil => simp [past]
  | cons s l ih =>
    refine (ih (g.after once s.deed)).trans ?_
    simp [Ledger.after, or_assoc]

theorem found_past (g : Ledger) (l : List Stroke) :
    (g.past once l).found = g.found.past Deed.found? l := by
  induction l generalizing g with
  | nil => rfl
  | cons s l ih => exact ih (g.after once s.deed)

/-- What is on a ledger after some turns was there, or came in one of them. -/
theorem exists_of_mem_past {o : Opening} (ho : o ∈ (g.past once l).openings) :
    o ∈ g.openings ∨ ∃ l₁ s l₂ D, l = l₁ ++ s :: l₂ ∧ s.deed.named? = some o.run ∧
      g.found.past Deed.found? l₁ s.deed.line = some D ∧ o ∈ D.openings o.run Set.univ := by
  induction l using List.reverseRecOn with
  | nil => exact .inl ho
  | append_singleton l s ih =>
    rw [past_concat] at ho
    rcases mem_openings_after ho with ho | ⟨D, hnamed, hD, ho⟩
    · refine (ih ho).imp_right ?_
      rintro ⟨l₁, s', l₂, D, hl, h⟩
      exact ⟨l₁, s', l₂ ++ [s], D, by rw [hl, List.append_assoc, List.cons_append], h⟩
    · rw [found_past] at hD
      exact .inr ⟨l, s, [], D, rfl, hnamed, hD, ho⟩

/-! ### Steps that have started -/

/-- A step of a run that is known is not left on the ledger. -/
def Struck (g : Ledger) (σ : Spot) : Prop := σ.run ∈ g.known ∧ ∀ o ∈ g.openings, o.spot ≠ σ

/-- A step is struck off when it starts. -/
theorem struck_after (honce : once) (hg : g.IsSound) (ha : g.Allows d) {e : Event}
    (hd : d.own = .answer (.publish e) ()) (he : e.phase? = some (.starts, σ)) :
    (g.after once d).Struck σ := by
  refine ⟨?_, fun o ho hspot => ?_⟩
  · obtain ⟨o, ho, rfl⟩ := ha _ _ hd σ he
    obtain rfl := (Prod.mk.inj (Option.some.inj he)).2
    exact .inl (hg o ho)
  · change o ∈ ((g.agenda d.line).step once d.own).openings at ho
    rw [hd] at ho
    exact ho.2 honce (hspot ▸ he)

/-- What is struck off comes on the ledger no more, as identifiers are given once only. -/
theorem Struck.after (h : g.Struck σ) (honce : once) (hr : g.Reckons config once d) :
    (g.after once d).Struck σ := by
  refine ⟨.inl h.1, fun o ho hspot => ?_⟩
  rcases mem_openings_after ho with ho | ⟨D, hnamed, -, -⟩
  · exact h.2 o ho hspot
  · have hown : d.own = .answer .freshId o.run :=
      (Deed.own_eq_answer_iff d).mpr ((Deed.named?_eq_some_iff d).mp hnamed)
    have hrun : o.run = σ.run := congrArg Spot.run hspot
    exact hr _ _ hown honce (hrun ▸ h.1)

theorem Struck.past (h : g.Struck σ) (honce : once)
    (hr : g.Throughout once (Reckons config once) l) : (g.past once l).Struck σ := by
  induction l generalizing g with
  | nil => exact h
  | cons s l ih => exact ih (h.after honce hr.1) hr.2

/-- What is struck off does not start. -/
theorem Struck.phase?_ne (h : g.Struck σ) (ha : g.Allows d) {e : Event}
    (hd : d.own = .answer (.publish e) ()) : e.phase? ≠ some (.starts, σ) := by
  intro he
  obtain ⟨o, ho, rfl⟩ := ha _ _ hd σ he
  exact h.2 o ho (Prod.mk.inj (Option.some.inj he)).2

end Ledger

/-- However far a strand is carried on, it starts only what its ledger holds. -/
theorem opens_follows (h : Follows x l y) (hx : x.Opens config once g) (hg : g.IsSound)
    (hr : g.Throughout once (Ledger.Reckons config once) l) :
    y.Opens config once (g.past once l) ∧ g.Throughout once Ledger.Allows l := by
  induction h with
  | refl => exact ⟨hx, trivial⟩
  | @turn y z l s _ h t ih =>
    obtain ⟨hrl, hrs⟩ := (Ledger.throughout_concat l s).mp hr
    obtain ⟨hy, hl⟩ := ih hrl
    obtain ⟨hz, hs⟩ := opens_turn t hy (hg.past l) hrs
    rw [Ledger.past_concat]
    exact ⟨hz, (Ledger.throughout_concat l s).mpr ⟨hl, hs⟩⟩

/-- If steps are to be started once only, no two turns start the same step. -/
theorem phase?_ne_of_started (honce : once) {l₁ l₂ l₃ : List Stroke} {s' : Stroke}
    (hl : l = l₁ ++ s :: (l₂ ++ s' :: l₃)) (hg : g.IsSound)
    (hr : g.Throughout once (Ledger.Reckons config once) l)
    (ha : g.Throughout once Ledger.Allows l) {e e' : Event}
    (hs : s.deed.own = .answer (.publish e) ()) (he : e.phase? = some (.starts, σ))
    (hs' : s'.deed.own = .answer (.publish e') ()) : e'.phase? ≠ some (.starts, σ) := by
  subst hl
  obtain ⟨-, -, hr⟩ := (Ledger.throughout_append l₁ _).mp hr
  obtain ⟨hr, -⟩ := (Ledger.throughout_append l₂ _).mp hr
  obtain ⟨-, ha, ha'⟩ := (Ledger.throughout_append l₁ _).mp ha
  obtain ⟨-, ha', -⟩ := (Ledger.throughout_append l₂ _).mp ha'
  have hstruck := Ledger.struck_after honce (hg.past l₁) ha hs he
  exact (hstruck.past honce hr).phase?_ne ha' hs'

end Workflow
