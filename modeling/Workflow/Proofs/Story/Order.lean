import Workflow.Proofs.Story.Strand
import Mathlib.Data.List.Infix

/-!
# The order in which steps open and close

On whichever line an event tells of a step, the step stands in the order of all steps of the call:
when it starts it is not open anywhere, when it is told of otherwise it is open innermost on that
line, and every step above it is open on some line. This rests on addresses: the branches of a step
stand at addresses of which none begins with another, so no two lines meet.

## Main definitions

* `Workflow.Terms.Settled` — every run has one address, at which no other run is.
* `Workflow.Site.Stands` — where a step stands among the open ones when an event tells of it.

## Main results

* `Workflow.stands_turn` — every event of a strand that obeys tells of a step that stands so.
-/

namespace Workflow

/-! ### Addresses -/

namespace Address

variable {a outer inner : Address} {legs : List Leg}

/-- A step stands at the address. -/
def IsOfStep (a : Address) : Prop := ∃ (a' : Address) (i : Nat), a = a' ++ [.part (.step i)]

/-- A step at the beginning of an address does not lie among legs that lead to no step. -/
theorem IsOfStep.prefix_of_append (h : a.IsOfStep) (hlegs : ∀ leg ∈ legs, ¬ leg.IsStep)
    (ha : a <+: outer ++ legs) : a <+: outer := by
  obtain ⟨rest, hrest⟩ := ha
  rcases List.append_eq_append_iff.mp hrest with ⟨m, hm, -⟩ | ⟨m, hm, hm'⟩
  · exact ⟨m, hm.symm⟩
  · rcases List.eq_nil_or_concat m with rfl | ⟨m', leg, rfl⟩
    · rw [hm, List.append_nil]
    · obtain ⟨a', i, rfl⟩ := h
      rw [List.concat_eq_append, ← List.append_assoc] at hm
      have hleg : Leg.part (.step i) = leg := List.singleton_inj.mp (List.append_inj' hm rfl).2
      refine absurd ?_ (hlegs leg (by rw [hm']; simp))
      rw [← hleg]
      trivial

namespace Opens

theorem isOfStep (h : outer.Opens inner) : inner.IsOfStep := by
  obtain ⟨legs, i, rfl, -⟩ := h
  exact ⟨_, i, rfl⟩

theorem isPrefix (h : outer.Opens inner) : outer <+: inner := by
  obtain ⟨legs, i, rfl, -⟩ := h
  rw [List.append_assoc]
  exact List.prefix_append _ _

theorem length_lt (h : outer.Opens inner) : outer.length < inner.length := by
  obtain ⟨legs, i, rfl, -⟩ := h
  simp only [List.length_append, List.length_singleton]
  omega

/-- No other step stands between the outer address and the inner one. -/
theorem prefix_of_ne (h : outer.Opens inner) (ha : a.IsOfStep) (hin : a <+: inner)
    (hne : a ≠ inner) : a <+: outer := by
  obtain ⟨legs, i, rfl, hlegs⟩ := h
  rcases List.prefix_concat_iff.mp hin with rfl | hin
  · exact absurd rfl hne
  · exact ha.prefix_of_append hlegs hin

end Opens

end Address

/-! ### Sites -/

/-- Every run has one address, at which no other run is. -/
structure Terms.Settled (t : Terms) : Prop where
  unique : ∀ run a a', t.home run a → t.home run a' → a = a'
  called : ∀ run a, t.home run a → ∃ a', a = a' ++ [.call run]

namespace Site

variable {t : Terms} {base a : Address} {s s' : Site}

/-- A site is told by how events name it. -/
theorem eq_of_spot (ht : t.Settled) (hs : t.home s.run s.home) (hs' : t.home s'.run s'.home)
    (h : s.spot = s'.spot) : s = s' := by
  obtain ⟨run, home, path⟩ := s
  obtain ⟨run', home', path'⟩ := s'
  obtain ⟨rfl, htext⟩ := Spot.mk.inj h
  obtain rfl : home = home' := ht.unique _ _ _ hs hs'
  obtain rfl : path = path' := Path.text_injective htext
  rfl

theorem path_ne_nil (ht : t.Settled) (hs : t.home s.run s.home) (hstep : s.address.IsOfStep) :
    s.path ≠ [] := by
  intro hpath
  obtain ⟨a, ha⟩ := ht.called _ _ hs
  obtain ⟨a', i, haddress⟩ := hstep
  rw [address, hpath, List.map_nil, List.append_nil, ha] at haddress
  cases List.singleton_inj.mp (List.append_inj' haddress rfl).2

private theorem parts_eq_nil {path path' : Path} {m : List Leg} {b : Address} {run : RunId}
    (hm : path.map Leg.part = m ++ path'.map Leg.part) (hcall : b ++ m = a ++ [.call run]) :
    m = [] := by
  rcases List.eq_nil_or_concat m with rfl | ⟨m', leg, rfl⟩
  · rfl
  · rw [List.concat_eq_append, ← List.append_assoc] at hcall
    have hleg : leg = .call run := List.singleton_inj.mp (List.append_inj' hcall rfl).2
    have hmem : leg ∈ path.map Leg.part := by rw [hm]; simp
    obtain ⟨segment, -, hpart⟩ := List.mem_map.mp hmem
    rw [hleg] at hpart
    cases hpart

/-- A site is told by its address. -/
theorem eq_of_address (ht : t.Settled) (hs : t.home s.run s.home) (hs' : t.home s'.run s'.home)
    (h : s.address = s'.address) : s = s' := by
  obtain ⟨run, home, path⟩ := s
  obtain ⟨run', home', path'⟩ := s'
  obtain ⟨a, ha⟩ := ht.called _ _ hs
  obtain ⟨a', ha'⟩ := ht.called _ _ hs'
  have heq : home = home' ∧ path = path' := by
    have hpart : Function.Injective (List.map Leg.part) :=
      List.map_injective_iff.mpr fun _ _ h => Leg.part.inj h
    rcases List.append_eq_append_iff.mp h with ⟨m, hm, hm'⟩ | ⟨m, hm, hm'⟩
    · obtain rfl := parts_eq_nil hm' (hm.symm.trans ha')
      exact ⟨(hm.trans (List.append_nil _)).symm, hpart hm'⟩
    · obtain rfl := parts_eq_nil hm' (hm.symm.trans ha)
      exact ⟨hm.trans (List.append_nil _), (hpart hm').symm⟩
  obtain ⟨rfl, rfl⟩ := heq
  have hcall := (List.append_inj' (ha.symm.trans ha') rfl).2
  cases hcall
  rfl

/-! ### Open steps of a line -/

variable {sites : List Site}

theorem base_prefix_top : (sites : List Site) → Stacked t base sites →
    base <+: (⟨base, sites, []⟩ : Standing).top
  | [], _ => List.prefix_rfl
  | _ :: rest, h => (base_prefix_top rest h.2.2).trans h.2.1.isPrefix

/-- What is open on a line stands below its base, and not below the innermost open step. -/
theorem of_mem_stacked : (sites : List Site) → Stacked t base sites → s ∈ sites →
    t.home s.run s.home ∧ s.address.IsOfStep ∧ base <+: s.address ∧
      base.length < s.address.length ∧ s.address <+: (⟨base, sites, []⟩ : Standing).top
  | [], _, hs => nomatch hs
  | s' :: rest, h, hs => by
    obtain ⟨home, hopens, hrest⟩ := h
    rcases List.mem_cons.mp hs with rfl | hs
    · have hbase := base_prefix_top rest hrest
      exact ⟨home, hopens.isOfStep, hbase.trans hopens.isPrefix,
        Nat.lt_of_le_of_lt hbase.length_le hopens.length_lt, List.prefix_rfl⟩
    · obtain ⟨home, hstep, hbase, hlt, htop⟩ := of_mem_stacked rest hrest hs
      exact ⟨home, hstep, hbase, hlt, htop.trans hopens.isPrefix⟩

/-- Every step between the base of a line and its innermost open step is open on the line. -/
theorem exists_of_stacked : (sites : List Site) → Stacked t base sites → a.IsOfStep →
    base <+: a → a ≠ base → a <+: (⟨base, sites, []⟩ : Standing).top →
      ∃ s ∈ sites, t.home s.run s.home ∧ s.address = a
  | [], _, _, hbase, hne, htop => absurd (htop.eq_of_length_le hbase.length_le) hne
  | s :: rest, h, ha, hbase, hne, htop => by
    obtain ⟨home, hopens, hrest⟩ := h
    by_cases hs : a = s.address
    · exact ⟨s, List.mem_cons_self, home, hs.symm⟩
    · obtain ⟨s', hs', h'⟩ := exists_of_stacked rest hrest ha hbase hne
        (hopens.prefix_of_ne ha htop hs)
      exact ⟨s', List.mem_cons_of_mem s hs', h'⟩

end Site

/-! ### Open steps of a strand -/

section

variable {α : Type} {t : Terms} {base a : Address} {pages : Pages} {post : α → Standing → Prop}
  {line : Line}

theorem Standing.Fits.page_opened {page : Page} {g : Standing} (h : g.Fits t base page) :
    page.opened = g.opened.map Site.spot := by
  rw [h.page]
  rfl

/-- What is open on the line of a standing is a site of it. -/
theorem Standing.Fits.exists_site {page : Page} {g : Standing} {s : Spot} (h : g.Fits t base page)
    (hs : s ∈ page.opened) : ∃ σ ∈ g.opened, σ.spot = s ∧ t.home σ.run σ.home ∧
      σ.address.IsOfStep ∧ base <+: σ.address ∧ base.length < σ.address.length ∧
      σ.address <+: g.top := by
  obtain ⟨rfl, hstacked, rfl⟩ := h
  obtain ⟨σ, hσ, hspot⟩ := List.mem_map.mp hs
  exact ⟨σ, hσ, hspot, Site.of_mem_stacked g.opened hstacked hσ⟩

/-- What is open in a strand stands below its base. -/
theorem exists_site_of_open {s : Spot} : {α : Type} → {post : α → Standing → Prop} →
    {base : Address} → {pages : Pages} → {line : Line} → (x : Strand α) →
      x.Obeys t post base pages → s ∈ (pages line).opened →
        ∃ σ : Site, σ.spot = s ∧ t.home σ.run σ.home ∧ base <+: σ.address
  | _, _, _, _, [], .line _, hx, hs => by
    obtain ⟨g, hg, -, -⟩ := hx
    obtain ⟨σ, -, hspot, home, -, hbase, -, -⟩ := hg.exists_site hs
    exact ⟨σ, hspot, home, hbase⟩
  | _, _, _, _, (k, b) :: line, .line _, hx, hs => by
    obtain ⟨g, -, hclear, -⟩ := hx
    exact absurd hs ((hclear k b).notMem line)
  | _, _, _, _, line, .crashed _, hx, hs => absurd hs (hx.notMem line)
  | _, _, _, _, [], .joining .., hx, hs => by
    obtain ⟨g, hg, -, -, -⟩ := hx
    obtain ⟨σ, -, hspot, home, -, hbase, -, -⟩ := hg.exists_site hs
    exact ⟨σ, hspot, home, hbase⟩
  | _, _, _, pages, (k, b) :: line, .joining _ n branch _, hx, hs => by
    obtain ⟨g, ⟨rfl, hstacked, -⟩, hb, hclear, -⟩ := hx
    by_cases h : k ≠ 0 ∨ n ≤ b
    · exact absurd hs ((hclear k b h).notMem line)
    · obtain ⟨rfl, hlt⟩ : k = 0 ∧ b < n := by omega
      obtain ⟨σ, hspot, home, hbase⟩ := exists_site_of_open (branch ⟨b, hlt⟩) (hb ⟨b, hlt⟩) hs
      have htop : g.base <+: g.top := Site.base_prefix_top g.opened hstacked
      exact ⟨σ, hspot, home, htop.trans ((List.prefix_append _ _).trans hbase)⟩
  | _, _, _, pages, [], .beside _ _ rest, hx, hs => by
    have hopen : s ∈ (pages.shift []).opened := hs
    exact exists_site_of_open rest hx.2.2 hopen
  | _, _, _, _, (0, b) :: line, .beside .., hx, hs =>
    absurd hs ((hx.2.1 b).notMem line)
  | _, _, _, pages, (k + 1, b) :: line, .beside _ _ rest, hx, hs => by
    have hopen : s ∈ (pages.shift ((k, b) :: line)).opened := hs
    exact exists_site_of_open rest hx.2.2 hopen

end

/-! ### Where events tell of steps -/

/-- Where a step stands among those that are open below a base when an event tells of it. -/
structure Site.Stands (t : Terms) (base : Address) (pages : Pages) (line : Line) (p : Phase)
    (s : Site) : Prop where
  home : t.home s.run s.home
  ofStep : s.address.IsOfStep
  below : base <+: s.address
  longer : base.length < s.address.length
  fresh : p = .starts → ¬ pages.IsOpen s.spot
  innermost : p ≠ .starts → (pages line).opened.head? = some s.spot
  /-- Every step above it is open. -/
  above : ∀ a : Address, a.IsOfStep → base <+: a → a ≠ base → a <+: s.address → a ≠ s.address →
    ∃ s' : Site, t.home s'.run s'.home ∧ s'.address = a ∧ pages.IsOpen s'.spot
  /-- It ends on the line of the strand itself if it stands right below the base. -/
  outermost : s.address.length = base.length + 1 → p = .ends →
    line = [] ∧ (pages []).opened = [s.spot]

section

variable {α : Type} {c c' : Control} {d : Deed} {x y : Strand α} {t : Terms} {base : Address}
  {pages : Pages} {post : α → Standing → Prop}

/-- What is told of a step that is open innermost on the line of a standing. -/
private theorem stands_of_cons {g : Standing} {s : Site} {rest : List Site} {p : Phase}
    (hg : g.Fits t base (pages [])) (hopened : g.opened = s :: rest) (hp : p ≠ .starts) :
    s.Stands t base pages [] p := by
  have hpage := hg.page_opened
  obtain ⟨rfl, hstacked, -⟩ := hg
  have htop : g.top = s.address := Standing.top_of_cons hopened
  obtain ⟨home, hstep, hbase, hlonger, -⟩ :=
    Site.of_mem_stacked g.opened hstacked (hopened ▸ List.mem_cons_self)
  rw [hopened] at hpage
  refine ⟨home, hstep, hbase, hlonger, fun h => absurd h hp, fun _ => ?_, ?_, fun hlen _ => ?_⟩
  · rw [hpage]
    rfl
  · intro a ha hbelow hne hin _
    obtain ⟨s', hs', home', ha'⟩ :=
      Site.exists_of_stacked g.opened hstacked ha hbelow hne (htop.symm ▸ hin)
    refine ⟨s', home', ha', [], ?_⟩
    rw [hpage, ← hopened]
    exact List.mem_map_of_mem hs'
  · refine ⟨rfl, ?_⟩
    rw [hpage]
    rcases rest with _ | ⟨s', rest⟩
    · rfl
    · -- another step that is open around it would take up the one part that there is
      rw [hopened] at hstacked
      obtain ⟨-, hopens, hrest⟩ := hstacked
      obtain ⟨-, -, -, hlonger', -⟩ := Site.of_mem_stacked _ hrest List.mem_cons_self
      have hlt : s'.address.length < s.address.length := hopens.length_lt
      omega

/-- What is told on the line of a strand itself. -/
private theorem stands_of_tells (ht : t.Settled) {g g' : Standing} {e : Event}
    (hg : g.Fits t base (pages [])) (hclear : ∀ k b, Pages.Clear (pages.branch k b))
    (h : g.Tells t e g') :
    ∃ (p : Phase) (s : Site), e.phase? = some (p, s.spot) ∧ s.Stands t base pages [] p := by
  cases h with
  | @starts s he home hopens =>
    refine ⟨.starts, s, he, home, hopens.isOfStep, ?_, ?_, fun _ => ?_, fun h => absurd rfl h, ?_,
      fun _ h => nomatch h⟩
    · obtain ⟨rfl, hstacked, -⟩ := hg
      exact (Site.base_prefix_top g.opened hstacked).trans hopens.isPrefix
    · obtain ⟨rfl, hstacked, -⟩ := hg
      exact (Site.base_prefix_top g.opened hstacked).length_le.trans_lt hopens.length_lt
    · rintro ⟨_ | ⟨⟨k, b⟩, line⟩, hs⟩
      · obtain ⟨σ, -, hspot, home', -, -, -, hin⟩ := hg.exists_site hs
        obtain rfl := Site.eq_of_spot ht home' home hspot
        exact absurd hin.length_le (Nat.not_le_of_lt hopens.length_lt)
      · exact absurd hs ((hclear k b).notMem line)
    · intro a ha hbelow hne hin hne'
      have hpage := hg.page_opened
      obtain ⟨rfl, hstacked, -⟩ := hg
      obtain ⟨s', hs', home', ha'⟩ :=
        Site.exists_of_stacked g.opened hstacked ha hbelow hne (hopens.prefix_of_ne ha hin hne')
      refine ⟨s', home', ha', [], ?_⟩
      rw [hpage]
      exact List.mem_map_of_mem hs'
  | retries he hopened => exact ⟨_, _, he, stands_of_cons hg hopened (fun h => nomatch h)⟩
  | ends he hopened => exact ⟨_, _, he, stands_of_cons hg hopened (fun h => nomatch h)⟩

theorem not_isOfStep_branch (b : Nat) (outer : Address) :
    ¬ Address.IsOfStep (outer ++ [.part (.branch b)]) := by
  rintro ⟨a', i, h⟩
  cases List.singleton_inj.mp (List.append_inj' h rfl).2

/-- Two branches of a step stand at addresses of which none begins with the other. -/
theorem branch_inj {outer a : Address} {b b' : Nat} (h : outer ++ [.part (.branch b)] <+: a)
    (h' : outer ++ [.part (.branch b')] <+: a) : b = b' := by
  have heq := (List.prefix_of_prefix_length_le h h' (by simp)).eq_of_length (by simp)
  cases List.singleton_inj.mp (List.append_cancel_left heq)
  rfl

/-- What is told in a branch of the fork that a strand waits for. -/
private theorem Site.Stands.of_branch (ht : t.Settled) {g : Standing} {n : Nat}
    {branch : Fin n → Strand BranchResult} {b : Fin n} {line : Line} {p : Phase} {s : Site}
    {post : BranchResult → Standing → Prop} (hg : g.Fits t base (pages []))
    (hb : ∀ b : Fin n, (branch b).Obeys t post (g.top ++ [.part (.branch b)]) (pages.branch 0 b))
    (hclear : ∀ k b, (k ≠ 0 ∨ n ≤ b) → Pages.Clear (pages.branch k b))
    (h : s.Stands t (g.top ++ [.part (.branch b)]) (pages.branch 0 b) line p) :
    s.Stands t base pages ((0, b) :: line) p := by
  have hbase : base <+: g.top := by
    obtain ⟨rfl, hstacked, -⟩ := hg
    exact Site.base_prefix_top g.opened hstacked
  have htop : g.top.length + 1 < s.address.length := by simpa using h.longer
  have hlength := hbase.length_le
  have hbranch := List.prefix_append g.top [Leg.part (.branch b)]
  refine ⟨h.home, h.ofStep, (hbase.trans hbranch).trans h.below, by omega, fun hp => ?_,
    h.innermost, ?_, fun hlen _ => by omega⟩
  · rintro ⟨_ | ⟨⟨k, b'⟩, line'⟩, hs⟩
    · obtain ⟨σ, -, hspot, home, -, -, -, hin⟩ := hg.exists_site hs
      obtain rfl := Site.eq_of_spot ht home h.home hspot
      exact absurd hin.length_le (by omega)
    · by_cases hout : k ≠ 0 ∨ n ≤ b'
      · exact absurd hs ((hclear k b' hout).notMem line')
      · obtain ⟨rfl, hlt⟩ : k = 0 ∧ b' < n := by omega
        obtain ⟨σ, hspot, home, hin⟩ := exists_site_of_open (branch ⟨b', hlt⟩) (hb ⟨b', hlt⟩) hs
        obtain rfl := Site.eq_of_spot ht home h.home hspot
        obtain rfl : b' = b := branch_inj hin h.below
        exact h.fresh hp ⟨line', hs⟩
  · intro a ha hbelow hne hin hne'
    by_cases hin' : a <+: g.top
    · have hpage := hg.page_opened
      obtain ⟨rfl, hstacked, -⟩ := hg
      obtain ⟨s', hs', home', ha'⟩ :=
        Site.exists_of_stacked g.opened hstacked ha hbelow hne hin'
      refine ⟨s', home', ha', [], ?_⟩
      rw [hpage]
      exact List.mem_map_of_mem hs'
    · -- a step above that is not outside of the branch is inside of it
      have hinside : g.top ++ [.part (.branch b)] <+: a := by
        rcases List.prefix_or_prefix_of_prefix h.below hin with hle | hle
        · exact hle
        · have hlegs : ∀ leg ∈ [Leg.part (.branch b)], ¬ leg.IsStep := by simp [Leg.IsStep]
          exact absurd (ha.prefix_of_append hlegs hle) hin'
      have hne'' : a ≠ g.top ++ [.part (.branch b)] := by
        rintro rfl
        exact not_isOfStep_branch b g.top ha
      obtain ⟨s', home', ha', line', hs'⟩ := h.above a ha hinside hne'' hin hne'
      exact ⟨s', home', ha', (0, b) :: line', hs'⟩

/-- What is told behind the first fork. -/
private theorem Site.Stands.of_shift {line : Line} {p : Phase} {s : Site}
    (hclear : ∀ b, Pages.Clear (pages.branch 0 b)) (h : s.Stands t base pages.shift line p) :
    s.Stands t base pages line.shift p := by
  refine ⟨h.home, h.ofStep, h.below, h.longer, fun hp => ?_, h.innermost, ?_, fun hlen hp => ?_⟩
  · rintro ⟨_ | ⟨⟨_ | k, b⟩, line'⟩, hs⟩
    · exact h.fresh hp ⟨[], hs⟩
    · exact absurd hs ((hclear b).notMem line')
    · exact h.fresh hp ⟨(k, b) :: line', hs⟩
  · intro a ha hbelow hne hin hne'
    obtain ⟨s', home', ha', line', hs'⟩ := h.above a ha hbelow hne hin hne'
    exact ⟨s', home', ha', line'.shift, hs'⟩
  · obtain ⟨rfl, hopened⟩ := h.outermost hlen hp
    exact ⟨rfl, hopened⟩

/-- Every event of a strand that obeys tells of a step that stands in the order of steps. -/
theorem stands_turn (hn : ¬ t.cancels) (ht : t.Settled) (h : Turn c x d c' y)
    (hx : x.Obeys t post base pages) {e : Event} {a : Unit}
    (he : d.own = .answer (.publish e) a) :
    ∃ (p : Phase) (s : Site), e.phase? = some (p, s.spot) ∧ s.Stands t base pages d.line p := by
  induction h generalizing base pages with
  | answer =>
    obtain ⟨g, hg, hclear, g', hm, -⟩ := hx
    cases he
    exact stands_of_tells ht hg hclear (hm.2 hn)
  | branch _ ih =>
    obtain ⟨g, hg, hb, hclear, -⟩ := hx
    obtain ⟨p, s, hp, hs⟩ := ih (hb _) he
    exact ⟨p, s, hp, hs.of_branch ht hg hb hclear⟩
  | drift t => exact absurd t (not_turn_of_atRest (hx.1 _))
  | rest _ ih =>
    obtain ⟨-, hclear, hr⟩ := hx
    rw [Deed.own_shift] at he
    obtain ⟨p, s, hp, hs⟩ := ih hr he
    rw [Deed.line_shift]
    exact ⟨p, s, hp, hs.of_shift hclear⟩
  | _ => exact nomatch he

/-- A run is given its identifier only while a step is open on the line. -/
theorem opened_of_named (hn : ¬ t.cancels) (h : Turn c x d c' y) (hx : x.Obeys t post base pages)
    {run : RunId} (hd : d.named? = some run) : (pages d.line).opened ≠ [] := by
  induction h generalizing base pages with
  | @answer _ _ _ r a next =>
    obtain ⟨g, hg, -, g', hm, -⟩ := hx
    cases r with
    | freshId =>
      obtain ⟨hne, -⟩ := hm hn
      intro hnil
      have hopened : (pages []).opened = [] := hnil
      rw [hg.page_opened] at hopened
      exact hne (List.map_eq_nil_iff.mp hopened)
    | _ => exact nomatch hd
  | branch _ ih =>
    obtain ⟨_, -, hb, -, -⟩ := hx
    exact ih (hb _) hd
  | drift u => exact absurd u (not_turn_of_atRest (hx.1 _))
  | rest _ ih =>
    rw [Deed.line_shift]
    exact ih hx.2.2 (by rwa [Deed.named?_shift] at hd)
  | _ => exact nomatch hd

end

end Workflow
