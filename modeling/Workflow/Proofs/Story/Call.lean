import Workflow.Proofs.Story.Bracket
import Workflow.Proofs.Story.Frame
import Workflow.Proofs.Strand.Call
import Workflow.Proofs.Strand.Log

/-!
# The story that a call tells

A call that has begun a run and has returned has taken the turns that lead to the begin, the turns
of the frame of the run, and those that settle it. While nothing is cancelled the frame opens and
closes its steps in order and leaves nothing open and nothing going on, so the run is settled in
three turns of which the last tells how it has ended.

## Main definitions

* `Workflow.Passage` — the turns of a call of which the frame of its run has ended.
* `Workflow.Deed.IsMute` — what is done means nothing to any step.
* `Workflow.Passage.IsCalm`, `Workflow.Passage.SettledBy` — nothing is cancelled while the frame is
  carried on, and nothing else goes on while the run is settled.

## Main results

* `Workflow.exists_prepared` — every call that has begun a run has asked to begin one.
* `Workflow.Ran.exists_passage`, `Workflow.exists_passage` — every call of which the frame has
  ended, and so every call that has begun a run and has returned, has taken such turns.
* `Workflow.Passage.exists_settling` — a run with a frame at rest is settled in three turns.
* `Workflow.Passage.IsCalm.closed_eq` — its log stands for the events that have closed its steps.
-/

namespace Workflow

variable {α β : Type} {c c' : Control} {d : Deed} {t : Terms} {pages : Pages}

/-! ### Calls that have begun a run and have returned -/

/-- The turns of a call of which the frame of its run has ended: those that come before it begins,
the begin, the one that tells of it, those of its frame, and those that settle it so far. -/
structure Passage (config : Config) (k : Errand) (l : List Stroke) (x : Strand RunEnd) where
  job : Job
  token : Token
  ended : FrameEnd
  before : List Stroke
  begin : Stroke
  start : Stroke
  frame : List Stroke
  settling : List Stroke
  strand : Strand FrameEnd
  turns : l = before ++ begin :: start :: (frame ++ settling)
  prepared : Prepared before job k
  begins : begin.deed = .answer job.beginning (.ok token)
  starts : start.deed = .answer (.publish job.started) ()
  follows : Follows (.line (job.frame config token)) frame strand
  ends : strand.ended? = some (.ok ended)
  settles : Follows (strand.graft (.line (settle job.run ended))) settling x

section

variable {config : Config} {k : Errand} {l : List Stroke} {x : Strand RunEnd} {e : RunEnd}

/-- Before its run begins, a call looks up its definition and is given an identifier. -/
theorem prepared_cases {pre : List Stroke} {job : Job} {s : Stroke} (h : Prepared pre job k)
    (hs : s ∈ pre) :
    s.deed = .answer .freshId job.run ∨ ∃ id found, s.deed = .answer (.lookup id) found := by
  cases k with
  | executeDefinition definition options =>
    obtain ⟨s', hl, -, -, hs'⟩ := h
    rw [hl, List.mem_singleton] at hs
    exact .inl (hs ▸ hs')
  | execute id options =>
    obtain ⟨s', s'', hl, -, hs', hs''⟩ := h
    rw [hl, List.mem_pair] at hs
    rcases hs with rfl | rfl
    · exact .inr ⟨_, _, hs'⟩
    · exact .inl hs''

/-- A call that has begun a run has taken the turns that come before it begins, and those of a call
that asks to begin. -/
theorem exists_prepared (h : Follows (.line (k.flow config)) l x)
    (hb : ∃ s ∈ l, ∃ identity total env token,
      s.deed.answered? = some ⟨.begin identity total env, .ok token⟩) :
    ∃ pre rest job, l = pre ++ rest ∧ Prepared pre job k ∧
      Follows (.line (job.toBegin config)) rest x ∧ ∃ s ∈ rest, ∃ identity total env token,
        s.deed.answered? = some ⟨.begin identity total env, .ok token⟩ := by
  obtain ⟨b, hbl, identity, total, env, token, hbd⟩ := hb
  -- the turns that ask for something else go before
  have later {s : Stroke} {l : List Stroke} {r : Request} {a : r.Answer} (hmem : b ∈ s :: l)
      (hs : s.deed = .answer r a) (hr : ∀ identity total env, r ≠ .begin identity total env) :
      b ∈ l := by
    rcases List.mem_cons.mp hmem with rfl | hmem
    · rw [hs] at hbd
      cases hbd
      exact absurd rfl (hr _ _ _)
    · exact hmem
  cases k with
  | executeDefinition definition options =>
    rw [Errand.flow, executeDefinition_eq] at h
    cases l with
    | nil => cases hbl
    | cons s l =>
      obtain ⟨run, hs, h⟩ := follows_line_cons_ask h not_false
      exact ⟨[s], l, ⟨definition, options, run⟩, rfl, ⟨s, rfl, rfl, rfl, hs⟩, h, b,
        later hbl hs (by rintro _ _ _ ⟨⟩), _, _, _, _, hbd⟩
  | execute id options =>
    rw [Errand.flow, execute_eq] at h
    cases l with
    | nil => cases hbl
    | cons s l =>
      obtain ⟨found, hs, h⟩ := follows_line_cons_ask h not_false
      have hbl := later hbl hs (by rintro _ _ _ ⟨⟩)
      cases found with
      | none =>
        obtain rfl := follows_done h
        cases hbl
      | some definition =>
        dsimp only at h
        rw [executeDefinition_eq] at h
        cases l with
        | nil => cases hbl
        | cons s' l =>
          obtain ⟨run, hs', h⟩ := follows_line_cons_ask h not_false
          exact ⟨[s, s'], l, ⟨definition, options, run⟩, rfl, ⟨s, s', rfl, rfl, hs, hs'⟩, h, b,
            later hbl hs' (by rintro _ _ _ ⟨⟩), _, _, _, _, hbd⟩

/-- A call of which the frame of its run has ended has taken the turns that lead there, and perhaps
others. -/
theorem Ran.exists_passage {b : Stroke} {job : Job} {token : Token} {ended : FrameEnd}
    (ran : Ran config k l b job token ended) (h : Follows (.line (k.flow config)) l x) :
    ∃ P : Passage config k l x, P.job = job ∧ P.ended = ended := by
  obtain ⟨pre, st, τ, post, y, rfl, hp, hb, hst, hy, he⟩ := ran
  obtain ⟨pre', rest, job', hl, hp', h, -⟩ :=
    exists_prepared h ⟨b, by simp, _, _, _, _, congrArg Deed.answered? hb⟩
  rw [List.append_assoc, List.cons_append, List.cons_append] at hl
  obtain ⟨rfl, rfl⟩ := prepared_unique hl hp hp'
  obtain rfl := (List.append_cancel_left hl).symm
  obtain ⟨a, ha, h⟩ := follows_line_cons_ask h not_false
  cases hb.symm.trans ha
  obtain ⟨_, -, h⟩ := follows_line_cons_ask h not_false
  obtain ⟨z, hz, h⟩ := follows_append h
  obtain rfl := follows_unique hz (hy.bind (settle job.run))
  rw [bind_eq_graft _ y he] at h
  exact ⟨⟨job, token, ended, pre, b, st, τ, post, y, by simp, hp, hb, hst, hy, he, h⟩, rfl, rfl⟩

/-- A call that has begun a run and has returned has carried it on to its end. -/
theorem exists_passage (h : Follows (.line (k.flow config)) l x) (he : x.ended? = some (.ok e))
    (hb : ∃ s ∈ l, ∃ identity total env token,
      s.deed.answered? = some ⟨.begin identity total env, .ok token⟩) :
    Nonempty (Passage config k l x) := by
  rcases told_of_ended (stage_follows h) he with
    ⟨-, hnone⟩ | ⟨l₀, rest, b, f, t, job, token, ended, p, hl, ran, -⟩
  · obtain ⟨s, hs, _, _, _, _, ha⟩ := hb
    exact absurd ha (hnone s hs _ _ _ _)
  · have ran : Ran config k l b job token ended := hl ▸ ran.append _
    obtain ⟨P, -⟩ := ran.exists_passage h
    exact ⟨P⟩

end

/-! ### Turns that mean nothing to steps -/

/-- An event that tells of the end of a run tells of no step. -/
theorem Event.phase?_of_isTerminal {e : Event} (h : e.isTerminal = true) : e.phase? = none := by
  cases e <;> first | rfl | exact nomatch h

/-- What is done means nothing to any step. -/
structure Deed.IsMute (d : Deed) : Prop where
  after : ∀ pages : Pages, pages.after d = pages
  mark? : ∀ pages s, d.mark? pages s = none
  tells : ∀ e, d.own = .answer (.publish e) () → e.phase? = none

theorem Deed.isMute_of_answer {r : Request} {a : r.Answer} (hd : d = .answer r a)
    (hr : ∀ e, r = .publish e → e.phase? = none) : d.IsMute := by
  subst hd
  cases r with
  | publish e =>
    have hp := hr e rfl
    refine ⟨fun pages => Pages.after_of_same ?_, fun pages s => ?_, ?_⟩
    · change (pages []).tell e = pages []
      rw [Page.tell, hp]
    · simp only [Deed.mark?, Deed.own, hp]
    · rintro e' ⟨⟩
      exact hp
  | _ =>
    refine ⟨fun _ => Pages.after_of_same rfl, fun _ _ => rfl, ?_⟩
    rintro e' ⟨⟩

/-- Nothing is out of order in what means nothing to any step. -/
theorem Deed.IsMute.orderly (h : d.IsMute) : d.Orderly pages where
  starts e _ _ hown hp := nomatch (h.tells e hown).symm.trans hp
  tells e _ _ _ hown hp _ := nomatch (h.tells e hown).symm.trans hp

theorem past_of_mute {l : List Stroke} (h : ∀ s ∈ l, s.deed.IsMute) : pages.past l = pages := by
  induction l with
  | nil => rfl
  | cons s l ih =>
    have hs := (h s List.mem_cons_self).after pages
    change Pages.past (pages.after s.deed) l = pages
    rw [hs]
    exact ih fun s' hs' => h s' (List.mem_cons_of_mem s hs')

namespace Passage

variable {config : Config} {k : Errand} {l : List Stroke} {x : Strand RunEnd}
  (P : Passage config k l x)

theorem mem_iff {s : Stroke} :
    s ∈ l ↔ s ∈ P.before ++ P.begin :: P.start :: (P.frame ++ P.settling) :=
  iff_of_eq (congrArg (s ∈ ·) P.turns)

theorem mem_cases {u : Stroke} (hu : u ∈ l) :
    u ∈ P.before ++ P.begin :: P.start :: P.frame ∨ u ∈ P.settling := by
  have hmem := P.mem_iff.mp hu
  simp only [List.mem_append, List.mem_cons] at hmem ⊢
  tauto

theorem before_cases {s : Stroke} (hs : s ∈ P.before) :
    s.deed = .answer .freshId P.job.run ∨ ∃ id found, s.deed = .answer (.lookup id) found :=
  prepared_cases P.prepared hs

/-- Before a run has been told to start, nothing is told of its steps. -/
theorem isMute_before {s : Stroke} (hs : s ∈ P.before ++ [P.begin, P.start]) : s.deed.IsMute := by
  rcases List.mem_append.mp hs with hs | hs
  · rcases P.before_cases hs with hd | ⟨id, found, hd⟩
    · exact Deed.isMute_of_answer hd fun _ h => nomatch h
    · exact Deed.isMute_of_answer hd fun _ h => nomatch h
  · rcases List.mem_pair.mp hs with rfl | rfl
    · refine Deed.isMute_of_answer P.begins fun e h => ?_
      rw [Job.beginning] at h
      cases h
    · refine Deed.isMute_of_answer P.starts ?_
      rintro e ⟨⟩
      rfl

theorem past_before (l₁ : List Stroke) :
    Pages.blank.past (P.before ++ P.begin :: P.start :: l₁) = Pages.blank.past l₁ := by
  have hmute : Pages.blank.past (P.before ++ [P.begin, P.start]) = Pages.blank :=
    past_of_mute fun _ hs => P.isMute_before hs
  have hsplit : P.before ++ P.begin :: P.start :: l₁ = P.before ++ [P.begin, P.start] ++ l₁ := by
    simp
  rw [hsplit, Pages.past_append, hmute]

/-- The identifier of the run was given to the call before the run began. -/
theorem exists_named :
    ∃ l₁ s l₂, P.before = l₁ ++ s :: l₂ ∧ s.deed = .answer .freshId P.job.run := by
  have hprep := P.prepared
  cases k with
  | executeDefinition definition options =>
    obtain ⟨s, hl, -, -, hs⟩ := hprep
    exact ⟨[], s, [], hl, hs⟩
  | execute id options =>
    obtain ⟨s, s', hl, -, -, hs'⟩ := hprep
    exact ⟨[s], s', [], hl, hs'⟩

/-- The entries of the log of the run stand under their numbers. -/
theorem indices : P.ended.record.steps.map StepRecord.index =
    List.range P.ended.record.steps.length := by
  have hframe : (P.job.frame config P.token).Keeps .free fun ended =>
      ended.record.steps.map StepRecord.index = List.range ended.record.steps.length := by
    rw [Job.frame, frameWithin_eq]
    refine Flow.Keeps.bind (fun p hp => ?_) _
      (recounts_frameFrom P.job.definition.steps [] _ P.job.env (.start P.job.identity))
    exact hp.indices
  have hended := keeps_ended P.strand (keeps_follows P.follows
    (fun _ _ => Contract.reckons_of_cancels trivial _) hframe).1 P.ends
  exact hended

theorem index_of_getElem? {j : Nat} {entry : StepRecord}
    (hj : P.ended.record.steps[j]? = some entry) : entry.index = j := by
  obtain ⟨hlt, rfl⟩ := List.getElem?_eq_some_iff.mp hj
  have hindex := congrArg (·[j]?) P.indices
  simpa [hlt] using hindex

/-- What a call asks for until its frame has ended. -/
theorem answered_cases {s : Stroke} {r : Request} {a : r.Answer}
    (hs : s ∈ P.before ++ P.begin :: P.start :: P.frame) (ha : s.deed.answered? = some ⟨r, a⟩) :
    (⟨r, a⟩ : (r : Request) × r.Answer) = ⟨.freshId, P.job.run⟩ ∨ (∃ id, r = .lookup id) ∨
      (∃ identity total env, r = .begin identity total env) ∨
        (s = P.start ∧ r = .publish P.job.started) ∨
          s ∈ P.frame ∧ r.IsOfFrame P.token config.maxDepth := by
  rcases List.mem_append.mp hs with hs | hs
  · rcases P.before_cases hs with hd | ⟨id, found, hd⟩
    · rw [hd] at ha
      exact .inl (Option.some.inj ha).symm
    · rw [hd] at ha
      cases ha
      exact .inr (.inl ⟨id, rfl⟩)
  · rcases List.mem_cons.mp hs with rfl | hs
    · have hbegin : P.begin.deed.answered? =
          some ⟨.begin P.job.identity P.job.definition.steps.length P.job.env, .ok P.token⟩ :=
        congrArg Deed.answered? P.begins
      cases hbegin.symm.trans ha
      exact .inr (.inr (.inl ⟨_, _, _, rfl⟩))
    · rcases List.mem_cons.mp hs with rfl | hs
      · rw [P.starts] at ha
        cases ha
        exact .inr (.inr (.inr (.inl ⟨rfl, rfl⟩)))
      · have hasks := (keeps_follows P.follows (fun _ _ => Contract.reckons_of_cancels trivial _)
          (keeps_frame config P.job P.token True)).2 s hs r a ha
        exact .inr (.inr (.inr (.inr ⟨hs, hasks⟩)))

/-- Until its frame has ended a run does not end. -/
theorem not_finish {s : Stroke} {o : RunState} {p : RunState × Nat}
    (hs : s ∈ P.before ++ P.begin :: P.start :: P.frame) :
    s.deed.answered? ≠ some ⟨.finish o, p⟩ := by
  intro ha
  rcases P.answered_cases hs ha with h | ⟨_, h⟩ | ⟨_, _, _, h⟩ | ⟨-, h⟩ | ⟨-, h⟩
  · cases h
  · cases h
  · cases h
  · cases h
  · exact h

/-- Each turn of the frame is a turn of what the turns before it have led to. -/
theorem exists_turn {l₁ l₂ : List Stroke} {s : Stroke} (hl : P.frame = l₁ ++ s :: l₂) :
    ∃ y c' z, Follows (.line (P.job.frame config P.token)) l₁ y ∧
      Turn s.control y s.deed c' z ∧ Follows z l₂ P.strand := by
  obtain ⟨y, hy, h⟩ := follows_append (hl ▸ P.follows)
  obtain ⟨c', z, u, hz⟩ := follows_cons h
  exact ⟨y, c', z, hy, u, hz⟩

/-- The host crashes in branches of the frame only. -/
theorem not_crash {l₁ l₂ : List Stroke} {s : Stroke} (hl : P.frame = l₁ ++ s :: l₂)
    (report : String) : s.deed ≠ .crash report := by
  obtain ⟨y, c', z, -, u, hz⟩ := P.exists_turn hl
  intro hd
  rw [hd] at u
  have hended := ended?_follows hz (ended?_of_crash u)
  rw [P.ends] at hended
  exact nomatch hended

/-- Nothing that the frame does tells of a cancellation if nothing is cancelled. -/
theorem untold (hk : ∀ s ∈ P.frame,
      (Contract.frame P.token config.maxDepth False).Reckons s.control)
    {l₁ l₂ : List Stroke} {s : Stroke} (hl : P.frame = l₁ ++ s :: l₂) :
    (∀ r a, s.deed.own = .answer r a → ¬ r.TellsCancelled a) ∧ s.deed.own ≠ .abandon := by
  obtain ⟨y, c', z, hy, t, -⟩ := P.exists_turn hl
  have hbefore : ∀ s ∈ l₁, (Contract.frame P.token config.maxDepth False).Reckons s.control :=
    fun s hs => hk s (hl ▸ List.mem_append_left _ hs)
  have hreckons := hk s (by rw [hl]; simp)
  obtain ⟨hkeeps, -⟩ := keeps_follows hy hbefore (keeps_frame config P.job P.token False)
  exact untold_of_keeps id t hreckons hkeeps

/-- The run is settled in three turns, of which the last tells how it has ended, and the call
returns then. -/
structure SettledBy (v f s : Stroke) (p : RunState × Nat) : Prop where
  turns : P.settling = [v, f, s]
  records : v.deed = .answer (.recordEnvironment P.ended.env) ()
  finishes : f.deed = .answer (.finish P.ended.outcome) p
  tells : s.deed = .answer (.publish (P.ended.verdict P.job.run p).1) ()
  returns : x = P.strand.graft (.line (.done (P.ended.verdict P.job.run p).2))

/-- When nothing of its frame goes on any more, nothing else goes on while the run is settled. -/
theorem exists_settling (hrest : P.strand.AtRest) (he : x.ended? ≠ none) :
    ∃ v f s p, P.SettledBy v f s p := by
  have hsettles := P.settles
  rw [settle_eq] at hsettles
  obtain ⟨v, l₁, _, hv, hvd, hsettles⟩ := follows_ask hrest hsettles not_false he
  obtain ⟨f, l₂, p, rfl, hfd, hsettles⟩ := follows_ask hrest hsettles not_false he
  obtain ⟨s, l₃, _, rfl, hsd, hsettles⟩ := follows_ask hrest hsettles not_false he
  obtain ⟨rfl, hx⟩ := follows_of_atRest (atRest_graft_done P.strand hrest) hsettles
  exact ⟨v, f, s, p, hv, hvd, hfd, hsd, hx⟩

/-- The address of the run of a call. -/
def base : Address := [.call P.job.run]

/-- What is open before the frame of the run. -/
def standing : Standing := ⟨P.base, [], []⟩

/-- The scope of the frame of the run. -/
def scope : Scope := ⟨P.job.identity, P.job.definition.onError, P.token, 0⟩

/-! ### Passages of which the frame is calm -/

/-- Nothing is cancelled in terms that are settled, and all that the frame does is calm. -/
structure IsCalm (t : Terms) : Prop where
  uncancelled : ¬ t.cancels
  settled : t.Settled
  home : t.home P.job.run P.base
  calm : ∀ l₁ s l₂, P.frame = l₁ ++ s :: l₂ → s.deed.Calm t (Pages.blank.past l₁)

namespace IsCalm

variable {P} {t : Terms} (h : P.IsCalm t)

include h

private theorem obeys_line : (Strand.line (P.job.frame config P.token)).Obeys t
    (t.Frames P.scope P.standing) P.base .blank := by
  have hosts : t.Hosts P.scope P.standing :=
    fun i => ⟨P.base, h.home, fun _ => ⟨[], i, rfl, fun _ h => nomatch h⟩⟩
  refine ⟨P.standing, ⟨rfl, trivial, rfl⟩, fun _ _ _ => rfl, ?_⟩
  exact obeys_frameWithin config.maxDepth P.job.definition P.scope P.job.env _ hosts

/-- The frame of the run opens and closes its steps in order. -/
theorem obeys : P.strand.Obeys t (t.Frames P.scope P.standing) P.base (Pages.blank.past P.frame) ∧
    Pages.blank.Stand t P.base P.frame :=
  stands_follows h.uncancelled h.settled P.follows h.calm h.obeys_line

/-- In the frame a run is given its identifier only while a step is open on the line. -/
theorem opened_of_named {l₁ l₂ : List Stroke} {s : Stroke} (hl : P.frame = l₁ ++ s :: l₂)
    {run : RunId} (hd : s.deed.named? = some run) :
    (Pages.blank.past l₁ s.deed.line).opened ≠ [] := by
  obtain ⟨y, c', z, hy, u, -⟩ := P.exists_turn hl
  have hcalm : ∀ τ₁ s' τ₂, l₁ = τ₁ ++ s' :: τ₂ → s'.deed.Calm t (Pages.blank.past τ₁) :=
    fun τ₁ s' τ₂ hτ => h.calm τ₁ s' (τ₂ ++ s :: l₂) (by rw [hl, hτ]; simp)
  have hobeys := (stands_follows h.uncancelled h.settled hy hcalm h.obeys_line).1
  exact Workflow.opened_of_named h.uncancelled u hobeys hd

/-- The frame has left nothing open and nothing that goes on. -/
theorem atRest : P.strand.AtRest ∧ Pages.Clear (Pages.blank.past P.frame) := by
  have hpost : ∀ a g, t.Frames P.scope P.standing a g → g.opened = [] :=
    fun _ _ hg => (hg.2.1 h.uncancelled).opened
  exact atRest_of_ended h.uncancelled hpost P.strand h.obeys.1 P.ends

theorem abides : FrameEnd.Abides t.cancels P.ended := by
  obtain ⟨_, -, habides, -⟩ := fits_of_ended P.strand h.obeys.1 P.ends
  exact habides

/-- The events that have closed the steps of the run are those that its log stands for. -/
theorem closed_eq : (Pages.blank.past P.frame []).closed =
    P.ended.record.steps.map (StepRecord.closing P.job.run) := by
  obtain ⟨g, hg, -, hlogged⟩ := fits_of_ended P.strand h.obeys.1 P.ends
  rw [hg.page]
  exact hlogged.2 h.uncancelled rfl

end IsCalm

/-! ### Passages that end in order -/

namespace SettledBy

variable {P} {v f s : Stroke} {p : RunState × Nat} (h : P.SettledBy v f s p)

include h

theorem turns_eq : l = P.before ++ P.begin :: P.start :: P.frame ++ v :: f :: [s] := by
  have hl : l = P.before ++ P.begin :: P.start :: (P.frame ++ [v, f, s]) := h.turns ▸ P.turns
  simpa using hl

private theorem mem_settling {u : Stroke} (hu : u ∈ P.settling) : u = v ∨ u = f ∨ u = s := by
  rw [h.turns] at hu
  simpa using hu

theorem isMute_settling {u : Stroke} (hu : u ∈ P.settling) : u.deed.IsMute := by
  rcases h.mem_settling hu with rfl | rfl | rfl
  · exact Deed.isMute_of_answer h.records fun _ h => nomatch h
  · exact Deed.isMute_of_answer h.finishes fun _ h => nomatch h
  · refine Deed.isMute_of_answer h.tells ?_
    rintro e ⟨⟩
    exact Event.phase?_of_isTerminal (FrameEnd.verdict_isTerminal ..)

/-- What the call does means nothing to steps, apart from what its frame does. -/
theorem isMute_or_mem {u : Stroke} (hu : u ∈ l) : u.deed.IsMute ∨ u ∈ P.frame := by
  rcases P.mem_cases hu with hu | hu
  · by_cases hframe : u ∈ P.frame
    · exact .inr hframe
    · refine .inl (P.isMute_before ?_)
      simp only [List.mem_append, List.mem_cons, List.not_mem_nil, or_false] at hu ⊢
      tauto
  · exact .inl (h.isMute_settling hu)

/-- What is answered while the run is settled. -/
private theorem answered_settling {u : Stroke} {r : Request} {a : r.Answer} (hu : u ∈ P.settling)
    (ha : u.deed.answered? = some ⟨r, a⟩) : r = .recordEnvironment P.ended.env ∨
      r = .finish P.ended.outcome ∨ u = s ∧ r = .publish (P.ended.verdict P.job.run p).1 := by
  rcases h.mem_settling hu with rfl | rfl | rfl
  · rw [h.records] at ha
    cases ha
    exact .inl rfl
  · rw [h.finishes] at ha
    cases ha
    exact .inr (.inl rfl)
  · rw [h.tells] at ha
    cases ha
    exact .inr (.inr ⟨rfl, rfl⟩)

/-- What the call publishes: that its run has started, how it has ended, and what its frame tells.
-/
theorem publish_cases {u : Stroke} {e : Event} (hu : u ∈ l)
    (ha : u.deed.answered? = some ⟨.publish e, ()⟩) :
    u = P.start ∧ e = P.job.started ∨ u = s ∧ e = (P.ended.verdict P.job.run p).1 ∨
      u ∈ P.frame := by
  rcases P.mem_cases hu with hu | hu
  · rcases P.answered_cases hu ha with hr | ⟨_, hr⟩ | ⟨_, _, _, hr⟩ | ⟨hstart, hr⟩ | ⟨hframe, -⟩
    · cases hr
    · cases hr
    · cases hr
    · exact .inl ⟨hstart, Request.publish.inj hr⟩
    · exact .inr (.inr hframe)
  · rcases h.answered_settling hu ha with hr | hr | ⟨hend, hr⟩
    · cases hr
    · cases hr
    · exact .inr (.inl ⟨hend, Request.publish.inj hr⟩)

/-- The identifiers that the call is given: that of its run, and those that its frame asks for. -/
theorem named_cases {u : Stroke} {run : RunId} (hu : u ∈ l)
    (ha : u.deed.answered? = some ⟨.freshId, run⟩) : run = P.job.run ∨ u ∈ P.frame := by
  rcases P.mem_cases hu with hu | hu
  · rcases P.answered_cases hu ha with hr | ⟨_, hr⟩ | ⟨_, _, _, hr⟩ | ⟨-, hr⟩ | ⟨hframe, -⟩
    · cases hr
      exact .inl rfl
    · cases hr
    · cases hr
    · cases hr
    · exact .inr hframe
  · rcases h.answered_settling hu ha with hr | hr | ⟨-, hr⟩
    · cases hr
    · cases hr
    · cases hr

/-- The turns that settle a run leave the pages as its frame has left them. -/
theorem past_eq : Pages.blank.past l = Pages.blank.past P.frame := by
  have hl : Pages.blank.past l =
      Pages.blank.past (P.before ++ P.begin :: P.start :: (P.frame ++ P.settling)) :=
    congrArg Pages.blank.past P.turns
  rw [hl, P.past_before, Pages.past_append, past_of_mute fun _ hu => h.isMute_settling hu]

end SettledBy

end Passage

end Workflow
