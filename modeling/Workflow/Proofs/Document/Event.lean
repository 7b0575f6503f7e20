import Workflow.Event.Document
import Workflow.Proofs.Document.Step
import Workflow.Proofs.Document.Text

/-!
# Events read back from their documents

An event is written as a tree that reads as this very event, if the values that it carries read back
from theirs. The tree names the kind of the event, its run and, but for the first event of a run,
the top-level step. The text of the tree reads as the event as well, if it does not nest deeper than
the reader goes.

## Main definitions

* `Workflow.Event.values` — the values that an event carries.
* `Workflow.Event.Survives` — an event reads back from its tree, which tells what it is about.

## Main results

* `Workflow.RunId.ofText?_text` — the written form of an identifier reads as the identifier.
* `Workflow.Event.survives` — events whose values read back survive.
-/

namespace Workflow

/-! ### Identifiers of runs -/

namespace RunId

theorem hexValue?_hexDigit : ∀ n < 16, hexValue? (hexDigit n) = some n := by decide

theorem length_hexDigits (width n : Nat) : (hexDigits width n).length = width := by
  induction width generalizing n with
  | zero => rfl
  | succ width ih => rw [hexDigits, List.length_append, ih, List.length_singleton]

theorem hexNumber?_concat (cs : List Char) (c : Char) : hexNumber? (cs ++ [c]) =
    (hexNumber? cs).bind fun n => (hexValue? c).map fun d => 16 * n + d := by
  rw [hexNumber?, List.foldl_append, List.foldl_cons, List.foldl_nil, ← hexNumber?]
  cases hexNumber? cs <;> cases hexValue? c <;> rfl

/-- The last digits of a number write what they leave of it. -/
theorem hexNumber?_hexDigits (width n : Nat) :
    hexNumber? (hexDigits width n) = some (n % 16 ^ width) := by
  induction width generalizing n with
  | zero => rw [hexDigits, Nat.pow_zero, Nat.mod_one]; rfl
  | succ width ih =>
    have hdigit := hexValue?_hexDigit (n % 16) (Nat.mod_lt n (by decide))
    rw [hexDigits, hexNumber?_concat, ih, hdigit, Option.bind_some, Option.map_some,
      Nat.pow_succ', Nat.mod_mul, Nat.add_comm]

theorem length_hyphenate : (lengths : List Nat) → (cs : List Char) →
    (hyphenate lengths cs).length = cs.length + (lengths.length - 1)
  | [], _ => rfl
  | [_], _ => rfl
  | n :: m :: rest, cs => by
    have hrest := length_hyphenate (m :: rest) (cs.drop n)
    rw [hyphenate, List.length_append, List.length_cons, hrest, List.length_take, List.length_drop]
    · simp only [List.length_cons]
      omega
    · exact nofun

/-- The hyphens are taken away where they were put, if there are digits enough. -/
theorem unhyphenate?_hyphenate : (lengths : List Nat) → (cs : List Char) →
    lengths.dropLast.sum ≤ cs.length → unhyphenate? lengths (hyphenate lengths cs) = some cs
  | [], _, _ => rfl
  | [_], _, _ => rfl
  | n :: m :: rest, cs, h => by
    rw [List.dropLast_cons_cons, List.sum_cons] at h
    have hlen : (cs.take n).length = n := List.length_take_of_le (by omega)
    have hrest := unhyphenate?_hyphenate (m :: rest) (cs.drop n) (by rw [List.length_drop]; omega)
    rw [hyphenate, unhyphenate?, List.drop_left' hlen, List.take_left' hlen]
    · simp [hrest]
    all_goals exact nofun

/-- The written form of an identifier reads as the identifier. -/
theorem ofText?_text (r : RunId) : ofText? r.text = some r := by
  have hlen := length_hexDigits 32 r.bits.toNat
  have hchars : r.text.toList = hyphenate groups (hexDigits 32 r.bits.toNat) := by
    rw [text, String.toList_ofList]
  have hlength : r.text.toList.length = 36 := by
    rw [hchars, length_hyphenate, hlen]
    rfl
  have hread : unhyphenate? groups r.text.toList = some (hexDigits 32 r.bits.toNat) := by
    rw [hchars]
    exact unhyphenate?_hyphenate _ _ (by rw [hlen]; decide)
  have hnumber : r.bits.toNat % 16 ^ 32 = r.bits.toNat := Nat.mod_eq_of_lt r.bits.isLt
  simp only [ofText?, hlength]
  rw [ofHyphenated?, hread, Option.bind_some, ofDigits?, if_pos hlen, hexNumber?_hexDigits,
    hnumber, Option.map_some, ofNat, BitVec.ofNat_toNat, BitVec.setWidth_eq]

end RunId

/-! ### Fields -/

theorem Read.natural?_integer (n : Nat) : natural? (.integer n) = some n := by
  simp [natural?]

namespace Event

theorem level?_text (l : LogLevel) : level? (.text l.text) = some l := by
  cases l <;> rfl

/-- The values that an event carries. -/
def values : Event → List Value
  | stepCompleted _ _ _ result _ => [result]
  | completed _ _ _ _ results => results
  | _ => []

theorem ofItems_toItems {vs : List Value} (h : ∀ v ∈ vs, v.ReadsBack) :
    Value.ofItems (Value.toItems vs) = vs := by
  induction vs with
  | nil => rfl
  | cons v vs ih =>
    obtain ⟨hv, hvs⟩ := List.forall_mem_cons.mp h
    rw [Value.toItems, Value.ofItems, hv, ih hvs]

/-- The kind of an event is found among the kinds. -/
theorem layout?_kindName (e : Event) :
    ∃ names, layout? (.text e.kindName) = some (e.kindName, names) := by
  cases e <;> exact ⟨_, rfl⟩

/-- The trees of the two counts are left open: closed ones the kernel would compare with the bound
of a count, which it would unfold. -/
private theorem ofFields?_retrying (r : RunId) (p : EventPlace) (delayMs : Nat) (error : String)
    {attempt maxRetries : UInt32} {first most : Json} (hattempt : Read.uint32? first = some attempt)
    (hmost : Read.uint32? most = some maxRetries) :
    ofFields? "retrying"
      (("type", .text "retrying") :: ("executionId", .text r.text) :: (p.fields ++
        [("attempt", first), ("maxRetries", most), ("delayMs", .integer delayMs),
          ("error", .text error)])) =
      some (retrying r p attempt maxRetries delayMs error) := by
  simp [ofFields?, EventPlace.fields, Bindings.get?, Json.text?, r.ofText?_text,
    Read.natural?_integer, hattempt, hmost]

/-- The fields of an event are read as the event. -/
theorem ofFields?_details : (e : Event) → (∀ v ∈ e.values, v.ReadsBack) →
    ofFields? e.kindName
      (("type", .text e.kindName) :: ("executionId", .text e.run.text) :: e.details) = some e
  | started r _ _, _ => by
    simp [ofFields?, kindName, run, details, Bindings.get?, Json.text?, r.ofText?_text,
      Read.natural?_integer]
  | stepStarted r _ _ _, _ => by
    simp [ofFields?, kindName, run, details, EventPlace.fields, Bindings.get?, Json.text?,
      r.ofText?_text, Read.natural?_integer]
  | stepCompleted r _ _ result _, h => by
    have hresult : Value.ofJson result.toJson = result := h result List.mem_cons_self
    simp [ofFields?, kindName, run, details, EventPlace.fields, Bindings.get?, Json.text?,
      r.ofText?_text, Read.natural?_integer, hresult]
  | stepFailed r _ _ _, _ => by
    simp [ofFields?, kindName, run, details, EventPlace.fields, Bindings.get?, Json.text?,
      r.ofText?_text, Read.natural?_integer]
  | retrying r p attempt maxRetries delayMs error, _ =>
    ofFields?_retrying r p delayMs error (Read.uint32?_toNat attempt)
      (Read.uint32?_toNat maxRetries)
  | paused r _, _ => by
    simp [ofFields?, kindName, run, details, Bindings.get?, Json.text?, r.ofText?_text,
      Read.natural?_integer]
  | resumed r _, _ => by
    simp [ofFields?, kindName, run, details, Bindings.get?, Json.text?, r.ofText?_text,
      Read.natural?_integer]
  | cancelled r _, _ => by
    simp [ofFields?, kindName, run, details, Bindings.get?, Json.text?, r.ofText?_text,
      Read.natural?_integer]
  | completed r _ _ _ results, h => by
    have hresults : Value.ofItems (Value.toItems results) = results := ofItems_toItems h
    simp [ofFields?, kindName, run, details, Bindings.get?, Json.text?, r.ofText?_text,
      Read.natural?_integer, values?, Json.items?, hresults]
  | failed r _ _, _ => by
    simp [ofFields?, kindName, run, details, Bindings.get?, Json.text?, r.ofText?_text,
      Read.natural?_integer]
  | scriptLog r _ _ _, _ => by
    simp [ofFields?, kindName, run, details, EventPlace.fields, Bindings.get?, Json.text?,
      r.ofText?_text, Read.natural?_integer, level?_text]

/-- The tree of an event is read as the event. -/
theorem ofJson?_toJson {e : Event} (h : ∀ v ∈ e.values, v.ReadsBack) :
    ofJson? e.toJson = some e := by
  obtain ⟨names, hlayout⟩ := layout?_kindName e
  have hfields := ofFields?_details e h
  rw [toJson, ofJson?]
  simp [Bindings.get?, hlayout, hfields]

/-- All events but the first of a run give the index of the top-level step. -/
theorem field?_stepIndex {e : Event} (h : ∀ r workflowId n, e ≠ started r workflowId n) :
    e.toJson.field? "stepIndex" = some (.integer e.stepIndex) := by
  cases e with
  | started r workflowId n => exact absurd rfl (h r workflowId n)
  | _ => simp [toJson, Json.field?, details, EventPlace.fields, Bindings.get?, stepIndex]

/-! ### Texts -/

/-- The numbers that an event gives without a sign, but for the two counts of retries. -/
def naturals : Event → List Nat
  | started _ _ totalSteps => [totalSteps]
  | stepStarted _ p _ _ => [p.index]
  | stepCompleted _ p _ _ durationMs => [p.index, durationMs]
  | stepFailed _ p _ _ => [p.index]
  | retrying _ p _ _ delayMs _ => [p.index, delayMs]
  | paused _ i => [i]
  | resumed _ i => [i]
  | cancelled _ i => [i]
  | completed _ i durationMs stepsCompleted _ => [i, durationMs, stepsCompleted]
  | failed _ i _ => [i]
  | scriptLog _ p _ _ => [p.index]

/-- An event can be written as a text that is read back: its numbers have 64 bits, and of the values
that it carries no record repeats a key and the numbers are read back from their texts. -/
structure IsPortable (e : Event) : Prop where
  naturals : ∀ n ∈ e.naturals, n < 2 ^ 64
  wellKeyed : ∀ v ∈ e.values, v.IsWellKeyed
  numbers : ∀ v ∈ e.values, ∀ x ∈ v.floats, Value.NumberReadsBack x
  shallow : e.toJson.depth ≤ Json.maxDepth

theorem areLegible_toItems {vs : List Value} (h : ∀ v ∈ vs, v.toJson.IsLegible) :
    Json.AreLegible (Value.toItems vs) := by
  induction vs with
  | nil => trivial
  | cons v vs ih =>
    obtain ⟨hv, hvs⟩ := List.forall_mem_cons.mp h
    exact ⟨hv, ih hvs⟩

theorem isLegible_toJson {e : Event} (h : e.IsPortable) : e.toJson.IsLegible := by
  have hnaturals := h.naturals
  have hvalues (v : Value) (hv : v ∈ e.values) : v.toJson.IsLegible :=
    v.isLegible_toJson (h.wellKeyed v hv) (h.numbers v hv)
  cases e with
  | retrying r p attempt maxRetries delayMs error =>
    have hattempt : attempt.toNat < 2 ^ 64 := attempt.toNat_lt.trans (by decide)
    have hmost : maxRetries.toNat < 2 ^ 64 := maxRetries.toNat_lt.trans (by decide)
    simp_all [naturals, toJson, details, EventPlace.fields, Json.IsLegible, Json.HasLegibleFields,
      Bindings.keys]
  | completed r i durationMs stepsCompleted results =>
    have hresults : Json.AreLegible (Value.toItems results) := areLegible_toItems hvalues
    simp_all [naturals, toJson, details, Json.IsLegible, Json.HasLegibleFields, Bindings.keys]
  | _ =>
    simp_all [naturals, values, toJson, details, EventPlace.fields, Json.IsLegible,
      Json.HasLegibleFields, Bindings.keys]

/-! ### Events -/

/-- An event survives its document. -/
structure Survives (e : Event) : Prop where
  /-- The tree reads as the event. -/
  decoded : ofJson? e.toJson = some e
  /-- The tree names the kind. -/
  tagged : e.toJson.field? "type" = some (.text e.kindName)
  /-- It names the run, by the text that reads as its identifier. -/
  identified : e.toJson.field? "executionId" = some (.text e.run.text) ∧
    RunId.ofText? e.run.text = some e.run
  /-- It gives the index of the top-level step, unless the run begins. -/
  placed : (∀ r workflowId n, e ≠ started r workflowId n) →
    e.toJson.field? "stepIndex" = some (.integer e.stepIndex)
  /-- The text of the tree reads as the event as well. -/
  told : e.IsPortable → (Json.parse e.toJson.compact).bind ofJson? = some e

/-- Every event survives whose values read back. -/
theorem survives {e : Event} (h : ∀ v ∈ e.values, v.ReadsBack) : e.Survives where
  decoded := ofJson?_toJson h
  tagged := rfl
  identified := ⟨rfl, e.run.ofText?_text⟩
  placed := field?_stepIndex
  told hportable := by
    rw [Json.parse_compact (isLegible_toJson hportable) hportable.shallow, Option.bind_some,
      ofJson?_toJson h]

/-- A run has ended with a record and a handle. -/
theorem survives_completed :
    (completed (.ofNat 7) 2 1500 3
      [.record [("total", .int 12)], .handle ⟨"tab", "17"⟩]).Survives := by
  refine survives fun v hv => (Value.readsBack_iff v).mpr ?_
  simp only [values, List.mem_cons, List.not_mem_nil, or_false] at hv
  rcases hv with rfl | rfl
  · refine ⟨?_, trivial, trivial⟩
    rintro ⟨v, h, hfields, -⟩
    simp [Value.handleKey] at hfields
  · trivial

end Event

end Workflow
