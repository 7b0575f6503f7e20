import Workflow.Value.Basic

/-!
# Keys that are bound once

Writing keeps the keys of bindings apart, so no key is bound twice in the variables of a run or in a
record that was built by writing. What such bindings hold is what their keys read as.

## Main definitions

* `Workflow.Value.IsWellKeyed` — no record within a value binds a key twice.

## Main results

* `Workflow.Bindings.nodup_keys_set` — a write keeps keys apart.
* `Workflow.Bindings.ofList_of_nodup` — entries that repeat no key are bound as they stand.
* `Workflow.Bindings.get?_of_mem` — what stands beside a key that is bound once is what it reads as.
* `Workflow.Bindings.get?_setAll`, `Workflow.Bindings.keys_setAll` — what many writes leave.
* `Workflow.Bindings.eq_of_keys_eq`, `Workflow.Bindings.perm_of_get?_eq` — bindings are told by what
  their keys read as.
-/

namespace Workflow

namespace Bindings

variable {α : Type} {b : Bindings α} {key : String} {value : α}

theorem mem_set {p : String × α} (h : p ∈ b.set key value) : p = (key, value) ∨ p ∈ b := by
  induction b with
  | nil => exact .inl (List.mem_singleton.mp h)
  | cons e rest ih =>
    obtain ⟨k, v⟩ := e
    rw [set] at h
    split at h
    · next hk => exact hk ▸ (List.mem_cons.mp h).imp_right (List.mem_cons_of_mem _)
    · rcases List.mem_cons.mp h with rfl | h
      · exact .inr List.mem_cons_self
      · exact (ih h).imp_right (List.mem_cons_of_mem _)

/-- A write keeps keys apart. -/
theorem nodup_keys_set (h : b.keys.Nodup) : (b.set key value).keys.Nodup := by
  by_cases hk : key ∈ b.keys
  · rwa [keys_set_of_mem b value hk]
  · rw [keys_set_of_not_mem b value hk]
    simpa [List.nodup_append, h] using fun k hmem => ne_of_mem_of_not_mem hmem hk

theorem mem_of_get? (h : b.get? key = some value) : (key, value) ∈ b := by
  induction b with
  | nil => exact nomatch h
  | cons e rest ih =>
    obtain ⟨k, v⟩ := e
    rw [get?] at h
    split at h
    · next hk =>
      cases h
      exact hk ▸ List.mem_cons_self
    · exact List.mem_cons_of_mem _ (ih h)

/-- What is bound to a key that is bound once is what the key reads as. -/
theorem get?_of_mem (hb : b.keys.Nodup) (h : (key, value) ∈ b) : b.get? key = some value := by
  induction b with
  | nil => exact nomatch h
  | cons e rest ih =>
    obtain ⟨k, v⟩ := e
    obtain ⟨hk, hrest⟩ := List.nodup_cons.mp hb
    rw [get?]
    rcases List.mem_cons.mp h with heq | h
    · cases heq
      exact if_pos rfl
    · rw [if_neg, ih hrest h]
      rintro rfl
      exact hk (List.mem_map.mpr ⟨(k, value), h, rfl⟩)

theorem get?_eq_none_iff : b.get? key = none ↔ key ∉ b.keys := by
  rw [← contains_iff_mem_keys, contains, Option.not_isSome_iff_eq_none]

theorem set_of_not_mem (h : key ∉ b.keys) : b.set key value = b ++ [(key, value)] := by
  induction b with
  | nil => rfl
  | cons e rest ih =>
    simp only [keys, List.map_cons, List.mem_cons, not_or] at h
    rw [set, if_neg (Ne.symm h.1), ih h.2, List.cons_append]

theorem setAll_of_nodup {entries : Bindings α} (h : (b ++ entries).keys.Nodup) :
    setAll b entries = b ++ entries := by
  induction entries generalizing b with
  | nil => exact (List.append_nil b).symm
  | cons e rest ih =>
    have hkey : e.1 ∉ b.keys := by
      rw [keys, List.map_append, List.nodup_append] at h
      exact fun hmem => h.2.2 e.1 hmem e.1 List.mem_cons_self rfl
    change setAll (b.set e.1 e.2) rest = _
    rw [set_of_not_mem hkey, ih (by rwa [List.append_assoc]), List.append_assoc]
    rfl

/-- Entries that repeat no key are bound as they stand. -/
theorem ofList_of_nodup {entries : Bindings α} (h : entries.keys.Nodup) :
    ofList entries = entries :=
  setAll_of_nodup (b := []) h

/-- Of entries with keys of their own, those that are written hide those that were there. -/
theorem get?_setAll {entries : Bindings α} (h : entries.keys.Nodup) (b : Bindings α)
    (key : String) : (b.setAll entries).get? key = (entries.get? key).or (b.get? key) := by
  induction entries generalizing b with
  | nil => rfl
  | cons entry entries ih =>
    obtain ⟨k, v⟩ := entry
    obtain ⟨hk, hrest⟩ := List.nodup_cons.mp h
    have hset : b.setAll ((k, v) :: entries) = (b.set k v).setAll entries := rfl
    rw [hset, ih hrest, get?]
    split
    · rename_i heq
      subst heq
      rw [get?_eq_none_iff.mpr hk, get?_set_self]
      rfl
    · rename_i hne
      rw [get?_set_of_ne b v (Ne.symm hne)]

/-- Writing entries keeps keys apart. -/
theorem nodup_keys_setAll {entries : Bindings α} (h : b.keys.Nodup) :
    (b.setAll entries).keys.Nodup := by
  induction entries generalizing b with
  | nil => exact h
  | cons entry entries ih => exact ih (nodup_keys_set h)

/-- Writing entries moves nothing; those with new keys go to the end in their order. -/
theorem keys_setAll {entries : Bindings α} (h : entries.keys.Nodup) (b : Bindings α) :
    (b.setAll entries).keys = b.keys ++ entries.keys.filter fun k => k ∉ b.keys := by
  induction entries generalizing b with
  | nil => exact (List.append_nil _).symm
  | cons entry entries ih =>
    obtain ⟨k, v⟩ := entry
    obtain ⟨hk, hrest⟩ := List.nodup_cons.mp h
    have hset : b.setAll ((k, v) :: entries) = (b.set k v).setAll entries := rfl
    have hkeys : keys ((k, v) :: entries) = k :: keys entries := rfl
    rw [hset, ih hrest, hkeys]
    by_cases hmem : k ∈ b.keys
    · rw [keys_set_of_mem b v hmem, List.filter_cons_of_neg (by simpa using hmem)]
    · have hnew : (keys entries).filter (fun k' => k' ∉ b.keys ++ [k]) =
          (keys entries).filter fun k' => k' ∉ b.keys := by
        refine List.filter_congr fun k' hk' => ?_
        have hne : k' ≠ k := ne_of_mem_of_not_mem hk' hk
        simp [hne]
      rw [keys_set_of_not_mem b v hmem, hnew, List.filter_cons_of_pos (by simpa using hmem),
        List.append_assoc, List.singleton_append]

/-! ### Bindings with the same keys and values -/

theorem get?_filter (p : String → Bool) (b : Bindings α) (key : String) :
    Bindings.get? (b.filter fun e => p e.1) key = if p key then b.get? key else none := by
  induction b with
  | nil => simp
  | cons entry rest ih =>
    obtain ⟨k, v⟩ := entry
    rw [List.filter_cons, get?]
    by_cases hk : k = key
    · subst hk
      by_cases hp : p k
      · simp [hp, get?]
      · simpa [hp] using ih
    · by_cases hp : p k <;> simp [hp, get?, hk, ih]

theorem keys_filter (p : String → Bool) (b : Bindings α) :
    Bindings.keys (b.filter fun e => p e.1) = b.keys.filter p :=
  (List.filter_map ..).symm

theorem nodup_of_nodup_keys (h : b.keys.Nodup) : b.Nodup := List.Pairwise.of_map _ (by simp_all) h

/-- Bindings with the same keys in the same order and the same values are the same. -/
theorem eq_of_keys_eq : {b b' : Bindings α} → b.keys = b'.keys → b.keys.Nodup →
    (∀ key, b.get? key = b'.get? key) → b = b'
  | [], [], _, _, _ => rfl
  | [], _ :: _, hkeys, _, _ => nomatch hkeys
  | _ :: _, [], hkeys, _, _ => nomatch hkeys
  | (k, v) :: rest, (k', v') :: rest', hkeys, h, hget => by
    obtain ⟨rfl, hkeys'⟩ : k = k' ∧ keys rest = keys rest' := List.cons.inj hkeys
    obtain ⟨hk, hrest⟩ := List.nodup_cons.mp h
    have hv : v = v' := by simpa [get?] using hget k
    have hget' (key : String) : get? rest key = get? rest' key := by
      by_cases hkey : k = key
      · subst hkey
        rw [get?_eq_none_iff.mpr hk, get?_eq_none_iff.mpr (hkeys' ▸ hk : k ∉ keys rest')]
      · simpa [get?, hkey] using hget key
    rw [hv, eq_of_keys_eq hkeys' hrest hget']

/-- Bindings with the same values under their keys have the same entries. -/
theorem perm_of_get?_eq {b b' : Bindings α} (h : b.keys.Nodup) (h' : b'.keys.Nodup)
    (hget : ∀ key, b.get? key = b'.get? key) : b.Perm b' := by
  rw [List.perm_ext_iff_of_nodup (nodup_of_nodup_keys h) (nodup_of_nodup_keys h')]
  rintro ⟨k, v⟩
  constructor
  · exact fun hmem => mem_of_get? ((hget k).symm.trans (get?_of_mem h hmem))
  · exact fun hmem => mem_of_get? ((hget k).trans (get?_of_mem h' hmem))

end Bindings

namespace Value

mutual

/-- No record within the value binds a key twice. -/
def IsWellKeyed : Value → Prop
  | list items => AreWellKeyed items
  | record fields => (Bindings.keys fields).Nodup ∧ HasWellKeyedFields fields
  | _ => True

/-- Every value of a list is well keyed. -/
def AreWellKeyed : List Value → Prop
  | [] => True
  | v :: rest => v.IsWellKeyed ∧ AreWellKeyed rest

/-- Every field of a record is well keyed. -/
def HasWellKeyedFields : Bindings Value → Prop
  | [] => True
  | (_, v) :: rest => v.IsWellKeyed ∧ HasWellKeyedFields rest

end

theorem hasWellKeyedFields_iff : {fields : Bindings Value} →
    (HasWellKeyedFields fields ↔ ∀ e ∈ fields, e.2.IsWellKeyed)
  | [] => by simp [HasWellKeyedFields]
  | (_, _) :: rest => by
    rw [HasWellKeyedFields, @hasWellKeyedFields_iff rest, List.forall_mem_cons]

/-- The tree of a record has its keys. -/
theorem keys_toFields : (fields : Bindings Value) →
    Bindings.keys (toFields fields) = Bindings.keys fields
  | [] => rfl
  | (k, _) :: rest => congrArg (k :: ·) (keys_toFields rest)

end Value

end Workflow
