import Mathlib.Data.List.Nodup
import Workflow.Environment
import Workflow.Proofs.Document.Keys

/-!
# Variables that a script hands back

A script hands back all variables at once. What it has left out is removed, except for the keys of
the engine, which stay; what it hands back is written. Both happen to the variables where they
stand: those that stay keep their order, and new ones follow in the order in which they are handed
back. So a script that changes nothing leaves the environment as it was, in whatever order it hands
the variables back, and handing back the same variables once more changes nothing.

## Main definitions

* `Workflow.Environment.Merges` — what becomes of an environment to which variables are handed back.

## Main results

* `Workflow.Environment.get?_replaceUserVariables` — what every key reads as.
* `Workflow.Environment.keys_replaceUserVariables` — the keys in their order.
* `Workflow.Environment.merges` — what becomes of every environment.
-/

namespace Workflow.Environment

variable {env : Environment} {vars : Bindings Value} {key : String}

/-! ### What every key reads as -/

/-- A key that is handed back reads as the value handed back, and any other one as before if it is
managed by the engine. -/
theorem get?_replaceUserVariables (hvars : (Bindings.keys vars).Nodup) (key : String) :
    (env.replaceUserVariables vars).get? key =
      (Bindings.get? vars key).or (if Key.isReserved key then env.get? key else none) := by
  have hkept := Bindings.get?_filter (fun k => Key.isReserved k || Bindings.contains vars k)
    env.vars key
  rw [get?, replaceUserVariables, Bindings.get?_setAll hvars, hkept]
  cases hget : Bindings.get? vars key with
  | some value => rfl
  | none => simp [Bindings.contains, hget, get?]

/-- A key that reads as something is managed by the engine or was handed back. -/
theorem mem_keys_of_replaceUserVariables (hvars : (Bindings.keys vars).Nodup)
    (h : key ∈ Bindings.keys (env.replaceUserVariables vars).vars) :
    Key.isReserved key = true ∨ key ∈ Bindings.keys vars := by
  by_contra hneither
  obtain ⟨hreserved, hkey⟩ := not_or.mp hneither
  have hnone : (env.replaceUserVariables vars).get? key = none := by
    rw [get?_replaceUserVariables hvars, Bindings.get?_eq_none_iff.mpr hkey, if_neg hreserved]
    rfl
  exact Bindings.get?_eq_none_iff.mp hnone h

/-! ### The order of keys -/

theorem nodup_keys_replaceUserVariables (henv : (Bindings.keys env.vars).Nodup) :
    (Bindings.keys (env.replaceUserVariables vars).vars).Nodup := by
  refine Bindings.nodup_keys_setAll ?_
  rw [Bindings.keys_filter fun k => Key.isReserved k || Bindings.contains vars k]
  exact henv.filter _

/-- The keys that stay are in the order in which they were, and the new ones follow in the order in
which they are handed back. -/
theorem keys_replaceUserVariables (hvars : (Bindings.keys vars).Nodup) :
    Bindings.keys (env.replaceUserVariables vars).vars =
      (Bindings.keys env.vars).filter (fun k => Key.isReserved k || k ∈ Bindings.keys vars) ++
        (Bindings.keys vars).filter fun k => k ∉ Bindings.keys env.vars := by
  have hstays (k : String) : (Key.isReserved k || Bindings.contains vars k) =
      (Key.isReserved k || decide (k ∈ Bindings.keys vars)) := by
    rw [Bool.eq_iff_iff]
    simp [Bindings.contains_iff_mem_keys]
  rw [replaceUserVariables, Bindings.keys_setAll hvars,
    Bindings.keys_filter fun k => Key.isReserved k || Bindings.contains vars k]
  congr 1
  · exact List.filter_congr fun k _ => hstays k
  · -- A key that is handed back stays, so it is new just if it was not there.
    refine List.filter_congr fun k hk => ?_
    simp [List.mem_filter, hstays, hk]

/-! ### Handing back what is there -/

/-- Nothing changes if all that is handed back is there already and no variable of the user is left
out. -/
theorem replaceUserVariables_eq_self (henv : (Bindings.keys env.vars).Nodup)
    (hvars : (Bindings.keys vars).Nodup)
    (hthere : ∀ key value, Bindings.get? vars key = some value → env.get? key = some value)
    (hall : ∀ key ∈ Bindings.keys env.vars, Key.isReserved key = true ∨ key ∈ Bindings.keys vars) :
    env.replaceUserVariables vars = env := by
  have hsubset : ∀ key ∈ Bindings.keys vars, key ∈ Bindings.keys env.vars := by
    intro key hkey
    by_contra hnone
    cases hget : Bindings.get? vars key with
    | none => exact Bindings.get?_eq_none_iff.mp hget hkey
    | some value =>
      exact nomatch (hthere key value hget).symm.trans (Bindings.get?_eq_none_iff.mpr hnone)
  have hkeys : Bindings.keys (env.replaceUserVariables vars).vars = Bindings.keys env.vars := by
    rw [keys_replaceUserVariables hvars, List.filter_eq_self.mpr, List.filter_eq_nil_iff.mpr,
      List.append_nil]
    · intro key hkey
      simpa using hsubset key hkey
    · intro key hkey
      simpa using hall key hkey
  have hget (key : String) : (env.replaceUserVariables vars).get? key = env.get? key := by
    rw [get?_replaceUserVariables hvars]
    cases hget : Bindings.get? vars key with
    | some value => exact (hthere key value hget).symm
    | none =>
      rw [Option.none_or]
      split
      · rfl
      · rename_i hreserved
        refine (Bindings.get?_eq_none_iff.mpr fun hkey => ?_).symm
        exact (hall key hkey).elim hreserved (Bindings.get?_eq_none_iff.mp hget)
  exact congrArg Environment.mk
    (Bindings.eq_of_keys_eq hkeys (nodup_keys_replaceUserVariables henv) hget)

/-- Variables that are handed back as they are, all of the user among them, change nothing. -/
theorem replaceUserVariables_of_subset (henv : (Bindings.keys env.vars).Nodup)
    (hvars : (Bindings.keys vars).Nodup) (hthere : vars ⊆ env.vars)
    (hall : env.userVariables ⊆ vars) : env.replaceUserVariables vars = env := by
  refine replaceUserVariables_eq_self henv hvars ?_ ?_
  · exact fun key value hget =>
      Bindings.get?_of_mem henv (hthere (Bindings.mem_of_get? hget))
  · intro key hkey
    obtain ⟨e, he, rfl⟩ := List.mem_map.mp hkey
    by_cases hreserved : Key.isReserved e.1 = true
    · exact .inl hreserved
    · have huser : e ∈ env.userVariables := List.mem_filter.mpr ⟨he, by simpa using hreserved⟩
      exact .inr (List.mem_map.mpr ⟨e, hall huser, rfl⟩)

/-- Handing back the same variables once more changes nothing. -/
theorem replaceUserVariables_replaceUserVariables (henv : (Bindings.keys env.vars).Nodup)
    (hvars : (Bindings.keys vars).Nodup) :
    (env.replaceUserVariables vars).replaceUserVariables vars = env.replaceUserVariables vars := by
  refine replaceUserVariables_eq_self (nodup_keys_replaceUserVariables henv) hvars ?_ ?_
  · intro key value hget
    rw [get?_replaceUserVariables hvars, hget]
    rfl
  · exact fun _ => mem_keys_of_replaceUserVariables hvars

/-! ### Handing back variables -/

/-- The variables of the user are those handed back, without the keys of the engine. -/
theorem userVariables_replaceUserVariables (henv : (Bindings.keys env.vars).Nodup)
    (hvars : (Bindings.keys vars).Nodup) :
    (env.replaceUserVariables vars).userVariables.Perm
      (vars.filter fun e => !Key.isReserved e.1) := by
  have hkeys := Bindings.keys_filter (α := Value) fun k => !Key.isReserved k
  refine Bindings.perm_of_get?_eq ?_ ?_ fun key => ?_
  · rw [userVariables, hkeys]
    exact (nodup_keys_replaceUserVariables henv).filter _
  · rw [hkeys]
    exact hvars.filter _
  · have hget := Bindings.get?_filter (α := Value) fun k => !Key.isReserved k
    have hmerged := @get?_replaceUserVariables env vars hvars key
    rw [get?] at hmerged
    rw [userVariables, hget, hget, hmerged]
    cases Key.isReserved key <;> simp

/-- What becomes of an environment to which variables are handed back. -/
structure Merges (env : Environment) (vars : Bindings Value) : Prop where
  /-- A key that is handed back has the value that is handed back. -/
  written : ∀ key value, Bindings.get? vars key = some value →
    (env.replaceUserVariables vars).get? key = some value
  /-- A key of the engine that is not handed back keeps its value, or stays without one. -/
  kept : ∀ key, Key.isReserved key = true → key ∉ Bindings.keys vars →
    (env.replaceUserVariables vars).get? key = env.get? key
  /-- Any other key is gone. -/
  removed : ∀ key, Key.isReserved key = false → key ∉ Bindings.keys vars →
    key ∉ Bindings.keys (env.replaceUserVariables vars).vars
  /-- The variables of the user are those handed back, without the keys of the engine. -/
  user : (env.replaceUserVariables vars).userVariables.Perm
    (vars.filter fun e => !Key.isReserved e.1)
  /-- No key is bound twice. -/
  nodup : (Bindings.keys (env.replaceUserVariables vars).vars).Nodup
  /-- The keys that stay are in the order in which they were, and the new ones follow in the order
  in which they are handed back. -/
  order : Bindings.keys (env.replaceUserVariables vars).vars =
    (Bindings.keys env.vars).filter (fun k => Key.isReserved k || k ∈ Bindings.keys vars) ++
      (Bindings.keys vars).filter fun k => k ∉ Bindings.keys env.vars
  /-- Variables that are handed back unchanged, in whatever order, leave all as it was. -/
  unchanged : vars.Perm env.vars → env.replaceUserVariables vars = env
  /-- So do those of the user alone. -/
  userUnchanged : vars.Perm env.userVariables → env.replaceUserVariables vars = env
  /-- Handing back the same variables once more changes nothing. -/
  again : (env.replaceUserVariables vars).replaceUserVariables vars = env.replaceUserVariables vars

/-- What becomes of every environment to which variables are handed back. -/
theorem merges (henv : (Bindings.keys env.vars).Nodup) (hvars : (Bindings.keys vars).Nodup) :
    Merges env vars where
  written key value hget := by
    rw [get?_replaceUserVariables hvars, hget]
    rfl
  kept key hreserved hkey := by
    rw [get?_replaceUserVariables hvars, Bindings.get?_eq_none_iff.mpr hkey, if_pos hreserved]
    rfl
  removed key hreserved hkey hmem :=
    (mem_keys_of_replaceUserVariables hvars hmem).elim (ne_true_of_eq_false hreserved) hkey
  user := userVariables_replaceUserVariables henv hvars
  nodup := nodup_keys_replaceUserVariables henv
  order := keys_replaceUserVariables hvars
  unchanged h := replaceUserVariables_of_subset henv hvars h.subset
    fun _ he => h.symm.subset (List.mem_of_mem_filter he)
  userUnchanged h := replaceUserVariables_of_subset henv hvars
    (fun _ he => List.mem_of_mem_filter (h.subset he)) h.symm.subset
  again := replaceUserVariables_replaceUserVariables henv hvars

/-- Among the variables handed back are keys of the engine, in an order of their own: what stays
does not move. Handed back in reverse order, the variables are as they were. -/
theorem merges_shuffled :
    let env : Environment := ⟨[("_workflowId", .text "shop"), ("keep", .int 1), ("drop", .int 2),
      ("_loopIndex", .int 3), ("last", .null)]⟩
    let vars : Bindings Value := [("added", .bool true), ("last", .int 5), ("_branchIndex", .int 7),
      ("keep", .int 10), ("_workflowId", .text "forged")]
    (Bindings.keys env.vars).Nodup ∧ (Bindings.keys vars).Nodup ∧
      Bindings.keys (env.replaceUserVariables vars).vars =
        ["_workflowId", "keep", "_loopIndex", "last", "added", "_branchIndex"] ∧
      (env.replaceUserVariables vars).get? "_loopIndex" = some (.int 3) ∧
      (env.replaceUserVariables vars).get? "keep" = some (.int 10) ∧
      env.replaceUserVariables env.vars.reverse = env := by
  intro env vars
  have henv : (Bindings.keys env.vars).Nodup := by decide
  have hvars : (Bindings.keys vars).Nodup := by decide
  have hmerges := merges henv hvars
  refine ⟨henv, hvars, ?_, ?_, ?_, ?_⟩
  · rw [hmerges.order]
    decide
  · exact hmerges.kept "_loopIndex" (by decide) (by decide)
  · exact hmerges.written "keep" _ rfl
  · exact (merges henv (by decide)).unchanged (List.reverse_perm env.vars)

end Workflow.Environment
