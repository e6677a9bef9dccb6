/-
BlockConfig.Proofs.Program.Assignable — no equals sign in the keys that are
shown.

Values come into a store as assignments, from the settings and from `merge`,
so their keys hold no equals sign. The name of a block may. So a merge below
the block `a=b` puts a full key with an equals sign into the storage, and
what can be said is about the keys that are shown, with the scope taken off
(`Store.Assignable`). Every command keeps this (`Command.assignable_run`),
and so it holds at the end of each run of the program
(`CommandLine.Invocation.assignable_outcome`).
-/
import BlockConfig.Proofs.CommandLine.Writable
import BlockConfig.Proofs.Program.Causes

namespace BlockConfig

open CommandLine

/-! ## 1. Stores -/

/-- Every key that is shown could stand in front of the equals sign of an
assignment. -/
def Store.Assignable (s : Store) : Prop := ∀ key ∈ s.keys, '=' ∉ key.toList

namespace Store

variable {s : Store}

/-- What is shown is what lies below the scope. -/
theorem mem_keys_iff (s : Store) (key : String) :
    key ∈ s.keys ↔ key ≠ "" ∧ (s.storage.entries.get? (s.scope ++ key)).isSome = true := by
  rw [keys, Table.mem_keys_iff, Table.contains_eq, get?_entries, qualify]
  by_cases hkey : key = "" <;> simp [hkey]

theorem mem_keys_view (s : Store) (name key : String) :
    key ∈ (s.view name).keys ↔ key ≠ "" ∧ Key.scopeOf name ++ key ∈ s.keys := by
  rw [mem_keys_iff, mem_keys_iff, view, String.append_assoc]
  by_cases hkey : key = ""
  · simp [hkey]
  · simp [hkey]

/-- A block shows the ends of keys that are shown outside. -/
theorem Assignable.subblock (hs : s.Assignable) (name : String) :
    (s.subblock name).Assignable := by
  intro key hkey
  have hview : key ∈ (s.view name).keys := by
    rwa [keys, entries_subblock] at hkey
  have houter := hs _ ((s.mem_keys_view name key).1 hview).2
  rw [String.toList_append, List.mem_append, not_or] at houter
  exact houter.2

theorem Assignable.unset (hs : s.Assignable) {key value : String} {next : Storage}
    (h : s.storage.unset (s.qualify key) = .ok (value, next)) :
    (⟨next, s.scope⟩ : Store).Assignable := by
  obtain ⟨-, -, rfl⟩ := Storage.unset_eq_ok_iff.1 h
  intro k hk
  obtain ⟨hne, hsome⟩ := (mem_keys_iff _ k).1 hk
  refine hs k ((s.mem_keys_iff k).2 ⟨hne, ?_⟩)
  rw [Table.get?_erase] at hsome
  split at hsome
  · cases hsome
  · exact hsome

theorem Assignable.merge (hs : s.Assignable) {given : Store} (hg : given.Assignable)
    {next : Storage} (h : s.storage.setAll (s.incoming given) = .ok next) :
    (⟨next, s.scope⟩ : Store).Assignable := by
  intro key hkey
  rcases (mem_keys_of_overlaid (overlaid_setAll h) key).1 hkey with hkey | hkey
  · exact hg key hkey
  · exact hs key hkey

/-- The store of pairs that can be written as assignments. -/
theorem assignable_ofPairs {values : List (String × String)}
    (hw : ∀ p ∈ values, Assignment.Writable p) : (ofPairs values).Assignable := by
  intro key hkey
  have hmem : key ∈ values.map Prod.fst := by
    have hsome := ((mem_keys_iff _ key).1 hkey).2
    rwa [ofPairs, String.empty_append, ← Table.contains_eq, Table.contains_ofList] at hsome
  obtain ⟨p, hp, rfl⟩ := List.mem_map.1 hmem
  exact (hw p hp).2

end Store

/-- What is built shows the ends of keys of its values. -/
theorem Settings.assignable_store {x : Settings}
    (hw : ∀ p ∈ x.values, Assignment.Writable p) : x.store.Assignable := by
  intro key hkey
  have hmem : x.full key ∈ x.keys := by
    have hsome := ((Store.mem_keys_iff _ key).1 hkey).2
    by_contra hnot
    rw [show x.store.scope ++ key = x.full key from rfl, get?_store_eq_none_iff.2 hnot] at hsome
    cases hsome
  obtain ⟨p, hp, hfull⟩ := List.mem_map.1 hmem
  have hequals := (hw p hp).2
  rw [hfull, full, String.toList_append, List.mem_append, not_or] at hequals
  exact hequals.2

/-! ## 2. Commands and runs -/

namespace Command

variable {script : Shell → String}

theorem store_runUnset (s : Store) (key : String) (json : Bool) (v : Verbosity) :
    (runUnset s key json v).store
      = match s.storage.unset (s.qualify key) with
        | .ok p => ⟨p.2, s.scope⟩
        | .error _ => s := by
  unfold runUnset Store.unset
  cases s.storage.unset (s.qualify key) <;> rfl

theorem store_runMerge (s : Store) (values : List (String × String)) (json : Bool)
    (v : Verbosity) :
    (runMerge s values json v).store
      = match (mergeValues s values).result with
        | .ok p => p.1
        | .error _ => s := by
  unfold runMerge
  obtain ⟨events, result⟩ := mergeValues s values
  cases result <;> rfl

/-- A command that brings in assignments only leaves a store in which no key
that is shown holds an equals sign, if there was none before. -/
theorem assignable_run {c : Command} {s : Store} (hs : s.Assignable)
    (hw : ∀ values json, c = .merge values json → ∀ p ∈ values, Assignment.Writable p)
    (v : Verbosity) : (c.run script v s).store.Assignable := by
  cases c with
  | get key default =>
    cases default with
    | some text => exact hs
    | none =>
      rw [run, runGet]
      split <;> exact hs
  | unset key json =>
    rw [run, store_runUnset]
    cases h : s.storage.unset (s.qualify key) with
    | error e => exact hs
    | ok p => exact hs.unset h
  | merge values json =>
    rw [run, store_runMerge, result_mergeValues]
    cases Key.refusal? (values.map Prod.fst) with
    | some e => exact hs
    | none =>
      cases h : s.storage.setAll (s.incoming (.ofPairs values)) with
      | error e => exact hs
      | ok next => exact hs.merge (Store.assignable_ofPairs (hw values json rfl)) h
  | has | keys | dump | subblock | completion => exact hs

end Command

namespace CommandLine.Invocation

variable {script : Shell → String} {i : Invocation}

theorem failure_of_exitCode {filter : Option String} (h : (i.run script filter).exitCode = 0) :
    (i.outcome script).failure = none := by
  rw [exitCode_run] at h
  split at h
  · cases h
  · next hnone => exact Option.not_isSome_iff_eq_none.1 hnone

theorem store_outcome (i : Invocation) :
    (i.outcome script).store
      = match i.globals.settings.build.result with
        | .error _ => .empty
        | .ok s => (i.command.run script i.globals.verbosity s).store := by
  unfold outcome
  obtain ⟨events, result⟩ := i.globals.settings.build
  cases result <;> rfl

theorem printed_outcome (i : Invocation) :
    (i.outcome script).printed
      = match i.globals.settings.build.result with
        | .error _ => {}
        | .ok s => (i.command.run script i.globals.verbosity s).printed := by
  unfold outcome
  obtain ⟨events, result⟩ := i.globals.settings.build
  cases result <;> rfl

/-- What a successful run leaves and prints. -/
theorem outcome_of_success (h : (i.outcome script).failure = none) :
    (i.command.run script i.globals.verbosity i.globals.settings.store).failure = none
      ∧ (i.outcome script).store
          = (i.command.run script i.globals.verbosity i.globals.settings.store).store
      ∧ (i.outcome script).printed
          = (i.command.run script i.globals.verbosity i.globals.settings.store).printed := by
  rw [failure_outcome] at h
  rw [store_outcome, printed_outcome]
  cases hbuild : i.globals.settings.build.result with
  | error f =>
    rw [hbuild] at h
    cases h
  | ok s =>
    obtain ⟨-, rfl⟩ := Settings.result_build_eq_ok_iff.1 hbuild
    rw [hbuild] at h
    exact ⟨h, rfl, rfl⟩

/-- At the end of a run no key that is shown holds an equals sign, whatever
the names of blocks are. -/
theorem assignable_outcome (hi : i.Writable) : (i.outcome script).store.Assignable := by
  rw [store_outcome]
  cases hbuild : i.globals.settings.build.result with
  | error f => exact nofun
  | ok s =>
    obtain ⟨-, rfl⟩ := Settings.result_build_eq_ok_iff.1 hbuild
    exact Command.assignable_run (Settings.assignable_store hi.values) hi.incoming _

end CommandLine.Invocation

end BlockConfig
