/-
BlockConfig.Proofs.Program.Rebuilt — a command that changes the store, and
the settings that would have built what it leaves.

`merge` and `unset` print the store they leave. There is another way to the
same store: list the merged values behind the others, or leave the values
of the unset key out, and build from that. `mutations_agree_with_rebuilt`
says that `dump` prints for the rebuilt store what the command printed for
the changed one, and what is said besides. A merge that meets a lock is
refused, and for which key does not depend on how the values are ordered.

The two ways agree because a table shows the last value for each key,
whether it was put in from a list or taken over from another table. A merge
takes over a table in which each key stands once, and in another order than
the values were given in (`Settings.entries_merged`).
-/
import Mathlib.Data.List.Dedup
import BlockConfig.Proofs.Program.Blocks

namespace BlockConfig

open CommandLine

/-! ## 1. Stores that were changed, and stores built anew -/

/-- The store of some pairs shows each key once. -/
theorem Store.size_ofPairs {values : List (String × String)}
    (hvalid : ∀ key ∈ values.map Prod.fst, Key.Valid key) :
    (ofPairs values).size = (values.map Prod.fst).dedup.length := by
  have hlength : (ofPairs values).size = (ofPairs values).keys.length := by
    rw [keys, Table.keys, List.length_map]
    rfl
  have hnodup : (ofPairs values).keys.Nodup := (ofPairs values).entries.sorted.nodup_keys
  rw [hlength]
  refine ((List.perm_ext_iff_of_nodup hnodup (List.nodup_dedup _)).2 fun key => ?_).length_eq
  rw [mem_keys_ofPairs hvalid, List.mem_dedup]

namespace Settings

variable {x : Settings}

/-- The settings with further values, given below the block. -/
def extended (x : Settings) (values : List (String × String)) : Settings :=
  { x with values := x.values ++ values.map fun p => (x.full p.1, p.2) }

/-- The settings without the values for a key below the block. -/
def without (x : Settings) (key : String) : Settings :=
  { x with values := x.values.filter (·.1 ≠ x.full key) }

theorem valid_full (hblock : Key.Sound (x.block.getD "")) {key : String} (hkey : Key.Valid key) :
    Key.Valid (x.full key) :=
  Key.valid_scopeOf_append.2 ⟨hblock, hkey⟩

theorem WellFormed.extended (hx : x.WellFormed) (hblock : Key.Sound (x.block.getD ""))
    {values : List (String × String)} (hvalid : ∀ key ∈ values.map Prod.fst, Key.Valid key) :
    (x.extended values).WellFormed := by
  refine ⟨fun key hkey => ?_, hx.locks⟩
  rw [Settings.keys, Settings.extended, List.map_append, List.mem_append] at hkey
  rcases hkey with hkey | hkey
  · exact hx.keys key hkey
  · simp only [List.map_map, List.mem_map, Function.comp_apply] at hkey
    obtain ⟨p, hp, rfl⟩ := hkey
    exact valid_full hblock (hvalid p.1 (List.mem_map_of_mem hp))

theorem WellFormed.without (hx : x.WellFormed) (key : String) : (x.without key).WellFormed := by
  refine ⟨fun k hk => hx.keys k ?_, hx.locks⟩
  obtain ⟨p, hp, rfl⟩ := List.mem_map.1 hk
  exact List.mem_map_of_mem (List.mem_filter.1 hp).1

/-- Values that were collected first and written below the scope then are
as if they had been listed behind the others. -/
theorem entries_merged {values : List (String × String)}
    (hvalid : ∀ key ∈ values.map Prod.fst, Key.Valid key) :
    x.store.storage.entries.insertAll (x.store.incoming (.ofPairs values))
      = (x.extended values).store.storage.entries := by
  have hempty : Pairs.lookup "" values.reverse = none := by
    rw [← Store.get?_entries_ofPairs hvalid, Store.get?_entries, if_pos rfl]
  have hgiven : (Store.ofPairs values).entries.get? = fun key => Pairs.lookup key values.reverse :=
    funext (Store.get?_entries_ofPairs hvalid)
  refine Table.ext_get? fun key => ?_
  have hlisted : (x.extended values).store.storage.entries
      = x.store.storage.entries.insertAll (values.map fun p => (x.full p.1, p.2)) :=
    Table.ofList_append _ _
  rw [hlisted, Table.get?_insertAll (x.store.nodup_incoming _), Table.get?_insertAll_reverse,
    ← List.map_reverse]
  refine congrArg (Option.or · _) ?_
  -- Both look-ups take the scope off, and then ask for the last value.
  have htable : Pairs.lookup key (x.store.incoming (.ofPairs values))
      = (Key.within? x.store.scope key).bind (Store.ofPairs values).entries.get? :=
    Pairs.lookup_map_append ((Store.ofPairs values).storage.entries.get?_under_empty "")
  have hlist : Pairs.lookup key (values.reverse.map fun p => (x.full p.1, p.2))
      = (Key.within? x.store.scope key).bind fun rest => Pairs.lookup rest values.reverse :=
    Pairs.lookup_map_append hempty
  rw [htable, hlist, hgiven]

theorem setAll_merged (hblock : Key.Sound (x.block.getD ""))
    {values : List (String × String)} (hvalid : ∀ key ∈ values.map Prod.fst, Key.Valid key)
    (hunlocked : ∀ key ∈ values.map Prod.fst, x.full key ∉ x.locks) :
    x.store.storage.setAll (x.store.incoming (.ofPairs values))
      = .ok (x.extended values).store.storage := by
  refine Storage.setAll_eq_ok_iff.2 ⟨fun p hp => ?_, ?_⟩
  · have hfull : p.1 ∈ (x.store.incoming (.ofPairs values)).map Prod.fst := List.mem_map_of_mem hp
    rw [Store.keys_incoming] at hfull
    obtain ⟨key, hkey, heq⟩ := List.mem_map.1 hfull
    rw [Store.mem_keys_ofPairs hvalid] at hkey
    rw [← heq, qualify_store]
    refine ⟨valid_full hblock (hvalid key hkey), ?_⟩
    rw [← Bool.not_eq_true, isLocked_store_iff]
    exact hunlocked key hkey
  · rw [entries_merged hvalid]
    rfl

/-- The last of the values that are listed for a key. -/
theorem exists_last_value {key : String} (hkey : key ∈ x.keys) :
    ∃ before value after, x.values = before ++ (key, value) :: after
      ∧ key ∉ after.map Prod.fst ∧ x.store.storage.entries.get? key = some value := by
  cases hget : x.store.storage.entries.get? key with
  | none => exact absurd hkey (get?_store_eq_none_iff.1 hget)
  | some value =>
    obtain ⟨before, after, hvalues, hafter⟩ := Table.get?_ofList_eq_some_iff.1 hget
    exact ⟨before, value, after, hvalues, hafter, rfl⟩

theorem unset_eq_without {key value : String} (hunlocked : x.full key ∉ x.locks)
    (hvalue : x.store.storage.entries.get? (x.full key) = some value) :
    x.store.storage.unset (x.full key) = .ok (value, (x.without key).store.storage) := by
  refine Storage.unset_eq_ok_iff.2 ⟨?_, hvalue, ?_⟩
  · rw [← Bool.not_eq_true, isLocked_store_iff]
    exact hunlocked
  · exact congrArg (Storage.mk · _) (Table.ofList_filter_ne x.values (x.full key))

end Settings

/-! ## 2. Commands that succeed -/

namespace Command

variable {script : Shell → String}

theorem run_merge_of_ok {s : Store} {values : List (String × String)} {storage : Storage}
    (hvalid : ∀ key ∈ values.map Prod.fst, Key.Valid key)
    (h : s.storage.setAll (s.incoming (.ofPairs values)) = .ok storage) (json : Bool)
    (v : Verbosity) :
    ((merge values json).run script v s).failure = none
      ∧ ((merge values json).run script v s).printed
          = .ofNote v s!"Merged {(values.map Prod.fst).dedup.length} value(s)"
            ++ Store.printed { s with storage } json v := by
  have hresult : (mergeValues s values).result
      = .ok ({ s with storage }, (values.map Prod.fst).dedup.length) := by
    rw [result_mergeValues, Key.refusal?_eq_none_iff.2 hvalid, h, Store.size_ofPairs hvalid]
  rw [run, runMerge]
  cases hm : mergeValues s values with
  | mk events result =>
    obtain rfl : result = .ok _ := by rw [← hresult, hm]
    exact ⟨rfl, rfl⟩

theorem run_unset_of_ok {s : Store} {key value : String} {storage : Storage}
    (h : s.storage.unset (s.qualify key) = .ok (value, storage)) (json : Bool) (v : Verbosity) :
    ((unset key json).run script v s).failure = none
      ∧ ((unset key json).run script v s).printed
          = .ofNote v s!"Removed {key} (was {value})"
            ++ Store.printed { s with storage } json v := by
  rw [run, runUnset, Store.unset, h]
  exact ⟨rfl, rfl⟩

end Command

/-! ## 3. Commands and rebuilt stores -/

namespace CommandLine.Invocation

variable {script : Shell → String}

/-- The command `merge` under some settings. -/
def merging (x : Settings) (values : List (String × String)) (quiet debug json : Bool) :
    Invocation :=
  { globals := { settings := x, quiet, debug }, command := .merge values json }

/-- The command `unset` under some settings. -/
def unsetting (x : Settings) (key : String) (quiet debug json : Bool) : Invocation :=
  { globals := { settings := x, quiet, debug }, command := .unset key json }

/-- The runs of a command that changed the store and of `dump` after
building what it left. -/
structure AsRebuilt (changed rebuilt : Ending) (line : String) : Prop where
  exitCode : changed.exitCode = 0 ∧ rebuilt.exitCode = 0
  stdout : changed.stdout = rebuilt.stdout
  notes : changed.notes = line ++ rebuilt.notes

/-- A command that succeeds, and notes one line before it prints the store
of other settings. -/
theorem asRebuilt_of_printed {x y : Settings} (hx : x.WellFormed) (hy : y.WellFormed)
    {c : Command} {quiet debug json : Bool} {message : String}
    (h : (c.run script (.ofSwitches quiet debug) x.store).failure = none
      ∧ (c.run script (.ofSwitches quiet debug) x.store).printed
          = .ofNote (.ofSwitches quiet debug) message
            ++ y.store.printed json (.ofSwitches quiet debug))
    (filter filter' : Option String) :
    AsRebuilt ((Invocation.mk { settings := x, quiet, debug } c).run script filter)
      ((dumping y quiet debug json).run script filter') (Printed.lineUnless quiet message) := by
  obtain ⟨hexit, hstdout, hnotes⟩ :=
    run_of_success (i := ⟨{ settings := x, quiet, debug }, c⟩) hx h.1 filter
  obtain ⟨hexit', hstdout', hnotes'⟩ := run_dumping script hy quiet debug json filter'
  refine ⟨⟨hexit, hexit'⟩, hstdout.trans ?_, hnotes.trans ?_⟩
  · refine (congrArg Printed.stdout h.2).trans ?_
    rw [hstdout', Printed.stdout_append]
    exact String.empty_append
  · refine (congrArg Printed.stderr h.2).trans ?_
    rw [hnotes', Printed.stderr_append, Printed.stderr_ofNote]

theorem run_merging {x : Settings} (hx : x.WellFormed) (hblock : Key.Sound (x.block.getD ""))
    {values : List (String × String)} (hvalid : ∀ key ∈ values.map Prod.fst, Key.Valid key)
    (hunlocked : ∀ key ∈ values.map Prod.fst, x.full key ∉ x.locks) (quiet debug json : Bool)
    (filter filter' : Option String) :
    AsRebuilt ((merging x values quiet debug json).run script filter)
      ((dumping (x.extended values) quiet debug json).run script filter')
      (Printed.lineUnless quiet s!"Merged {(values.map Prod.fst).dedup.length} value(s)") := by
  have hset := Settings.setAll_merged hblock hvalid hunlocked
  exact asRebuilt_of_printed hx (hx.extended hblock hvalid)
    (Command.run_merge_of_ok hvalid hset json _) filter filter'

theorem run_unsetting {x : Settings} (hx : x.WellFormed) {key value : String}
    (hunlocked : x.full key ∉ x.locks)
    (hvalue : x.store.storage.entries.get? (x.full key) = some value) (quiet debug json : Bool)
    (filter filter' : Option String) :
    AsRebuilt ((unsetting x key quiet debug json).run script filter)
      ((dumping (x.without key) quiet debug json).run script filter')
      (Printed.lineUnless quiet s!"Removed {key} (was {value})") :=
  asRebuilt_of_printed hx (hx.without key)
    (Command.run_unset_of_ok (Settings.unset_eq_without hunlocked hvalue) json _) filter filter'

/-- Of the locked keys that a merge meets there is a least one. -/
theorem exists_least_locked {x : Settings} (hx : x.WellFormed) {values : List (String × String)}
    (hvalid : ∀ key ∈ values.map Prod.fst, Key.Valid key)
    (hlocked : ∃ key ∈ values.map Prod.fst, x.full key ∈ x.locks) :
    ∃ key ∈ values.map Prod.fst, x.full key ∈ x.locks
      ∧ ∀ other ∈ values.map Prod.fst, x.full other ∈ x.locks → ¬ x.full other < x.full key := by
  obtain ⟨key, hmem, hlock⟩ := hlocked
  have hwrong : Wrong x (.merge values false) := .mergeLocked hmem hlock
  obtain ⟨f, hcause⟩ := hwrong.exists_ownCause hx
  cases hcause with
  | mergeMalformed h => exact absurd (Key.refusal?_eq_none_iff.2 hvalid) (by simp [h])
  | mergeBlock _ hblock => exact absurd hblock (hx.goodBlock_of_locked (hvalid key hmem) hlock)
  | mergeLocked _ hmem hlock hleast => exact ⟨_, hmem, hlock, hleast⟩

theorem run_merging_of_locked {x : Settings} (hx : x.WellFormed) {values : List (String × String)}
    (hvalid : ∀ key ∈ values.map Prod.fst, Key.Valid key) {key : String}
    (hmem : key ∈ values.map Prod.fst) (hlocked : x.full key ∈ x.locks)
    (hleast : ∀ other ∈ values.map Prod.fst, x.full other ∈ x.locks →
      ¬ x.full other < x.full key) (quiet debug json : Bool) (filter : Option String) :
    let r := (merging x values quiet debug json).run script filter
    r.exitCode = 1 ∧ r.stdout = ""
      ∧ r.notes = "error: Failed to merge configuration: "
          ++ s!"cannot set read-only configuration value: '{x.full key}'" ++ "\n" := by
  intro r
  have hcause : FirstCause x (.merge values json) (.merging (.readOnly (x.full key) .set)) :=
    .command hx (.mergeLocked (Key.refusal?_eq_none_iff.2 hvalid) hmem hlocked hleast)
  have hfailure : ((merging x values quiet debug json).outcome script).failure
      = some (.merging (.readOnly (x.full key) .set)) := failure_outcome_iff.2 hcause
  refine ⟨?_, stdout_run_of_failure hfailure filter,
    (notes_run_of_failure hfailure filter).trans ?_⟩
  · rw [exitCode_run, hfailure]
    rfl
  · rfl

/-- Under well-formed settings and a block that values can be kept in, a
merge and an unset that no lock forbids print what `dump` prints after
building what they leave, behind one line that tells what was done. A merge
that a lock forbids fails for the least locked key, whatever the order of
its values. -/
theorem mutations_agree_with_rebuilt (script : Shell → String) {x : Settings} (hx : x.WellFormed)
    (hblock : Key.Sound (x.block.getD "")) (quiet debug json : Bool)
    (filter filter' : Option String) :
    (∀ values : List (String × String), (∀ key ∈ values.map Prod.fst, Key.Valid key) →
      (∀ key ∈ values.map Prod.fst, x.full key ∉ x.locks) →
      AsRebuilt ((merging x values quiet debug json).run script filter)
        ((dumping (x.extended values) quiet debug json).run script filter')
        (Printed.lineUnless quiet s!"Merged {(values.map Prod.fst).dedup.length} value(s)"))
    ∧ (∀ key, x.full key ∈ x.keys → x.full key ∉ x.locks →
        ∃ before value after, x.values = before ++ (x.full key, value) :: after
          ∧ x.full key ∉ after.map Prod.fst
          ∧ AsRebuilt ((unsetting x key quiet debug json).run script filter)
              ((dumping (x.without key) quiet debug json).run script filter')
              (Printed.lineUnless quiet s!"Removed {key} (was {value})"))
    ∧ ∀ values : List (String × String), (∀ key ∈ values.map Prod.fst, Key.Valid key) →
        (∃ key ∈ values.map Prod.fst, x.full key ∈ x.locks) →
        ∃ key ∈ values.map Prod.fst, x.full key ∈ x.locks
          ∧ (∀ other ∈ values.map Prod.fst, x.full other ∈ x.locks →
              ¬ x.full other < x.full key)
          ∧ ∀ reordered : List (String × String), reordered.Perm values →
              let r := (merging x reordered quiet debug json).run script filter
              r.exitCode = 1 ∧ r.stdout = ""
                ∧ r.notes = "error: Failed to merge configuration: "
                    ++ s!"cannot set read-only configuration value: '{x.full key}'" ++ "\n" := by
  refine ⟨fun values hvalid hunlocked => ?_, fun key hkey hunlocked => ?_,
    fun values hvalid hlocked => ?_⟩
  · exact run_merging hx hblock hvalid hunlocked quiet debug json filter filter'
  · obtain ⟨before, value, after, hvalues, hafter, hget⟩ := Settings.exists_last_value hkey
    exact ⟨before, value, after, hvalues, hafter,
      run_unsetting hx hunlocked hget quiet debug json filter filter'⟩
  · obtain ⟨key, hmem, hlock, hleast⟩ := exists_least_locked hx hvalid hlocked
    refine ⟨key, hmem, hlock, hleast, fun reordered hperm => ?_⟩
    -- A reordered list has the same keys.
    have hkeys : ∀ {k : String}, k ∈ reordered.map Prod.fst ↔ k ∈ values.map Prod.fst :=
      (hperm.map Prod.fst).mem_iff
    exact run_merging_of_locked hx (fun k hk => hvalid k (hkeys.1 hk)) (hkeys.2 hmem) hlock
      (fun k hk => hleast k (hkeys.1 hk)) quiet debug json filter

/-- Values and locks in the block `db` and beside it. A key is listed twice,
one of the merged keys is given twice, and two of the locked ones are met by
the second merge. -/
theorem mutations_agree_in_block :
    let x : Settings :=
      { values := [("db:a", "1"), ("db:b", "2"), ("db:a", "3"), ("c", "4")]
        locks := ["db:z", "db:y", "c"], block := some "db" }
    let script := Completion.script
    let merged :=
      (merging x [("d", "5"), ("a", "6"), ("d", "7")] false false true).run script none
    let unset := (unsetting x "a" false false true).run script none
    AsRebuilt merged
        ((dumping (x.extended [("d", "5"), ("a", "6"), ("d", "7")]) false false true).run script
          none)
        "Merged 2 value(s)\n"
      ∧ merged.stdout = "\x7b\n  \"a\": \"6\",\n  \"b\": \"2\",\n  \"d\": \"7\"\n\x7d\n"
      ∧ (∃ before value after, x.values = before ++ ("db:a", value) :: after
          ∧ "db:a" ∉ after.map Prod.fst
          ∧ AsRebuilt unset ((dumping (x.without "a") false false true).run script none)
              (Printed.lineUnless false ("Removed " ++ "a" ++ " (was " ++ value ++ ")")))
      ∧ unset.stdout = "\x7b\n  \"b\": \"2\"\n\x7d\n"
      ∧ ((merging x [("b", "5"), ("y", "6"), ("z", "7")] false false true).run script none).notes
          = "error: Failed to merge configuration: "
            ++ "cannot set read-only configuration value: 'db:y'\n" := by
  intro x script merged unset
  obtain ⟨hmerge, hunset, hlocked⟩ := mutations_agree_with_rebuilt script (x := x)
    ⟨by decide, by decide⟩ (by decide) false false true none none
  obtain ⟨key, hmem, hlock, hleast, hfails⟩ := hlocked [("z", "7"), ("b", "5"), ("y", "6")]
    (by decide) ⟨"z", by decide, by decide⟩
  have hkey : key = "y" := by
    have hy : ¬ "db:y" < "db:" ++ key := hleast "y" (by decide) (by decide)
    simp only [List.map_cons, List.map_nil, List.mem_cons, List.not_mem_nil, or_false] at hmem
    rcases hmem with rfl | rfl | rfl
    · exact absurd (by decide) hy
    · exact absurd hlock (by decide)
    · rfl
  subst hkey
  exact ⟨hmerge _ (by decide) (by decide), by decide, hunset "a" (by decide) (by decide),
    by decide, (hfails _ (by decide)).2.2⟩

end CommandLine.Invocation

end BlockConfig
