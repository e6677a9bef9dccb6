/-
BlockConfig.Proofs.Program.Blocks — a block named as an operand, and the
same block named as an option.

`subblock n` takes a copy of a block and prints it, `dump` prints what the
store shows. `subblock_eq_dump` says that the two print the same results
when `dump` is given the nested block. This holds for any block names,
keys or not. Beside the log they differ in one note at most, which says
that there is nothing in the block.

What a store prints is decided by the entries it shows
(`Store.printed_congr`). So two facts about entries carry the rest: the
copy of a block shows what its view shows (`Store.entries_subblock`), and
below a scope only those values show whose keys it leads
(`Settings.entries_store_eq_of_filter`).
-/
import BlockConfig.Proofs.Program.Causes
import BlockConfig.Proofs.Store.Mirror

namespace BlockConfig

open CommandLine

/-! ## 1. What is printed -/

namespace Printed

theorem stderr_append (p q : Printed) : (p ++ q).stderr = p.stderr ++ q.stderr := by
  simp [stderr, String.join_append]

/-- A line that is said unless quiet is asked for. -/
def lineUnless (quiet : Bool) (message : String) : String := if quiet then "" else message ++ "\n"

theorem stderr_ofNote (quiet debug : Bool) (message : String) :
    (ofNote (.ofSwitches quiet debug) message).stderr = lineUnless quiet message := by
  have hquiet : Verbosity.ofSwitches quiet debug = .quiet ↔ quiet = true :=
    Verbosity.ofSwitches_eq_quiet_iff
  cases quiet <;> simp [ofNote, stderr, Verbosity.note, hquiet, lineUnless, String.join]

end Printed

namespace Store

/-- What is printed of a store is decided by the entries that it shows. -/
theorem printed_congr {s t : Store} (h : s.entries = t.entries) (json : Bool) (v : Verbosity) :
    s.printed json v = t.printed json v := by
  simp only [printed, h]

/-- Nothing is shown when nothing is stored at the keys that the scope
leads, the scope itself left aside. -/
theorem isEmpty_iff (s : Store) :
    s.isEmpty = true ↔ ∀ key, key ≠ "" → s.storage.entries.get? (s.scope ++ key) = none := by
  have hkeys : s.isEmpty = true ↔ ∀ key, key ∉ s.entries.keys := by
    rw [← List.eq_nil_iff_forall_not_mem, Table.keys, List.map_eq_nil_iff, isEmpty, size,
      Table.size, beq_iff_eq, List.length_eq_zero_iff]
  rw [hkeys]
  refine forall_congr' fun key => ?_
  rw [Table.mem_keys_iff, Table.contains_eq, get?_entries, Option.not_isSome_iff_eq_none]
  by_cases hkey : key = ""
  · simp [hkey]
  · simp [hkey, qualify]

end Store

/-! ## 2. What settings have in a block -/

namespace Settings

/-- The same settings, looked at through another block. -/
def inBlock (x : Settings) (name : String) : Settings := { x with block := some name }

/-- A view of a block is the store of the nested block. -/
theorem store_inBlock_nest (x : Settings) (name : String) :
    (x.inBlock (Key.nest (x.block.getD "") name)).store = x.store.view name := by
  simp only [store, inBlock, Store.view, Option.getD_some, Key.scopeOf_nest]

theorem WellFormed.inBlock {x : Settings} (hx : x.WellFormed) (name : String) :
    (x.inBlock name).WellFormed := ⟨hx.keys, hx.locks⟩

/-- Nothing is shown in a block when its scope leads none of the keys. None
of them can be the scope itself, because that is no key. -/
theorem WellFormed.isEmpty_store_iff {x : Settings} (hx : x.WellFormed) :
    x.store.isEmpty = true ↔ ∀ key ∈ x.keys, ¬ Key.Leads x.store.scope key := by
  rw [Store.isEmpty_iff]
  constructor
  · rintro hnone _ hmem ⟨rest, rfl⟩
    have hrest : rest ≠ "" := (Key.valid_scopeOf_append.1 (hx.keys _ hmem)).2.ne_empty
    exact get?_store_eq_none_iff.1 (hnone rest hrest) hmem
  · intro hnot rest _
    exact get?_store_eq_none_iff.2 fun hmem => hnot _ hmem ⟨rest, rfl⟩

/-- Only those values show whose keys the scope leads. -/
theorem entries_store_eq_filter (x : Settings) :
    x.store.entries
      = (Table.ofList (x.values.filter (Key.Leads x.store.scope ·.1))).under x.store.scope := by
  refine Table.ext_get? fun key => ?_
  rw [Store.get?_entries, Table.get?_under]
  by_cases hkey : key = ""
  · rw [if_pos hkey, if_pos hkey]
  · rw [if_neg hkey, if_neg hkey, store, Table.get?_ofList, Table.get?_ofList,
      ← List.filter_reverse]
    refine (Pairs.lookup_filter fun p _ hp => ?_).symm
    rw [hp]
    exact decide_eq_true ⟨key, rfl⟩

theorem entries_store_eq_of_filter {x y : Settings} (hblock : y.block = x.block)
    (hvalues : y.values.filter (Key.Leads y.store.scope ·.1)
      = x.values.filter (Key.Leads x.store.scope ·.1)) : y.store.entries = x.store.entries := by
  have hscope : y.store.scope = x.store.scope := by rw [store, store, hblock]
  rw [entries_store_eq_filter, entries_store_eq_filter, hvalues, hscope]

end Settings

/-! ## 3. Runs that succeed -/

namespace Command

/-- A copy of a block is printed like its view, behind a note if there is
nothing in it. -/
theorem printed_subblock (script : Shell → String) (name : String) (json : Bool) (v : Verbosity)
    (s : Store) :
    ((subblock name json).run script v s).printed
      = (if (s.view name).isEmpty then .ofNote v s!"No values under '{name}'" else {})
        ++ ((dump json).run script v (s.view name)).printed := by
  have hentries := s.entries_subblock name
  have hempty : (s.subblock name).isEmpty = (s.view name).isEmpty := by
    simp only [Store.isEmpty, Store.size, hentries]
  simp only [run, runSubblock, hempty, Store.printed_congr hentries]

end Command

namespace CommandLine.Invocation

variable {script : Shell → String}

/-- What is to be seen of a command that succeeds on the store that the
settings describe. -/
theorem run_of_success {i : Invocation} (hx : i.globals.settings.WellFormed)
    (h : (i.command.run script i.globals.verbosity i.globals.settings.store).failure = none)
    (filter : Option String) :
    (i.run script filter).exitCode = 0
      ∧ (i.run script filter).stdout
          = (i.command.run script i.globals.verbosity i.globals.settings.store).printed.stdout
      ∧ (i.run script filter).notes
          = (i.command.run script i.globals.verbosity i.globals.settings.store).printed.stderr := by
  have hbuild := Settings.result_build_eq_ok_iff.2 ⟨hx, rfl⟩
  have houtcome : (i.outcome script).printed
        = (i.command.run script i.globals.verbosity i.globals.settings.store).printed
      ∧ (i.outcome script).failure = none := by
    unfold outcome
    cases hb : i.globals.settings.build with
    | mk events result =>
      obtain rfl : result = .ok i.globals.settings.store := by rw [← hbuild, hb]
      exact ⟨rfl, h⟩
  rw [exitCode_run, notes_run_of_success houtcome.2, houtcome.2, ← houtcome.1]
  exact ⟨rfl, rfl, rfl⟩

/-- The command `dump` under some settings. -/
def dumping (x : Settings) (quiet debug json : Bool) : Invocation :=
  { globals := { settings := x, quiet, debug }, command := .dump json }

/-- The command `subblock` under some settings. -/
def showing (x : Settings) (name : String) (quiet debug json : Bool) : Invocation :=
  { globals := { settings := x, quiet, debug }, command := .subblock name json }

variable (script) in
theorem run_dumping {x : Settings} (hx : x.WellFormed) (quiet debug json : Bool)
    (filter : Option String) :
    let r := (dumping x quiet debug json).run script filter
    let printed := x.store.printed json (.ofSwitches quiet debug)
    r.exitCode = 0 ∧ r.stdout = printed.stdout ∧ r.notes = printed.stderr :=
  run_of_success (i := dumping x quiet debug json) hx rfl filter

/-! ## 4. Operand and option -/

/-- The line that is said of a block without values. -/
def noteOnBlock (x : Settings) (block name : String) (quiet : Bool) : String :=
  if ∀ key ∈ x.keys, ¬ Key.Leads (Key.scopeOf block) key
  then Printed.lineUnless quiet s!"No values under '{name}'" else ""

variable (script) in
theorem run_showing {x : Settings} (hx : x.WellFormed) (name : String)
    (quiet debug json : Bool) (filter : Option String) :
    let block := Key.nest (x.block.getD "") name
    let r := (showing x name quiet debug json).run script filter
    let printed := (x.inBlock block).store.printed json (.ofSwitches quiet debug)
    r.exitCode = 0 ∧ r.stdout = printed.stdout
      ∧ r.notes = noteOnBlock x block name quiet ++ printed.stderr := by
  intro block r printed
  have hview : x.store.view name = (x.inBlock block).store := (x.store_inBlock_nest name).symm
  have hempty : (x.inBlock block).store.isEmpty = true
      ↔ ∀ key ∈ x.keys, ¬ Key.Leads (Key.scopeOf block) key := (hx.inBlock block).isEmpty_store_iff
  obtain ⟨hexit, hstdout, hnotes⟩ :=
    run_of_success (i := showing x name quiet debug json) hx rfl filter
  have hprinted := Command.printed_subblock script name json (.ofSwitches quiet debug) x.store
  rw [hview] at hprinted
  refine ⟨hexit, hstdout.trans ?_, hnotes.trans ?_⟩
  · refine (congrArg Printed.stdout hprinted).trans ?_
    rw [Printed.stdout_append]
    split <;> exact String.empty_append
  · refine (congrArg Printed.stderr hprinted).trans ?_
    rw [Printed.stderr_append, noteOnBlock]
    refine congrArg (· ++ printed.stderr) ?_
    by_cases hnone : (x.inBlock block).store.isEmpty = true
    · rw [if_pos hnone, if_pos (hempty.1 hnone), Printed.stderr_ofNote]
    · rw [if_neg hnone, if_neg (mt hempty.2 hnone)]
      rfl

/-- Under settings that can be built, a block named as an operand and the
nested block named as an option give the same results. What is said beside
the log differs by the note on a block without values, which is there
exactly if no key is in the block and nothing asks for quiet. And the
results depend on no value whose key is not in the block, and on no lock.

What is said are the notes. A reader finds the same (`Ending.stderr`), unless
a logged text holds a line end. -/
theorem subblock_eq_dump (script : Shell → String) {x : Settings} {s : Store}
    (hx : x.build.result = .ok s) (name : String) (quiet debug json : Bool)
    (filter filter' : Option String) :
    let block := Key.nest (x.block.getD "") name
    let r := (showing x name quiet debug json).run script filter
    let r' := (dumping (x.inBlock block) quiet debug json).run script filter'
    (r.exitCode = 0 ∧ r'.exitCode = 0)
    ∧ r.stdout = r'.stdout
    ∧ r.notes = noteOnBlock x block name quiet ++ r'.notes
    ∧ (r.LogInLines → r'.LogInLines → r.stderr = noteOnBlock x block name quiet ++ r'.stderr)
    ∧ ∀ (y : Settings) (t : Store), y.build.result = .ok t → y.block = x.block →
        y.values.filter (Key.Leads (Key.scopeOf block) ·.1)
          = x.values.filter (Key.Leads (Key.scopeOf block) ·.1) →
        ((showing y name quiet debug json).run script filter).stdout = r.stdout
          ∧ ((dumping (y.inBlock block) quiet debug json).run script filter').stdout
            = r'.stdout := by
  intro block r r'
  obtain ⟨hwx, -⟩ := Settings.result_build_eq_ok_iff.1 hx
  obtain ⟨hexit, hstdout, hnotes⟩ := run_showing script hwx name quiet debug json filter
  obtain ⟨hexit', hstdout', hnotes'⟩ :=
    run_dumping script (hwx.inBlock block) quiet debug json filter'
  have hsaid : r.notes = noteOnBlock x block name quiet ++ r'.notes := by
    rw [hnotes, hnotes']
  refine ⟨⟨hexit, hexit'⟩, hstdout.trans hstdout'.symm, hsaid, fun hr hr' => ?_, ?_⟩
  · rw [Ending.stderr_eq_notes hr, Ending.stderr_eq_notes hr', hsaid]
  · intro y t hy hblock hvalues
    obtain ⟨hwy, -⟩ := Settings.result_build_eq_ok_iff.1 hy
    have hnest : Key.nest (y.block.getD "") name = block := by rw [hblock]
    have hentries : (y.inBlock block).store.entries = (x.inBlock block).store.entries :=
      Settings.entries_store_eq_of_filter rfl hvalues
    have hprinted := Store.printed_congr hentries json (.ofSwitches quiet debug)
    obtain ⟨-, hy₁, -⟩ := run_showing script hwy name quiet debug json filter
    obtain ⟨-, hy₂, -⟩ := run_dumping script (hwy.inBlock block) quiet debug json filter'
    rw [hnest, hprinted] at hy₁
    rw [hprinted] at hy₂
    exact ⟨hy₁.trans hstdout.symm, hy₂.trans hstdout'.symm⟩

/-- `-s a:b=x -s a:b:k=1 -s a:bb=y --block a subblock b`, and again with a
value outside the block in place of those beside it. Then a block in which
there is nothing. -/
theorem subblock_eq_dump_beside_neighbours :
    let x : Settings :=
      { values := [("a:b", "x"), ("a:b:k", "1"), ("a:bb", "y")], block := some "a" }
    let y : Settings := { values := [("a:b:k", "1"), ("b:k", "2")], block := some "a" }
    let script := Completion.script
    let r := (showing x "b" false false false).run script none
    let nothing := (showing x "c" false false false).run script none
    r.stdout = "k = 1\n"
      ∧ r.stdout = ((dumping (x.inBlock "a:b") false false false).run script none).stdout
      ∧ r.notes = noteOnBlock x "a:b" "b" false
          ++ ((dumping (x.inBlock "a:b") false false false).run script none).notes
      ∧ ((showing y "b" false false false).run script none).stdout = r.stdout
      ∧ nothing.stdout = "" ∧ nothing.notes = "No values under 'c'\n(empty)\n" := by
  intro x y script r nothing
  have hx : x.build.result = .ok x.store :=
    Settings.result_build_eq_ok_iff.2 ⟨⟨by decide, by decide⟩, rfl⟩
  have hy : y.build.result = .ok y.store :=
    Settings.result_build_eq_ok_iff.2 ⟨⟨by decide, by decide⟩, rfl⟩
  obtain ⟨-, hstdout, hnotes, -, hirrelevant⟩ :=
    subblock_eq_dump script hx "b" false false false none none
  exact ⟨by decide, hstdout, hnotes, (hirrelevant y y.store hy rfl (by decide)).1, by decide,
    by decide⟩

end CommandLine.Invocation

end BlockConfig
