/-
BlockConfig.Proofs.Program.Readable — results that can be read back.

`dump`, `subblock`, `unset` and `merge` print entries as lines, and `keys`
prints keys. Lines can be cut apart again if no line end stands in what they
were made of, and an entry can be cut at the equals sign if none stands in
its key. The first is a condition. The second always holds, because what a
command line can bring in are assignments (`Invocation.assignable_outcome`).
So the results tell exactly what was in scope (`results_read_back`), and two
runs of `dump` that print the same show the same.

Results as JSON need no condition (`json_results_read_back`).
-/
import BlockConfig.Proofs.Program.Assignable
import BlockConfig.Proofs.Session.Listing
import BlockConfig.Proofs.Text.JsonReading
import BlockConfig.Proofs.Text.Reading

namespace BlockConfig

open CommandLine

/-! ## 1. Commands that list entries -/

/-- No line end stands in the entries that a store shows. -/
def Store.InLines (s : Store) : Prop :=
  ∀ p ∈ s.entries.toList, '\n' ∉ p.1.toList ∧ '\n' ∉ p.2.toList

instance (s : Store) : Decidable s.InLines :=
  inferInstanceAs (Decidable (∀ p ∈ s.entries.toList, '\n' ∉ p.1.toList ∧ '\n' ∉ p.2.toList))

/-- The store whose entries a command prints, if it prints entries, and
whether it prints them as JSON. The store is told by the one that the command
leaves. -/
def Command.listed? (left : Store) : Command → Option (Store × Bool)
  | .dump json | .unset _ json | .merge _ json => some (left, json)
  | .subblock name json => some (left.subblock name, json)
  | _ => none

theorem Store.stdout_printed (s : Store) (v : Verbosity) :
    (s.printed false v).stdout = Listing.shown (s.entries.toList.map Listing.entry) := by
  have hempty : s.entries.isEmpty = true ↔ s.entries.toList.map Listing.entry = [] := by
    rw [List.map_eq_nil_iff, ← List.isEmpty_iff]
    exact Iff.rfl
  unfold printed Listing.shown
  by_cases h : s.entries.isEmpty = true
  · rw [if_neg Bool.false_ne_true, if_pos h, if_pos (hempty.1 h)]
    rfl
  · rw [if_neg Bool.false_ne_true, if_neg h, if_neg (mt hempty.2 h)]
    rfl

theorem Store.read?_printed (s : Store) (v : Verbosity) :
    Json.read? (s.printed true v).stdout = some s.entries.toList := by
  have htext : (s.printed true v).stdout
      = String.ofList (Json.object .pretty s.entries.toList ++ ['\n']) := by
    rw [String.ofList_append]
    rfl
  rw [htext]
  exact Json.read?_object Json.Layout.blank_pretty _ rfl

namespace Command

variable {script : Shell → String} {c : Command} {s shown : Store} {v : Verbosity} {json : Bool}

/-- A command that lists entries and succeeds prints those of the store that
it lists. -/
theorem stdout_of_listed? (h : (c.run script v s).failure = none)
    (hlisted : c.listed? (c.run script v s).store = some (shown, json)) :
    (c.run script v s).printed.stdout = (shown.printed json v).stdout := by
  cases c with
  | dump =>
    cases hlisted
    rfl
  | subblock =>
    cases hlisted
    rw [run, runSubblock, Printed.stdout_append]
    split <;> exact String.empty_append
  | unset key =>
    cases hlisted
    rw [run, runUnset] at h ⊢
    cases hunset : s.unset key with
    | mk events result =>
      cases result with
      | error e =>
        rw [hunset] at h
        cases h
      | ok p => exact String.empty_append
  | merge values =>
    cases hlisted
    rw [run, runMerge] at h ⊢
    cases hmerge : mergeValues s values with
    | mk events result =>
      cases result with
      | error e =>
        rw [hmerge] at h
        cases h
      | ok p => exact String.empty_append
  | _ => cases hlisted

theorem stdout_keys (s : Store) (v : Verbosity) :
    ((keys : Command).run script v s).printed.stdout = Listing.shown s.keys := by
  rw [run, runKeys, Listing.shown]
  by_cases h : s.keys = []
  · rw [if_pos h, if_pos (List.isEmpty_iff.2 h)]
    rfl
  · rw [if_neg h, if_neg (mt List.isEmpty_iff.1 h)]
    rfl

/-- What a command lists is the store it leaves or a block of that. -/
theorem assignable_listed? {left : Store} (hleft : left.Assignable)
    (hlisted : c.listed? left = some (shown, json)) : shown.Assignable := by
  cases c with
  | dump | unset | merge =>
    cases hlisted
    exact hleft
  | subblock =>
    cases hlisted
    exact hleft.subblock _
  | _ => cases hlisted

end Command

/-! ## 2. Runs -/

namespace CommandLine.Invocation

variable {script : Shell → String} {words : List String} {filter : Option String}
  {i : Invocation} {shown : Store} {json : Bool}

theorem stdout_run_of_listed? (h : (i.run script filter).exitCode = 0)
    (hlisted : i.command.listed? (i.outcome script).store = some (shown, json)) :
    (i.run script filter).stdout = (shown.printed json i.globals.verbosity).stdout := by
  obtain ⟨hfailure, hstore, hprinted⟩ := outcome_of_success (failure_of_exitCode h)
  rw [hstore] at hlisted
  exact (congrArg Printed.stdout hprinted).trans (Command.stdout_of_listed? hfailure hlisted)

theorem stdout_run_keys (h : (i.run script filter).exitCode = 0) (hkeys : i.command = .keys) :
    (i.run script filter).stdout = Listing.shown (i.outcome script).store.keys := by
  obtain ⟨-, hstore, hprinted⟩ := outcome_of_success (failure_of_exitCode h)
  rw [hkeys] at hstore hprinted
  rw [hstore]
  exact (congrArg Printed.stdout hprinted).trans (Command.stdout_keys _ _)

/-- Entries that are printed as JSON are read back as they are, whatever
characters stand in them. -/
theorem json_results_read_back (h : (i.run script filter).exitCode = 0)
    (hlisted : i.command.listed? (i.outcome script).store = some (shown, true)) :
    Json.read? (i.run script filter).stdout = some shown.entries.toList := by
  rw [stdout_run_of_listed? h hlisted, Store.read?_printed]

/-- A command line that is understood and carried out, and lists a store
whose entries hold no line ends. -/
structure Tells (script : Shell → String) (words : List String) (filter : Option String)
    (i : Invocation) (shown : Store) : Prop where
  read : Invocation.ofWords words = .ok i
  succeeds : (i.run script filter).exitCode = 0
  listed : i.command.listed? (i.outcome script).store = some (shown, false)
  inLines : shown.InLines

theorem Tells.readEntries (h : Tells script words filter i shown) :
    Listing.readEntries (i.run script filter).stdout = some shown.entries.toList := by
  have hkeys : shown.Assignable :=
    Command.assignable_listed? (assignable_outcome (writable_of_ofWords h.read)) h.listed
  rw [stdout_run_of_listed? h.succeeds h.listed, Store.stdout_printed]
  exact Listing.readEntries_shown (fun p hp => hkeys p.1 (List.mem_map_of_mem hp)) h.inLines

/-- From what `dump`, `subblock`, `unset` and `merge` print as text the
entries in scope can be read back, in ascending order of the bytes of their
keys; nothing is printed exactly if there are none. From what `keys` prints
the keys can be read back. For the entries no line end may stand in them,
for the keys none in the keys. So two of these runs that have different
entries in scope do not print the same. -/
theorem results_read_back (script : Shell → String) :
    (∀ (words : List String) (filter : Option String) (i : Invocation) (shown : Store),
      Tells script words filter i shown →
        respond script words filter = .ok (i.run script filter)
        ∧ ((i.run script filter).stdout = "" ↔ shown.entries.toList = [])
        ∧ Listing.readEntries (i.run script filter).stdout = some shown.entries.toList
        ∧ shown.keys.Pairwise fun a b => utf8 a < utf8 b)
    ∧ (∀ (words : List String) (filter : Option String) (i : Invocation),
        Invocation.ofWords words = .ok i → (i.run script filter).exitCode = 0 → i.command = .keys →
        (∀ key ∈ (i.outcome script).store.keys, '\n' ∉ key.toList) →
          respond script words filter = .ok (i.run script filter)
          ∧ Listing.readLines (i.run script filter).stdout = some (i.outcome script).store.keys)
    ∧ ∀ (words words' : List String) (filter filter' : Option String) (i i' : Invocation)
        (shown shown' : Store), Tells script words filter i shown →
        Tells script words' filter' i' shown' → shown.entries ≠ shown'.entries →
          (i.run script filter).stdout ≠ (i'.run script filter').stdout := by
  have hrespond : ∀ {words : List String} {i : Invocation} (filter : Option String),
      Invocation.ofWords words = .ok i → respond script words filter = .ok (i.run script filter) :=
    fun filter hread => map_eq_ok_iff.2 ⟨_, hread, rfl⟩
  refine ⟨fun words filter i shown h => ?_, fun words filter i hread hexit hcommand hkeys => ?_,
    fun words words' filter filter' i i' shown shown' h h' hne heq => hne ?_⟩
  · refine ⟨hrespond filter h.read, ?_, h.readEntries, shown.ascending_keys⟩
    rw [stdout_run_of_listed? h.succeeds h.listed, Store.stdout_printed,
      Listing.shown_eq_empty_iff, List.map_eq_nil_iff]
  · refine ⟨hrespond filter hread, ?_⟩
    rw [stdout_run_keys hexit hcommand]
    exact Listing.readLines_shown hkeys
  · have hread : some shown.entries.toList = some shown'.entries.toList := by
      rw [← h.readEntries, ← h'.readEntries, heq]
    exact Table.toList_inj.1 (Option.some.inj hread)

/-- Below the block `a=b`, whose entries get a full key with an equals sign.
A key ends with a blank, and values have equals signs and blanks at their
ends. Then the keys in another block, and two stores that are not listed
alike. -/
theorem results_read_back_below_equals :
    let i : Invocation :=
      { globals := { settings := { block := some "a=b" } }
        command := .merge [("k ", "x = y"), ("b c", " =")] false }
    let keys : Invocation :=
      { globals := { settings := { values := [("db:b", "1"), ("db:a", "2\n"), ("c", "3")]
                                   block := some "db" } }
        command := .keys }
    let dump : Invocation :=
      { globals := { settings := { values := [("k", "x = y"), ("b c", " =")] } }
        command := .dump false }
    let script := Completion.script
    (i.run script none).stdout = "b c =  =\nk  = x = y\n"
      ∧ Listing.readEntries (i.run script none).stdout = some [("b c", " ="), ("k ", "x = y")]
      ∧ Listing.readLines (keys.run script none).stdout = some ["a", "b"]
      ∧ (i.run script none).stdout ≠ (dump.run script none).stdout := by
  intro i keys dump script
  obtain ⟨hentries, hkeys, hdiffer⟩ := results_read_back script
  have hi : Tells script ["--block", "a=b", "merge", "--with", "k =x = y", "--with=b c= ="] none i
      (i.outcome script).store := ⟨rfl, by decide, rfl, by decide⟩
  have hdump : Tells script ["dump", "-s", "k=x = y", "-sb c= ="] none dump
      (dump.outcome script).store := ⟨rfl, by decide, rfl, by decide⟩
  obtain ⟨-, -, hread, -⟩ := hentries _ _ _ _ hi
  have hkeysRead := (hkeys ["-s", "db:b=1", "-s", "db:a=2\n", "-sc=3", "--block=db", "keys"] none
    keys rfl (by decide) rfl (by decide)).2
  exact ⟨by decide, hread.trans (by decide), hkeysRead.trans (by decide),
    hdiffer _ _ _ _ _ _ _ _ hi hdump (by decide)⟩

end CommandLine.Invocation

end BlockConfig
