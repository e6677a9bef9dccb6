/-
BlockConfig.Proofs.Program.Series — what assignments can and cannot bring in.

An assignment is cut at its first equals sign. So the texts that are read are
the ones with something in front of that sign, and each is read as one pair
only, with a key that holds no equals sign. The others have no equals sign at
all, or begin with one, and the complaint tells which
(`Assignment.parse_eq_error_iff`).

All values come into a store in this way, those of the settings and those of
`merge`. Hence no key with an equals sign is ever shown, however many
commands are carried out one after another on what a command line builds
(`Command.series_withoutEquals`). This is about the keys as they are shown.
In the storage there may be such keys, because the name of a block is not
read as an assignment: to merge `k=1` below the block `a=b` is to write the
full key `a=b:k`.
-/
import BlockConfig.Proofs.Program.Readable

namespace BlockConfig

/-! ## 1. Assignments -/

namespace Assignment

instance (pair : String × String) : Decidable (Writable pair) :=
  inferInstanceAs (Decidable (_ ∧ _))

theorem cutAtEquals_eq_none_iff {cs : List Char} : cutAtEquals cs = none ↔ '=' ∉ cs := by
  induction cs with
  | nil => simp [cutAtEquals]
  | cons c rest ih =>
    by_cases hc : c = '='
    · simp [cutAtEquals, hc]
    · simp [cutAtEquals, hc, Ne.symm hc, ih]

/-- A text is refused for one of two reasons, and each has its own error. -/
theorem parse_eq_error_iff {raw : String} {e : AssignmentError} :
    parse raw = .error e
      ↔ ('=' ∉ raw.toList ∧ e = .noEquals raw)
        ∨ ((∃ rest, raw = "=" ++ rest) ∧ e = .noKey raw) := by
  have hstarts : (∃ rest, raw = "=" ++ rest) → '=' ∈ raw.toList := by
    rintro ⟨rest, rfl⟩
    simp [String.toList_append]
  cases hcut : cutAtEquals raw.toList with
  | none =>
    have hequals : '=' ∉ raw.toList := cutAtEquals_eq_none_iff.1 hcut
    have hparse : parse raw = .error (.noEquals raw) := by rw [parse, hcut]
    simp [hparse, hequals, mt hstarts hequals, eq_comm]
  | some parts =>
    obtain ⟨before, after⟩ := parts
    obtain ⟨hraw, hbefore⟩ := cutAtEquals_eq_some hcut
    have hequals : '=' ∈ raw.toList := by simp [hraw]
    cases before with
    | nil =>
      have hstart : ∃ rest, raw = "=" ++ rest := by
        refine ⟨String.ofList after, ?_⟩
        rw [← String.toList_inj, hraw]
        simp [String.toList_append]
      have hparse : parse raw = .error (.noKey raw) := by rw [parse, hcut]
      simp only [hparse, hequals, hstart, not_true, false_and, true_and, false_or,
        Except.error.injEq, eq_comm]
    | cons c before =>
      -- The first character is part of the key, so it is no equals sign.
      have hstart : ¬ ∃ rest, raw = "=" ++ rest := by
        rintro ⟨rest, hrest⟩
        rw [hrest, String.toList_append] at hraw
        have hc : '=' = c := (List.cons.inj hraw).1
        exact hbefore (hc ▸ List.mem_cons_self)
      have hparse : parse raw = .ok (String.ofList (c :: before), String.ofList after) := by
        rw [parse, hcut]
      simp [hparse, hequals, hstart]

/-- Two pairs that are written alike are one pair. -/
theorem write_injective_of_writable {p q : String × String} (hp : Writable p) (hq : Writable q)
    (h : write p = write q) : p = q := by
  have hread : parse (write p) = .ok q := parse_eq_ok_iff.2 ⟨h, hq⟩
  rw [parse_eq_ok_iff.2 ⟨rfl, hp⟩] at hread
  exact Except.ok.inj hread

theorem exists_parse_iff {p : String × String} : (∃ raw, parse raw = .ok p) ↔ Writable p := by
  simp only [parse_eq_ok_iff, exists_eq_left]

end Assignment

/-! ## 2. Commands one after another -/

namespace Command

/-- The pairs that a command brings in were read as assignments. -/
def Assigned : Command → Prop
  | .merge values _ => ∀ p ∈ values, ∃ raw, Assignment.parse raw = .ok p
  | _ => True

theorem assigned_iff {c : Command} :
    c.Assigned ↔ ∀ values json, c = .merge values json → ∀ p ∈ values, Assignment.Writable p := by
  cases c with
  | merge values json =>
    simp only [Assigned, Assignment.exists_parse_iff]
    constructor
    · rintro h _ _ ⟨⟩
      exact h
    · intro h
      exact h values json rfl
  | _ => exact iff_of_true trivial nofun

/-- No equals sign stands in a key that is shown afterwards, nor in a key
that the command prints. -/
structure WithoutEquals (v : Verbosity) (c : Command) (o : Outcome) : Prop where
  left : ∀ key ∈ o.store.keys, '=' ∉ key.toList
  listed : ∀ shown json, c.listed? o.store = some (shown, json) →
    (∀ key ∈ shown.keys, '=' ∉ key.toList)
      ∧ (o.failure = none → o.printed.stdout = (shown.printed json v).stdout)

variable (script : Shell → String)

theorem withoutEquals_run {c : Command} {s : Store} (hs : s.Assignable) (hc : c.Assigned)
    (v : Verbosity) : WithoutEquals v c (c.run script v s) := by
  have hleft : (c.run script v s).store.Assignable := assignable_run hs (assigned_iff.1 hc) v
  constructor
  case left => exact hleft
  case listed =>
    intro shown json hlisted
    exact ⟨assignable_listed? hleft hlisted, fun hok => stdout_of_listed? hok hlisted⟩

theorem series_withoutEquals {s : Store} (hs : s.Assignable) {commands : List Command}
    (hc : ∀ c ∈ commands, c.Assigned) (v : Verbosity) :
    List.Forall₂ (WithoutEquals v) commands (series script v s commands) := by
  induction commands generalizing s with
  | nil => exact .nil
  | cons c rest ih =>
    obtain ⟨hfirst, hrest⟩ := List.forall_mem_cons.1 hc
    have hrun := withoutEquals_run script hs hfirst v
    exact .cons hrun (ih hrun.left hrest)

end Command

/-! ## 3. On what a command line builds -/

namespace CommandLine.Invocation

/-- Assignments are the texts with a key in front of an equals sign, and they
tell key and value. What a command line builds from them shows no key with an
equals sign. It shows none after any commands that bring in assignments only,
and prints none, whatever the names of blocks are. -/
theorem assignments_without_equals :
    (∀ raw key value, Assignment.parse raw = .ok (key, value)
        ↔ raw = key ++ "=" ++ value ∧ key ≠ "" ∧ '=' ∉ key.toList)
    ∧ (∀ p q : String × String, p.1 ≠ "" → '=' ∉ p.1.toList → q.1 ≠ "" → '=' ∉ q.1.toList →
        p.1 ++ "=" ++ p.2 = q.1 ++ "=" ++ q.2 → p = q)
    ∧ (∀ key value, key ≠ "" → '=' ∉ key.toList →
        Assignment.parse (key ++ "=" ++ value) = .ok (key, value))
    ∧ (∀ raw message, (∃ e, Assignment.parse raw = .error e ∧ e.message = message)
        ↔ ('=' ∉ raw.toList ∧ message = "expected KEY=VALUE, got '" ++ raw ++ "'")
          ∨ ((∃ rest, raw = "=" ++ rest) ∧ message = "missing key in '" ++ raw ++ "'"))
    ∧ ∀ (words : List String) (i : Invocation) (s : Store), ofWords words = .ok i →
        i.globals.settings.build.result = .ok s →
          i.command.Assigned
          ∧ (∀ key ∈ s.keys, '=' ∉ key.toList)
          ∧ ∀ (script : Shell → String) (v : Verbosity) (commands : List Command),
              (∀ c ∈ commands, c.Assigned) →
                List.Forall₂ (Command.WithoutEquals v) commands
                  (Command.series script v s commands) := by
  refine ⟨fun raw key value => Assignment.parse_eq_ok_iff, ?_, ?_, ?_, ?_⟩
  · intro p q hp hp' hq hq' h
    exact Assignment.write_injective_of_writable ⟨hp, hp'⟩ ⟨hq, hq'⟩ h
  · intro key value hne hequals
    exact Assignment.parse_write hne hequals
  · intro raw message
    simp only [Assignment.parse_eq_error_iff, or_and_right, exists_or, and_assoc, exists_and_left,
      exists_eq_left]
    exact or_congr (and_congr_right fun _ => eq_comm) (and_congr_right fun _ => eq_comm)
  · intro words i s hread hbuild
    have hwritable := writable_of_ofWords hread
    obtain ⟨-, rfl⟩ := Settings.result_build_eq_ok_iff.1 hbuild
    have hs : i.globals.settings.store.Assignable := Settings.assignable_store hwritable.values
    exact ⟨Command.assigned_iff.2 hwritable.incoming, hs,
      fun script v commands hc => Command.series_withoutEquals script hs hc v⟩

/-- Below the block `a=b` two merges, of which the first is refused for its
second key, and then a block is printed. In the end the storage has a key
with an equals sign, in the name of the block. -/
theorem assignments_without_equals_below_equals :
    let words := ["--block=a=b", "-s", "a=1", "--set=k==", "merge", "--with", "k==v="]
    let i : Invocation :=
      { globals := { settings := { values := [("a", "1"), ("k", "=")], block := some "a=b" } }
        command := .merge [("k", "=v=")] false }
    let commands : List Command :=
      [.merge [("c:d", ""), ("::", "=")] false, .merge [("c:d", "=")] true, .subblock "c" false]
    let outcomes := Command.series Completion.script .quiet i.globals.settings.store commands
    ofWords words = .ok i
      ∧ Assignment.parse "k==v=" = .ok ("k", "=v=")
      ∧ (∃ e, Assignment.parse "=k" = .error e ∧ e.message = "missing key in '=k'")
      ∧ List.Forall₂ (Command.WithoutEquals .quiet) commands outcomes
      ∧ outcomes.map (·.printed.stdout) = ["", "\x7b\n  \"c:d\": \"=\"\n\x7d\n", "d = =\n"]
      ∧ ∃ last ∈ outcomes, last.store.storage.entries.contains "a=b:c:d" = true := by
  intro words i commands outcomes
  obtain ⟨hparse, -, -, herror, hrun⟩ := assignments_without_equals
  have hread : ofWords words = .ok i := rfl
  have hbuild : i.globals.settings.build.result = .ok i.globals.settings.store := rfl
  have hcommands : ∀ c ∈ commands, c.Assigned := by
    simp only [commands, List.forall_mem_cons, Command.Assigned, Assignment.exists_parse_iff]
    exact ⟨by decide, by decide, trivial, nofun⟩
  refine ⟨hread, (hparse _ _ _).2 (by decide), (herror _ _).2 (.inr ⟨⟨"k", rfl⟩, by decide⟩), ?_,
    by decide, by decide⟩
  exact (hrun words i _ hread hbuild).2.2 Completion.script .quiet commands hcommands

end CommandLine.Invocation

end BlockConfig
