/-
BlockConfig.Proofs.Program.Verbosity — how much is said makes no difference
to what is done.

Being quiet leaves the notes of a command out, and that is all it does:
`Command.run_eq_heard` says that a command at any verbosity is the command
at the normal one, heard at that verbosity. Everything else follows from
this equation. It carries over to commands one after another on one store
(`Command.series_eq_heard`), since what is heard does not touch the store
that the next command is given, and to a whole invocation
(`Invocation.outcome_withSwitches`). The log filter comes in only after
that, where events become entries.

A command that fails has no notes (`Command.printed_of_failure`), so what is
said of a failure is the error line alone and does not depend on the
verbosity either.

The standard error holds log entries first and then the notes. An entry may
span several lines, and a reader who knows an entry by its first line takes
the others for notes. Where every entry is one line the reader's view
(`Ending.stderr`) is the notes.
-/
import Mathlib.Data.List.Forall2
import BlockConfig.Completion
import BlockConfig.Program

namespace BlockConfig

open CommandLine

/-! ## 1. What is heard -/

namespace Printed

/-- What is heard of it: no notes when quiet, and else all. -/
def heard (p : Printed) (v : Verbosity) : Printed :=
  { p with notes := if v = .quiet then [] else p.notes }

@[simp] theorem stdout_heard (p : Printed) (v : Verbosity) : (p.heard v).stdout = p.stdout := rfl

@[simp] theorem notes_heard_quiet (p : Printed) : (p.heard .quiet).notes = [] := rfl

@[simp] theorem heard_empty (v : Verbosity) : ({} : Printed).heard v = {} := by
  cases v <;> rfl

theorem heard_of_ne_quiet {v : Verbosity} (h : v ≠ .quiet) (p : Printed) : p.heard v = p := by
  rw [heard, if_neg h]

theorem ofNote_eq_heard (v : Verbosity) (message : String) :
    ofNote v message = (ofNote .normal message).heard v := by
  cases v <;> rfl

theorem ofLine_eq_heard (v : Verbosity) (line : String) : ofLine line = (ofLine line).heard v := by
  cases v <;> rfl

theorem append_heard (p q : Printed) (v : Verbosity) :
    (p ++ q).heard v = p.heard v ++ q.heard v := by
  cases v <;> rfl

end Printed

/-- The entries of a store are heard like everything else. -/
theorem Store.printed_eq_heard (s : Store) (json : Bool) (v : Verbosity) :
    s.printed json v = (s.printed json .normal).heard v := by
  unfold Store.printed
  split
  · exact Printed.ofLine_eq_heard v _
  · split
    · exact Printed.ofNote_eq_heard v _
    · exact Printed.ofLine_eq_heard v _

/-- What is heard of an outcome. -/
def Outcome.heard (o : Outcome) (v : Verbosity) : Outcome :=
  { o with printed := o.printed.heard v }

/-! ## 2. Commands -/

namespace Command

variable {script : Shell → String}

/-- A command at a verbosity is the command at the normal one, heard at that
verbosity. -/
theorem run_eq_heard (c : Command) (v : Verbosity) (s : Store) :
    c.run script v s = (c.run script .normal s).heard v := by
  cases c with
  | get key default =>
    simp only [run, runGet]
    cases default with
    | some text => exact congrArg (Outcome.mk · _ _ _) (Printed.ofLine_eq_heard v _)
    | none =>
      cases s.get key with
      | ok value => exact congrArg (Outcome.mk · _ _ _) (Printed.ofLine_eq_heard v _)
      | error e => exact congrArg (Outcome.mk · _ _ _) (Printed.heard_empty v).symm
  | has key => exact congrArg (Outcome.mk · _ _ _) (Printed.ofLine_eq_heard v _)
  | keys =>
    simp only [run, runKeys, Outcome.heard]
    split
    · exact congrArg (Outcome.mk · _ _ _) (Printed.ofNote_eq_heard v _)
    · exact congrArg (Outcome.mk · _ _ _) (Printed.ofLine_eq_heard v _)
  | dump json => exact congrArg (Outcome.mk · _ _ _) (s.printed_eq_heard json v)
  | subblock name json =>
    simp only [run, runSubblock, Outcome.heard, Printed.append_heard,
      ← Store.printed_eq_heard]
    split
    · rw [← Printed.ofNote_eq_heard]
    · rw [Printed.heard_empty]
  | unset key json =>
    simp only [run, runUnset]
    split
    · simp only [Outcome.heard, Printed.append_heard, ← Store.printed_eq_heard,
        ← Printed.ofNote_eq_heard]
    · simp only [Outcome.heard, Printed.heard_empty]
  | merge values json =>
    simp only [run, runMerge]
    split
    · simp only [Outcome.heard, Printed.append_heard, ← Store.printed_eq_heard,
        ← Printed.ofNote_eq_heard]
    · simp only [Outcome.heard, Printed.heard_empty]
  | completion shell =>
    refine congrArg (Outcome.mk · _ _ _) ?_
    cases v <;> rfl

/-- A command that fails prints nothing. -/
theorem printed_of_failure {c : Command} {v : Verbosity} {s : Store}
    (h : (c.run script v s).failure ≠ none) : (c.run script v s).printed = {} := by
  cases c with
  | get key default =>
    simp only [run, runGet] at h ⊢
    cases default with
    | some text => exact absurd rfl h
    | none =>
      cases hg : s.get key with
      | ok value =>
        rw [hg] at h
        exact absurd rfl h
      | error e => rfl
  | unset key json =>
    simp only [run, runUnset] at h ⊢
    split
    · next hu =>
      rw [hu] at h
      exact absurd rfl h
    · rfl
  | merge values json =>
    simp only [run, runMerge] at h ⊢
    split
    · next hm =>
      rw [hm] at h
      exact absurd rfl h
    · rfl
  | _ => exact absurd rfl h

/-- The outcomes of commands one after another, each on the store that the
one before it left. -/
def series (script : Shell → String) (v : Verbosity) : Store → List Command → List Outcome
  | _, [] => []
  | s, c :: cs => c.run script v s :: series script v (c.run script v s).store cs

theorem series_eq_heard (v : Verbosity) (s : Store) (cs : List Command) :
    series script v s cs = (series script .normal s cs).map fun o => o.heard v := by
  induction cs generalizing s with
  | nil => rfl
  | cons c cs ih =>
    have hstore : (c.run script v s).store = (c.run script .normal s).store := by
      rw [run_eq_heard]
      rfl
    rw [series, series, List.map_cons, ← run_eq_heard, hstore, ih]

theorem printed_of_mem_series {v : Verbosity} {s : Store} {cs : List Command} {o : Outcome}
    (ho : o ∈ series script v s cs) (h : o.failure ≠ none) : o.printed = {} := by
  induction cs generalizing s with
  | nil => cases ho
  | cons c cs ih =>
    rcases List.mem_cons.1 ho with rfl | ho
    · exact printed_of_failure h
    · exact ih ho

end Command

/-! ## 3. Two verbosities -/

/-- What two outcomes at two verbosities have in common. The first field
says that both do the same; the others are about the notes. -/
structure Outcome.Alike (v w : Verbosity) (o p : Outcome) : Prop where
  same : o.printed.stdout = p.printed.stdout ∧ o.events = p.events ∧ o.store = p.store
    ∧ o.failure = p.failure
  failed : o.failure ≠ none → o.printed.notes = p.printed.notes
  quiet : v = .quiet → o.printed.notes = []
  loud : (v = .quiet ↔ w = .quiet) → o.printed.notes = p.printed.notes

theorem Outcome.alike_heard {o : Outcome} (h : o.failure ≠ none → o.printed = {})
    (v w : Verbosity) : Alike v w (o.heard v) (o.heard w) := by
  refine ⟨⟨rfl, rfl, rfl, rfl⟩, fun hf => ?_, ?_, fun hvw => ?_⟩
  · simp only [heard, h hf, Printed.heard_empty]
  · rintro rfl
    rfl
  · by_cases hv : v = .quiet
    · rw [hv, hvw.1 hv]
    · simp only [heard, Printed.heard_of_ne_quiet hv, Printed.heard_of_ne_quiet (mt hvw.2 hv)]

theorem Command.series_alike (script : Shell → String) (v w : Verbosity) (s : Store)
    (cs : List Command) :
    List.Forall₂ (Outcome.Alike v w) (series script v s cs) (series script w s cs) := by
  rw [series_eq_heard v, series_eq_heard w, List.forall₂_map_left_iff, List.forall₂_map_right_iff,
    List.forall₂_same]
  exact fun o ho => Outcome.alike_heard (printed_of_mem_series ho) v w

namespace CommandLine.Invocation

variable {script : Shell → String}

/-- The same invocation with other switches. -/
def withSwitches (i : Invocation) (quiet debug : Bool) : Invocation :=
  { i with globals := { i.globals with quiet, debug } }

theorem outcome_withSwitches (i : Invocation) (quiet debug : Bool) :
    (i.withSwitches quiet debug).outcome script
      = ((i.withSwitches false false).outcome script).heard (.ofSwitches quiet debug) := by
  simp only [outcome, withSwitches]
  split
  · simp only [Outcome.heard, Printed.heard_empty]
  · rw [Command.run_eq_heard]
    rfl

/-- A failed invocation prints nothing but its error. -/
theorem printed_of_failure {i : Invocation} (h : (i.outcome script).failure ≠ none) :
    (i.outcome script).printed = {} := by
  unfold outcome at h ⊢
  split
  · rfl
  · next hb =>
    rw [hb] at h
    exact Command.printed_of_failure h

end CommandLine.Invocation

/-! ## 4. Two runs -/

namespace Ending

/-- Every log entry is one line. It is more than that if a text in it, such as
a value that was set, holds a line end. -/
def LogInLines (e : Ending) : Prop := ∀ entry ∈ e.entries, '\n' ∉ entry.toList

instance (e : Ending) : Decidable e.LogInLines :=
  inferInstanceAs (Decidable (∀ entry ∈ e.entries, '\n' ∉ entry.toList))

/-- Where log entries are lines, a reader finds nothing but notes beside
them. -/
theorem stderr_eq_notes {e : Ending} (h : e.LogInLines) : e.stderr = e.notes := by
  have hothers : ∀ entries : List String, (∀ entry ∈ entries, '\n' ∉ entry.toList) →
      String.join (entries.map Lines.others) = "" := by
    intro entries
    induction entries with
    | nil => intro _; rfl
    | cons entry rest ih =>
      intro hall
      rw [List.forall_mem_cons] at hall
      simpa [String.join, Lines.others_eq_empty hall.1] using ih hall.2
  rw [stderr, hothers _ h, String.empty_append]

/-- The ending of `-s "a=1\n2" has a` under a filter that lets all events
through. There are no notes, but the entry that tells of the value goes on
behind the line end, and that line is found beside the log. -/
example :
    let i : Invocation :=
      { globals := { settings := { values := [("a", "1\n2")] } }, command := .has "a" }
    let o := i.outcome Completion.script
    let e : Ending :=
      { exitCode := 0, stdout := o.printed.stdout, entries := o.events.map Event.entry
        notes := o.printed.stderr }
    ¬ e.LogInLines ∧ e.notes = "" ∧ e.stderr = "2\n" := by
  decide

/-- What two texts beside the log have in common, of runs that end with one
exit code. The switches say whether each run was to be quiet. -/
structure SaidAlike (exitCode : Nat) (hush hush' : Bool) (said said' : String) : Prop where
  failed : exitCode = 1 → said = said'
  quiet : exitCode = 0 → hush = true → said = ""
  loud : exitCode = 0 → hush = hush' → said = said'

end Ending

theorem Verbosity.ofSwitches_eq_quiet_iff {quiet debug : Bool} :
    ofSwitches quiet debug = .quiet ↔ quiet = true := by
  cases quiet <;> cases debug <;> decide

namespace CommandLine.Invocation

variable {script : Shell → String}

theorem exitCode_run (i : Invocation) (filter : Option String) :
    (i.run script filter).exitCode = if (i.outcome script).failure.isSome then 1 else 0 := rfl

theorem notes_run_of_success {i : Invocation} (h : (i.outcome script).failure = none)
    (filter : Option String) : (i.run script filter).notes = (i.outcome script).printed.stderr := by
  simp [run, h, Printed.stderr]

/-- What is said of a failure is its error line. -/
theorem notes_run_of_failure {i : Invocation} {f : Failure}
    (h : (i.outcome script).failure = some f) (filter : Option String) :
    (i.run script filter).notes = "error: " ++ f.message ++ "\n" := by
  have hprinted : (i.outcome script).printed = {} := printed_of_failure (by simp [h])
  simp [run, h, hprinted, Printed.stderr, Printed.ofError, Printed.errorLine, String.join]

variable (script) in
theorem saidAlike_notes (i : Invocation) (quiet debug quiet' debug' : Bool)
    (filter filter' : Option String) :
    Ending.SaidAlike ((i.withSwitches quiet debug).run script filter).exitCode quiet quiet'
      ((i.withSwitches quiet debug).run script filter).notes
      ((i.withSwitches quiet' debug').run script filter').notes := by
  have hbase : ((i.withSwitches false false).outcome script).failure ≠ none →
      ((i.withSwitches false false).outcome script).printed = {} := printed_of_failure
  have halike := Outcome.alike_heard hbase (.ofSwitches quiet debug) (.ofSwitches quiet' debug')
  rw [← outcome_withSwitches, ← outcome_withSwitches] at halike
  rw [exitCode_run]
  cases hf : ((i.withSwitches quiet debug).outcome script).failure with
  | some f =>
    have hf' := halike.same.2.2.2.symm.trans hf
    refine ⟨fun _ => ?_, fun h => ?_, fun h => ?_⟩
    · rw [notes_run_of_failure hf, notes_run_of_failure hf']
    · cases h
    · cases h
  | none =>
    have hf' := halike.same.2.2.2.symm.trans hf
    rw [notes_run_of_success hf, notes_run_of_success hf']
    refine ⟨fun h => ?_, fun _ hq => ?_, fun _ hq => ?_⟩
    · cases h
    · rw [Printed.stderr, halike.quiet (Verbosity.ofSwitches_eq_quiet_iff.2 hq)]
      rfl
    · rw [Printed.stderr, Printed.stderr, halike.loud]
      rw [Verbosity.ofSwitches_eq_quiet_iff, Verbosity.ofSwitches_eq_quiet_iff, hq]

/-- One invocation under any two choices of the switches and of the log
filter: the results, the exit code and the store are the same. What is said
beside the log is the same if the invocation fails; if it succeeds it is
nothing when quiet, and otherwise does not depend on the other choices. And
so it is with commands one after another on one store.

What is said are the notes. A reader who takes every line for a note that
does not begin an entry (`Ending.stderr`) finds the same, unless a logged
text holds a line end: then the lines that he finds depend on the filter. -/
theorem run_withSwitches (script : Shell → String) (i : Invocation)
    (quiet debug quiet' debug' : Bool) (filter filter' : Option String) :
    let one := i.withSwitches quiet debug
    let other := i.withSwitches quiet' debug'
    let r := one.run script filter
    let r' := other.run script filter'
    (r.stdout = r'.stdout ∧ r.exitCode = r'.exitCode
        ∧ (one.outcome script).store = (other.outcome script).store)
    ∧ Ending.SaidAlike r.exitCode quiet quiet' r.notes r'.notes
    ∧ (r.LogInLines → r'.LogInLines →
        Ending.SaidAlike r.exitCode quiet quiet' r.stderr r'.stderr)
    ∧ ∀ (s : Store) (cs : List Command),
        List.Forall₂
          (Outcome.Alike (.ofSwitches quiet debug) (.ofSwitches quiet' debug'))
          (Command.series script (.ofSwitches quiet debug) s cs)
          (Command.series script (.ofSwitches quiet' debug') s cs) := by
  intro one other r r'
  have hsaid := saidAlike_notes script i quiet debug quiet' debug' filter filter'
  have hone : one.outcome script = _ := i.outcome_withSwitches quiet debug
  have hother : other.outcome script = _ := i.outcome_withSwitches quiet' debug'
  have hfailure : (one.outcome script).failure = (other.outcome script).failure := by
    rw [hone, hother]
    rfl
  refine ⟨⟨?_, ?_, ?_⟩, hsaid, fun hr hr' => ?_, Command.series_alike script _ _⟩
  · show (one.outcome script).printed.stdout = (other.outcome script).printed.stdout
    rw [hone, hother]
    rfl
  · show (if (one.outcome script).failure.isSome then 1 else 0)
      = if (other.outcome script).failure.isSome then 1 else 0
    rw [hfailure]
  · rw [hone, hother]
    rfl
  · rw [Ending.stderr_eq_notes hr, Ending.stderr_eq_notes hr']
    exact hsaid

end CommandLine.Invocation

end BlockConfig
