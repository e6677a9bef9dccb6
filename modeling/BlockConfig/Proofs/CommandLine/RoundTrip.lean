/-
BlockConfig.Proofs.CommandLine.RoundTrip — an invocation that is written as
a command line is read back.

`Invocation.words` and `Invocation.wordsInside` attach every value to its
option and put the operand behind `--`. So no value and no operand can be
taken for anything else: not one that begins with a dash, not one that is
empty, not one that is spelled like an option or a command word. Nothing is
asked of them. What is asked is that the keys of assignments are not empty
and hold no equals sign (`Invocation.Writable`), since the first equals sign
of an assignment is where its key ends.

The proof lists the pieces that an invocation says, shows that the two
written forms are spellings of them (`Written`), and computes what they
come to (`Gathered.addAll`). The common options may stand on either level.
Where they stand on one only, that level decides (`Globals.over`).
-/
import BlockConfig.Proofs.CommandLine.Reading

namespace BlockConfig

/-- A pair that can be written as an assignment and read back. -/
def Assignment.Writable (pair : String × String) : Prop := pair.1 ≠ "" ∧ '=' ∉ pair.1.toList

namespace CommandLine

/-- All pairs of an invocation can be written as assignments. -/
structure Invocation.Writable (i : Invocation) : Prop where
  values : ∀ p ∈ i.globals.settings.values, Assignment.Writable p
  incoming : ∀ values json, i.command = .merge values json → ∀ p ∈ values, Assignment.Writable p

/-! ## 1. What an invocation says -/

def switchPieces (o : Opt) (on : Bool) : List Piece := if on then [.switch o] else []

def Globals.pieces (g : Globals) : List Piece :=
  g.settings.values.map (fun p => .value .set (Assignment.write p))
    ++ (g.settings.locks.map (fun key => .value .lock key)
    ++ (g.settings.block.toList.map (fun name => .value .block name)
    ++ (switchPieces .debug g.debug ++ switchPieces .quiet g.quiet)))

def optionPieces : Command → List Piece
  | .get _ default => default.toList.map fun text => .value .default text
  | .dump json | .subblock _ json | .unset _ json => switchPieces .json json
  | .merge values json =>
    values.map (fun p => .value .incoming (Assignment.write p)) ++ switchPieces .json json
  | .has _ | .keys | .completion _ => []

def operandPieces : Command → List Piece
  | .get key _ | .has key | .unset key _ => [.operand key]
  | .subblock name _ => [.operand name]
  | .completion shell => [.operand shell.name]
  | .keys | .dump _ | .merge .. => []

/-! ## 2. The written forms are spellings of it -/

section Spelling

variable {l : Level} {ps : List Piece} {ws : List String}

theorem Written.attached {α : Type} {o : Opt} (ho : o ∈ l.options) (text : α → String)
    (as : List α) (h : Written l ps ws) :
    Written l (as.map (fun a => .value o (text a)) ++ ps)
      (as.map (fun a => o.attach (text a)) ++ ws) := by
  induction as with
  | nil => exact h
  | cons a as ih => simpa using Written.value ho (.attached : o.Spells (text a) _) ih

theorem Written.switched {o : Opt} (ho : o ∈ l.options) (on : Bool) (h : Written l ps ws) :
    Written l (switchPieces o on ++ ps) (o.switch on ++ ws) := by
  cases on with
  | false => exact h
  | true => exact .switch ho .long h

/-- The options that hold for every command may stand on every level. -/
theorem common_mem_options (l : Level) :
    .set ∈ l.options ∧ .lock ∈ l.options ∧ .block ∈ l.options ∧ .debug ∈ l.options
      ∧ .quiet ∈ l.options := by
  cases l with
  | outer => decide
  | inner v => simp [Level.options]

theorem Written.globals (g : Globals) (h : Written l ps ws) :
    Written l (g.pieces ++ ps) (g.words ++ ws) := by
  obtain ⟨hset, hlock, hblock, hdebug, hquiet⟩ := common_mem_options l
  have hall := Written.attached hset Assignment.write g.settings.values
    (Written.attached hlock id g.settings.locks
      (Written.attached hblock id g.settings.block.toList
        (Written.switched hdebug g.debug (Written.switched hquiet g.quiet h))))
  simpa [Globals.pieces, Globals.words, List.append_assoc] using hall

theorem Written.operand_of_command (c : Command) :
    Written (.inner (verbOf c)) (operandPieces c) (operandWords c) := by
  cases c with
  | keys | dump | merge => exact .nil
  | _ => exact .last _ rfl

theorem default_mem_options : .default ∈ (Level.inner .get).options := by decide

theorem incoming_mem_options : .incoming ∈ (Level.inner .merge).options := by decide

theorem json_mem_options {v : Verb} (h : .json ∈ v.options) : .json ∈ (Level.inner v).options :=
  List.mem_append_right _ h

theorem Written.command (c : Command) :
    Written (.inner (verbOf c)) (optionPieces c ++ operandPieces c)
      (optionWords c ++ operandWords c) := by
  have hoperand := Written.operand_of_command c
  cases c with
  | get key default =>
    exact .attached default_mem_options id default.toList hoperand
  | dump json | subblock name json | unset key json =>
    exact .switched (json_mem_options (by simp [verbOf, Verb.options])) json hoperand
  | merge values json =>
    rw [optionPieces, optionWords, List.append_assoc, List.append_assoc]
    exact .attached incoming_mem_options Assignment.write values
      (.switched (json_mem_options (by simp [Verb.options])) json hoperand)
  | has | keys | completion => exact hoperand

end Spelling

/-! ## 3. What it comes to -/

namespace Gathered

variable {l : Level}

theorem accept_set {p : String × String} (hp : Assignment.Writable p) (g : Gathered) :
    g.accept .set (Assignment.write p)
      = .ok { g with globals.settings.values := g.globals.settings.values ++ [p] } := by
  rw [accept, assignment, Assignment.parse_write hp.1 hp.2]
  rfl

theorem accept_incoming {p : String × String} (hp : Assignment.Writable p) (g : Gathered) :
    g.accept .incoming (Assignment.write p) = .ok { g with incoming := g.incoming ++ [p] } := by
  rw [accept, assignment, Assignment.parse_write hp.1 hp.2]
  rfl

/-- An option that may be repeated: its values come to what they come to
together. -/
theorem addAll_repeated {α : Type} {o : Opt} {text : α → String}
    (push : Gathered → List α → Gathered) (hnil : ∀ g, push g [] = g)
    (hcons : ∀ g a as, push (push g [a]) as = push g (a :: as)) {as : List α}
    (haccept : ∀ g : Gathered, ∀ a ∈ as, g.accept o (text a) = .ok (push g [a])) (g : Gathered)
    (ps : List Piece) :
    g.addAll l (as.map (fun a => .value o (text a)) ++ ps) = (push g as).addAll l ps := by
  induction as generalizing g with
  | nil => rw [hnil]; rfl
  | cons a as ih =>
    have hfirst : g.add l (.value o (text a)) = .ok (push g [a]) :=
      haccept g a List.mem_cons_self
    rw [List.map_cons, List.cons_append, addAll_cons_of_ok hfirst,
      ih fun g b hb => haccept g b (List.mem_cons_of_mem a hb), hcons]

theorem addAll_values {pairs : List (String × String)}
    (hw : ∀ p ∈ pairs, Assignment.Writable p) (g : Gathered) (ps : List Piece) :
    g.addAll l (pairs.map (fun p => .value .set (Assignment.write p)) ++ ps)
      = addAll l { g with globals.settings.values := g.globals.settings.values ++ pairs } ps :=
  addAll_repeated
    (fun g as => { g with globals.settings.values := g.globals.settings.values ++ as })
    (fun g => by simp) (fun g a as => by simp) (fun g p hp => accept_set (hw p hp) g) g ps

theorem addAll_locks (keys : List String) (g : Gathered) (ps : List Piece) :
    g.addAll l (keys.map (fun key => .value .lock key) ++ ps)
      = addAll l { g with globals.settings.locks := g.globals.settings.locks ++ keys } ps :=
  addAll_repeated
    (fun g as => { g with globals.settings.locks := g.globals.settings.locks ++ as })
    (fun g => by simp) (fun g a as => by simp) (fun _ _ _ => rfl) g ps

theorem addAll_incoming {pairs : List (String × String)}
    (hw : ∀ p ∈ pairs, Assignment.Writable p) (g : Gathered) (ps : List Piece) :
    g.addAll l (pairs.map (fun p => .value .incoming (Assignment.write p)) ++ ps)
      = addAll l { g with incoming := g.incoming ++ pairs } ps :=
  addAll_repeated (fun g as => { g with incoming := g.incoming ++ as })
    (fun g => by simp) (fun g a as => by simp) (fun g p hp => accept_incoming (hw p hp) g) g ps

/-- The pieces of the common options come to the common options. -/
theorem addAll_globals {g : Globals} (hw : ∀ p ∈ g.settings.values, Assignment.Writable p)
    (ps : List Piece) : addAll l {} (g.pieces ++ ps) = addAll l { globals := g } ps := by
  obtain ⟨⟨values, locks, block⟩, debug, quiet⟩ := g
  rw [Globals.pieces, List.append_assoc, addAll_values hw, List.append_assoc, addAll_locks]
  cases block <;> cases debug <;> cases quiet <;> rfl

/-- The pieces of a command come to that command and leave the common
options alone. -/
theorem addAll_command {c : Command}
    (hw : ∀ values json, c = .merge values json → ∀ p ∈ values, Assignment.Writable p)
    (g : Globals) :
    ∃ last, addAll (.inner (verbOf c)) { globals := g } (optionPieces c ++ operandPieces c)
        = .ok last ∧ last.globals = g ∧ last.command (verbOf c) = .ok c := by
  cases c with
  | get key default => cases default <;> exact ⟨_, rfl, rfl, rfl⟩
  | has key => exact ⟨_, rfl, rfl, rfl⟩
  | keys => exact ⟨_, rfl, rfl, rfl⟩
  | dump json | subblock name json | unset key json => cases json <;> exact ⟨_, rfl, rfl, rfl⟩
  | merge values json =>
    rw [optionPieces, List.append_assoc, addAll_incoming (hw values json rfl)]
    cases json <;> exact ⟨_, rfl, rfl, rfl⟩
  | completion shell => cases shell <;> exact ⟨_, rfl, rfl, rfl⟩

end Gathered

/-! ## 4. Reading back -/

theorem Globals.empty_over (g : Globals) : ({} : Globals).over g = g := by
  obtain ⟨⟨values, locks, block⟩, debug, quiet⟩ := g
  simp [Globals.over]

theorem Globals.over_empty (g : Globals) : g.over {} = g := by
  obtain ⟨⟨values, locks, block⟩, debug, quiet⟩ := g
  cases values <;> cases locks <;> cases block <;> simp [Globals.over]

theorem ofWords_words {i : Invocation} (hw : i.Writable) : Invocation.ofWords i.words = .ok i := by
  have houter : Written .outer i.globals.pieces i.globals.words := by
    simpa using Written.globals (l := .outer) i.globals .nil
  have hglobals : Gathered.addAll .outer {} i.globals.pieces = .ok { globals := i.globals } := by
    simpa using Gathered.addAll_globals (l := .outer) hw.values []
  obtain ⟨last, hlast, hlastGlobals, hcommand⟩ := Gathered.addAll_command hw.incoming {}
  rw [Invocation.words, ofWords_of_written houter (.command i.command) hglobals hlast hcommand,
    hlastGlobals, Globals.empty_over]

theorem ofWords_wordsInside {i : Invocation} (hw : i.Writable) :
    Invocation.ofWords i.wordsInside = .ok i := by
  obtain ⟨last, hlast, hlastGlobals, hcommand⟩ := Gathered.addAll_command hw.incoming i.globals
  have hinner := Written.globals i.globals (Written.command i.command)
  have hgathered := (Gathered.addAll_globals hw.values _).trans hlast
  have hnothing : Gathered.addAll .outer {} [] = .ok {} := rfl
  have hread := ofWords_of_written .nil hinner hnothing hgathered hcommand
  rw [hlastGlobals, Globals.over_empty] at hread
  simpa [Invocation.wordsInside] using hread

/-- Every invocation whose assignments can be written is read back from
both of its command lines, and shares neither of them with another
invocation. -/
theorem ofWords_canonical {i : Invocation} (hw : i.Writable) :
    Invocation.ofWords i.words = .ok i
    ∧ Invocation.ofWords i.wordsInside = .ok i
    ∧ ∀ j : Invocation, j.Writable → ∀ line, (line = i.words ∨ line = i.wordsInside) →
        (line = j.words ∨ line = j.wordsInside) → j = i := by
  refine ⟨ofWords_words hw, ofWords_wordsInside hw, fun j hj line hi hjline => ?_⟩
  have hreadi : Invocation.ofWords line = .ok i := by
    rcases hi with rfl | rfl
    · exact ofWords_words hw
    · exact ofWords_wordsInside hw
  have hreadj : Invocation.ofWords line = .ok j := by
    rcases hjline with rfl | rfl
    · exact ofWords_words hj
    · exact ofWords_wordsInside hj
  exact Except.ok.inj (hreadj.symm.trans hreadi)

/-- A value with equals signs, a lock and a block that look like options,
and an operand that is spelled like one. -/
theorem canonical_of_dashes :
    let i : Invocation :=
      { globals := { settings := { values := [("-k", "=--"), ("a", "")], locks := ["--", ""],
                                   block := some "--quiet" },
                     debug := true },
        command := .get "--default=x" (some "-") }
    i.Writable
      ∧ i.words = ["--set=-k==--", "--set=a=", "--lock=--", "--lock=", "--block=--quiet",
        "--debug", "get", "--default=-", "--", "--default=x"]
      ∧ Invocation.ofWords i.words = .ok i := by
  intro i
  have hw : i.Writable := by
    refine ⟨fun p hp => ?_, fun values json h => by cases h⟩
    simp only [i, List.mem_cons, List.not_mem_nil, or_false] at hp
    rcases hp with rfl | rfl <;> exact ⟨by decide, by decide⟩
  exact ⟨hw, by decide, (ofWords_canonical hw).1⟩

end CommandLine

end BlockConfig
