/-
BlockConfig.Proofs.CommandLine.Sides — repeatable options on both sides of
the command word.

`--set` and `--lock` may be repeated, and they may stand in front of the
command word as well as behind it. Each side keeps its occurrences in order,
between whatever other words. But the inner side replaces the outer one
(`Globals.over`). So a list that is cut in two by the command word loses its
first half, as soon as the second one is not empty: `ofWords_of_sides` says
exactly which lists are read and when they are whole.

A lock that is lost this way protects nothing (`lock_lost_across_sides`).

The two lists and the rest of what is gathered do not meet. A set or a lock
is accepted whatever else was said, and the rest is accepted or refused
whatever was set or locked (`Gathered.add_withLists`). This carries the
induction along the pieces of a side, with the lists as they are so far.
-/
import BlockConfig.Completion
import BlockConfig.Program
import BlockConfig.Proofs.CommandLine.RoundTrip

namespace BlockConfig.CommandLine

/-! ## 1. Occurrences -/

/-- One use of an option that may be repeated on every level. -/
inductive Occurrence
  | set (pair : String × String) (hpair : Assignment.Writable pair)
  | lock (key : String)

namespace Occurrence

def piece : Occurrence → Piece
  | .set pair _ => .value .set (Assignment.write pair)
  | .lock key => .value .lock key

def pair? : Occurrence → Option (String × String)
  | .set pair _ => some pair
  | .lock _ => none

def lock? : Occurrence → Option String
  | .set .. => none
  | .lock key => some key

/-- The pairs that are set, in order. -/
def pairs (os : List Occurrence) : List (String × String) := os.filterMap pair?

/-- The keys that are locked, in order. -/
def locks (os : List Occurrence) : List String := os.filterMap lock?

theorem pairs_cons (o : Occurrence) (os : List Occurrence) :
    pairs (o :: os) = o.pair?.toList ++ pairs os := by
  cases o <;> rfl

theorem locks_cons (o : Occurrence) (os : List Occurrence) :
    locks (o :: os) = o.lock?.toList ++ locks os := by
  cases o <;> rfl

end Occurrence

def Piece.isRepeatable : Piece → Bool
  | .value .set _ | .value .lock _ => true
  | _ => false

/-- Some pieces are these occurrences in this order, among others that come
to `g`. -/
structure Level.Says (l : Level) (ps : List Piece) (os : List Occurrence) (g : Gathered) :
    Prop where
  occurrences : ps.filter Piece.isRepeatable = os.map Occurrence.piece
  others : Gathered.addAll l {} (ps.filter fun p => !p.isRepeatable) = .ok g

/-! ## 2. One side -/

namespace Gathered

/-- The same with other values and locks. -/
def withLists (g : Gathered) (values : List (String × String)) (locks : List String) : Gathered :=
  { g with
    globals.settings.values := values
    globals.settings.locks := locks }

variable {l : Level}

theorem add_withLists {p : Piece} (hp : p.isRepeatable = false) (g : Gathered)
    (values : List (String × String)) (locks : List String) :
    (g.withLists values locks).add l p
      = (g.add l p).map fun next => next.withLists values locks := by
  cases p with
  | value o raw =>
    cases o with
    | set | lock => cases hp
    | incoming =>
      simp only [add, accept]
      cases assignment .incoming raw <;> rfl
    | block =>
      obtain ⟨⟨⟨_, _, block⟩, _, _⟩, _, _, _, _, _⟩ := g
      cases block <;> rfl
    | default =>
      obtain ⟨_, default, _, _, _, _⟩ := g
      cases default <;> rfl
    | _ => rfl
  | switch o =>
    obtain ⟨⟨_, debug, quiet⟩, _, _, json, _, _⟩ := g
    cases o with
    | debug => cases debug <;> rfl
    | quiet => cases quiet <;> rfl
    | json => cases json <;> rfl
    | _ => rfl
  | operand raw =>
    obtain ⟨_, _, _, _, operand, _⟩ := g
    cases operand with
    | some text => rfl
    | none =>
      simp only [add, take, withLists, Option.isSome_none, Bool.false_eq_true, if_false]
      by_cases hl : l = .inner .completion
      · rw [if_pos hl, if_pos hl]
        cases Shell.ofName? raw <;> rfl
      · rw [if_neg hl, if_neg hl]
        rfl

theorem add_occurrence (o : Occurrence) (g : Gathered) (values : List (String × String))
    (locks : List String) :
    (g.withLists values locks).add l o.piece
      = .ok (g.withLists (values ++ o.pair?.toList) (locks ++ o.lock?.toList)) := by
  cases o with
  | set pair hpair =>
    refine (accept_set hpair _).trans ?_
    simp [withLists, Occurrence.pair?, Occurrence.lock?]
  | lock key => simp [Occurrence.piece, add, accept, withLists, Occurrence.pair?, Occurrence.lock?]

theorem addAll_of_interleaved {ps : List Piece} {os : List Occurrence} {g last : Gathered}
    (hos : ps.filter Piece.isRepeatable = os.map Occurrence.piece)
    (hrest : g.addAll l (ps.filter fun p => !p.isRepeatable) = .ok last)
    (values : List (String × String)) (locks : List String) :
    (g.withLists values locks).addAll l ps
      = .ok (last.withLists (values ++ Occurrence.pairs os) (locks ++ Occurrence.locks os)) := by
  induction ps generalizing os g values locks with
  | nil =>
    obtain rfl : os = [] := by simpa using hos.symm
    obtain rfl : g = last := Except.ok.inj hrest
    simp [Occurrence.pairs, Occurrence.locks]
  | cons p ps ih =>
    cases hp : p.isRepeatable with
    | true =>
      simp only [List.filter_cons, hp, if_true, Bool.not_true, Bool.false_eq_true,
        if_false] at hos hrest
      cases os with
      | nil => cases hos
      | cons o os =>
        obtain ⟨rfl, htail⟩ := List.cons.inj hos
        rw [addAll_cons_of_ok (add_occurrence o g values locks), ih htail hrest,
          Occurrence.pairs_cons, Occurrence.locks_cons, List.append_assoc, List.append_assoc]
    | false =>
      simp only [List.filter_cons, hp, if_true, Bool.not_false, Bool.false_eq_true,
        if_false] at hos hrest
      obtain ⟨next, hnext, hrest⟩ := addAll_cons_eq_ok_iff.1 hrest
      have hadd : (g.withLists values locks).add l p = .ok (next.withLists values locks) := by
        rw [add_withLists hp, hnext]
        rfl
      rw [addAll_cons_of_ok hadd, ih hos hrest]

end Gathered

theorem Level.Says.addAll {l : Level} {ps : List Piece} {os : List Occurrence} {g : Gathered}
    (h : l.Says ps os g) :
    Gathered.addAll l {} ps = .ok (g.withLists (Occurrence.pairs os) (Occurrence.locks os)) :=
  Gathered.addAll_of_interleaved h.occurrences h.others [] []

/-! ## 3. Both sides -/

/-- A list that replaces another one, unless it is empty, is the two of them
together only if one of them is empty. -/
theorem replaced_eq_append_iff {α : Type} {before after : List α} :
    (if after.isEmpty then before else after) = before ++ after ↔ before = [] ∨ after = [] := by
  cases after with
  | nil => simp
  | cons a after => simp

/-- Occurrences on both sides of a command word, in any spelling and among
any other words that make a command. The line is read, and of the pairs as
of the locks those behind the command word stay, or, if there are none, those
in front of it. So nothing is lost exactly when the pairs stand on one side
and the locks stand on one side. -/
theorem ofWords_of_sides {v : Verb} {outer inner : List Piece} {wsOuter wsInner : List String}
    {before after : List Occurrence} {go gi : Gathered} {c : Command}
    (ho : Level.outer.Says outer before go) (hwo : Written .outer outer wsOuter)
    (hi : (Level.inner v).Says inner after gi) (hwi : Written (.inner v) inner wsInner)
    (hc : gi.command v = .ok c) :
    ∃ i, Invocation.ofWords (wsOuter ++ v.name :: wsInner) = .ok i
      ∧ i.command = c
      ∧ i.globals.settings.values = (if (Occurrence.pairs after).isEmpty
          then Occurrence.pairs before else Occurrence.pairs after)
      ∧ i.globals.settings.locks = (if (Occurrence.locks after).isEmpty
          then Occurrence.locks before else Occurrence.locks after)
      ∧ ((i.globals.settings.values = Occurrence.pairs (before ++ after)
            ∧ i.globals.settings.locks = Occurrence.locks (before ++ after))
          ↔ (Occurrence.pairs before = [] ∨ Occurrence.pairs after = [])
            ∧ (Occurrence.locks before = [] ∨ Occurrence.locks after = [])) := by
  have hcommand : (gi.withLists (Occurrence.pairs after) (Occurrence.locks after)).command v
      = .ok c := hc
  refine ⟨_, ofWords_of_written hwo hwi ho.addAll hi.addAll hcommand, rfl, rfl, rfl, ?_⟩
  simp only [Occurrence.pairs, Occurrence.locks, List.filterMap_append]
  exact and_congr replaced_eq_append_iff replaced_eq_append_iff

/-- `--lock a unset a --lock b` -/
theorem sides_of_two_locks :
    ∃ i, Invocation.ofWords ["--lock", "a", "unset", "a", "--lock", "b"] = .ok i
      ∧ i.command = .unset "a" false ∧ i.globals.settings.locks = ["b"] := by
  have ho : Level.outer.Says [.value .lock "a"] [.lock "a"] {} := ⟨rfl, rfl⟩
  have hi : (Level.inner .unset).Says [.operand "a", .value .lock "b"] [.lock "b"]
      { operand := some "a" } := ⟨rfl, rfl⟩
  have hwo : Written .outer [.value .lock "a"] ["--lock", "a"] :=
    .value (by decide) (.apart (by decide)) .nil
  have hwi : Written (.inner .unset) [.operand "a", .value .lock "b"] ["a", "--lock", "b"] :=
    .operand rfl (by decide) (.value (by decide) (.apart (by decide)) .nil)
  obtain ⟨i, hread, hcommand, -, hlocks, -⟩ := ofWords_of_sides ho hwo hi hwi rfl
  exact ⟨i, hread, hcommand, hlocks⟩

/-- The lock on `a` is lost, and with it the protection: `a` is unset, where
it is refused when both locks stand on one side. -/
theorem lock_lost_across_sides :
    (Invocation.ofWords ["--lock", "a", "unset", "a", "--lock", "b"]).map
        (·.globals.settings.locks) = .ok ["b"]
    ∧ (Invocation.ofWords ["unset", "a", "--lock", "a", "--lock", "b"]).map
        (·.globals.settings.locks) = .ok ["a", "b"]
    ∧ (respond Completion.script ["-s", "a=1", "--lock", "a", "unset", "a", "--lock", "b"]
        none).map (·.exitCode) = .ok 0
    ∧ (respond Completion.script ["-s", "a=1", "unset", "a", "--lock", "a", "--lock", "b"]
        none).map (·.exitCode) = .ok 1 := by
  exact ⟨rfl, rfl, rfl, rfl⟩

end BlockConfig.CommandLine
