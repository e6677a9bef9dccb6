/-
BlockConfig.Proofs.Session.History — the record of a run, and what may be
left out of it.

The history of a run is the list of its calls, each with its answer. A
record is idle when it is a question, or when it is a change or a creation
that was refused. `run_thinned` says that idle records are not missed:
whichever of them are left out of a history, the calls that are kept have,
made without the others, the answers that they had among them, and they
leave the same session. So neither a question nor a refusal has an effect
that a later call could tell of, on whatever handle.

The one fact about single calls is `session_step_of_idle`. It rests on
this: a change that was accepted does not answer with an error, so
whatever answered with one put nothing back. Why it was refused does not
matter, nor how many keys of a merge had been found in order before.
-/
import BlockConfig.Proofs.Session.Moves

namespace BlockConfig

/-! ## 1. Histories -/

namespace Session

/-- The calls of a run, each with its answer. -/
def history (s : Session) : List Call → List (Call × Answer)
  | [] => []
  | call :: rest => (call, (s.step call).answer) :: (s.step call).session.history rest

@[simp] theorem history_nil (s : Session) : s.history [] = [] := rfl

@[simp] theorem history_cons (s : Session) (call : Call) (rest : List Call) :
    s.history (call :: rest)
      = (call, (s.step call).answer) :: (s.step call).session.history rest := rfl

/-- A history holds the answers that the run gives. -/
theorem history_eq_zip (s : Session) (calls : List Call) :
    s.history calls = calls.zip (s.run calls).2 := by
  induction calls generalizing s with
  | nil => rfl
  | cons call rest ih => rw [history_cons, ih, run, List.zip_cons_cons]

end Session

/-! ## 2. Records that change nothing -/

/-- A question, or a change or a creation that was refused. -/
inductive Idle : Call × Answer → Prop
  | ask (h : Nat) (q : Query) (answer : Answer) : Idle (.ask h q, answer)
  | showsSame (h other : Nat) (answer : Answer) : Idle (.showsSame h other, answer)
  | shares (h other : Nat) (answer : Answer) : Idle (.shares h other, answer)
  | edit (h : Nat) (e : Edit) (err : ConfigError) : Idle (.edit h e, .failed err)
  | merge (h source : Nat) (err : ConfigError) : Idle (.merge h source, .failed err)
  | createFrom (pairs : List (String × String)) (err : ConfigError) :
      Idle (.createFrom pairs, .failed err)

/-- One history is another without some of its idle records. -/
inductive Thinned : List (Call × Answer) → List (Call × Answer) → Prop
  | nil : Thinned [] []
  | keep (record : Call × Answer) {full kept : List (Call × Answer)} (h : Thinned full kept) :
      Thinned (record :: full) (record :: kept)
  | leave {record : Call × Answer} (hidle : Idle record) {full kept : List (Call × Answer)}
      (h : Thinned full kept) : Thinned (record :: full) kept

namespace Session

theorem session_asking (s : Session) (h : Nat) (f : Store → Answer) :
    (s.asking h f).session = s := by
  unfold asking
  cases s.store? h <;> rfl

/-- What answered with an error put nothing back. -/
theorem session_editing_of_failed {s : Session} {h : Nat} {err : ConfigError}
    {f : Store → Traced ConfigError (Answer × Store)}
    (hf : ∀ store answer next, (f store).result = .ok (answer, next) → answer.Plain)
    (ha : (s.editing h f).answer = .failed err) : (s.editing h f).session = s := by
  rcases s.editing_cases h f with ⟨-, heq⟩ | ⟨store, e, -, -, heq⟩
    | ⟨store, answer, next, -, hok, heq⟩
  · rw [heq]
  · rw [heq]
  · rw [heq] at ha
    exact absurd ha ((hf store answer next hok).ne_failed err)

/-- An idle record leaves the session alone. -/
theorem session_step_of_idle {s : Session} {call : Call}
    (h : Idle (call, (s.step call).answer)) : (s.step call).session = s := by
  generalize ha : (s.step call).answer = answer at h
  cases h with
  | ask n q => exact s.session_asking n _
  | showsSame n other =>
    simp only [step]
    cases s.store? other with
    | none => rfl
    | some shown => exact s.session_asking n _
  | shares n other => rfl
  | edit n e err =>
    exact session_editing_of_failed (fun _ _ _ hok => (Store.outcome_of_edit hok).1) ha
  | merge n source err =>
    cases hg : s.store? source with
    | none => rw [step_merge_of_none hg]
    | some given =>
      rw [step_merge_of_some hg] at ha ⊢
      exact session_editing_of_failed (fun _ _ _ hok => (Store.outcome_of_merge hok).1) ha
  | createFrom pairs err =>
    simp only [step] at ha ⊢
    generalize Store.ofEntries pairs = traced at ha ⊢
    obtain ⟨events, result⟩ := traced
    cases result with
    | error e => rfl
    | ok store => cases ha

/-! ## 3. Runs -/

/-- Idle records are not missed: without some of them, the calls that are
kept have the answers that they had among them, and leave the session that
was left with them. -/
theorem run_thinned {s : Session} {calls : List Call} {kept : List (Call × Answer)}
    (h : Thinned (s.history calls) kept) :
    s.history (kept.map Prod.fst) = kept
      ∧ (s.run (kept.map Prod.fst)).1 = (s.run calls).1 := by
  induction calls generalizing s kept with
  | nil =>
    cases h
    exact ⟨rfl, rfl⟩
  | cons call rest ih =>
    rw [history_cons] at h
    cases h with
    | keep _ hrest =>
      obtain ⟨hhistory, hlast⟩ := ih hrest
      refine ⟨?_, hlast⟩
      rw [List.map_cons, history_cons, hhistory]
    | leave hidle hrest =>
      -- The session is the one before the record, so the rest goes on from there.
      have hs := session_step_of_idle hidle
      rw [hs] at hrest
      rw [run, hs]
      exact ih hrest

/-- A merge whose last key is read-only, an unset of a read-only key without
a value, a question answered by its default, and a list of pairs with a
malformed key. -/
theorem thinned_of_refused_merge :
    let s := (Session.run {} [.createFrom [("a", "1")], .edit 0 (.lock "z"),
      .createFrom [("b", "2"), ("z", "3")]]).1
    let calls : List Call := [.merge 0 1, .ask 0 (.getD "b" "none"), .edit 0 (.unset "z"),
      .edit 1 (.unset "z"), .createFrom [("c", "4"), ("c:", "5")], .merge 0 1, .subblock 0 ""]
    let kept : List (Call × Answer) :=
      [(.edit 1 (.unset "z"), .text "3"), (.merge 0 1, .done), (.subblock 0 "", .handle 2)]
    Thinned (s.history calls) kept ∧ s.history (kept.map Prod.fst) = kept
      ∧ (s.run (kept.map Prod.fst)).1 = (s.run calls).1 := by
  intro s calls kept
  have hanswers : (s.run calls).2 = [.failed (.readOnly "z" .set), .text "none",
      .failed (.readOnly "z" .unset), .text "3", .failed (.invalidKey "c:" .emptySegment), .done,
      .handle 2] := by decide
  have h : Thinned (s.history calls) kept := by
    rw [history_eq_zip, hanswers]
    exact .leave (.merge ..) <| .leave (.ask ..) <| .leave (.edit ..) <| .keep _ <|
      .leave (.createFrom ..) <| .keep _ <| .keep _ .nil
  exact ⟨h, run_thinned h⟩

end Session

end BlockConfig
