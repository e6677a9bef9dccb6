/-
BlockConfig.Proofs.Session.Merge — a merge is the sets of its entries, all
of them or none.

`merge_eq_sets` compares one merge with a run: what the source shows is
read once, and each pair of it is set through the receiver, in ascending
order of keys. The merge succeeds when all these sets do, and then leaves
the session that they leave. Otherwise it answers what the first refused
set answers, and leaves the session alone.

Source and receiver are any two handles. They may look at one storage,
and then the sets may change what the source shows while the run goes on.
The merge has read the source before, and so does the run here: its calls
are fixed by the session it starts from.

The induction is along the pairs, with the storage as it is after some of
them. What carries it is that a set changes no lock: whether the later
pairs are accepted can be asked before the first is written
(`Storage.checkSetAll_congr`).
-/
import BlockConfig.Proofs.Session.Moves
import BlockConfig.Proofs.Store.Writes

namespace BlockConfig

/-! ## 1. The run of the sets -/

theorem Answer.failed_ne_done (e : ConfigError) : Answer.failed e ≠ .done := by
  intro h
  cases h

namespace Session

/-- The calls that set pairs one after another through a handle. -/
def setCalls (h : Nat) (pairs : List (String × String)) : List Call :=
  pairs.map fun p => .edit h (.set p.1 p.2)

theorem putBack_self {s : Session} {h : Nat} {store : Store} (hs : s.store? h = some store) :
    s.putBack h store.storage = s := by
  obtain ⟨i, hh, hi⟩ := store?_eq_some_iff.1 hs
  obtain ⟨hlt, heq⟩ := List.getElem?_eq_some_iff.1 hi
  rw [putBack_of_handle? hh, ← heq, List.set_getElem_self]

/-- A handle looks at what was put back through it. -/
theorem store?_putBack {s : Session} {h : Nat} {store : Store} (hs : s.store? h = some store)
    (next : Storage) : (s.putBack h next).store? h = some { store with storage := next } := by
  obtain ⟨i, hh, hi⟩ := store?_eq_some_iff.1 hs
  rw [putBack_of_handle? hh]
  refine store?_eq_some_iff.2 ⟨i, hh, ?_⟩
  exact List.getElem?_set_self (List.getElem?_eq_some_iff.1 hi).1

theorem putBack_putBack {s : Session} {h : Nat} {store : Store} (hs : s.store? h = some store)
    (first second : Storage) : (s.putBack h first).putBack h second = s.putBack h second := by
  obtain ⟨i, hh, -⟩ := store?_eq_some_iff.1 hs
  have hh' : handle? { s with storages := s.storages.set i first } h = some ⟨i, store.scope⟩ := hh
  rw [putBack_of_handle? hh, putBack_of_handle? hh, putBack_of_handle? hh']
  simp

theorem step_set_of_ok {s : Session} {h : Nat} {store : Store} (hs : s.store? h = some store)
    {key : String} (hc : store.storage.checkSet (store.scope ++ key) = .ok ()) (value : String) :
    (s.step (.edit h (.set key value))).answer = .done
      ∧ (s.step (.edit h (.set key value))).session
        = s.putBack h { store.storage with
            entries := store.storage.entries.insert (store.scope ++ key) value } := by
  have he : store.storage.edit store.scope (.set key value) = .ok (.done, { store.storage with
      entries := store.storage.entries.insert (store.scope ++ key) value }) := by
    rw [Storage.edit, Storage.set, hc]
    rfl
  exact ⟨(step_edit_of_ok hs he).2, (step_edit_of_ok hs he).1⟩

/-- When all pairs are accepted, the run of their sets answers `done`
every time and leaves all of them written. -/
theorem run_setCalls_of_ok {s : Session} {h : Nat} {store : Store}
    (hs : s.store? h = some store) {pairs : List (String × String)}
    (hc : store.storage.checkSetAll (pairs.map fun p => (store.scope ++ p.1, p.2)) = .ok ()) :
    (∀ a ∈ (s.run (setCalls h pairs)).2, a = .done)
      ∧ (s.run (setCalls h pairs)).1
        = s.putBack h { store.storage with
            entries := store.storage.entries.insertAll
              (pairs.map fun p => (store.scope ++ p.1, p.2)) } := by
  induction pairs generalizing s store with
  | nil => exact ⟨fun a ha => absurd ha List.not_mem_nil, (putBack_self hs).symm⟩
  | cons p rest ih =>
    rw [List.map_cons, Storage.checkSetAll] at hc
    cases hp : store.storage.checkSet (store.scope ++ p.1) with
    | error e =>
      rw [hp] at hc
      cases hc
    | ok u =>
      rw [hp] at hc
      obtain ⟨hdone, hnext⟩ := step_set_of_ok hs hp p.2
      let next : Storage := { store.storage with
        entries := store.storage.entries.insert (store.scope ++ p.1) p.2 }
      have hlocks : next.locks = store.storage.locks := rfl
      obtain ⟨hall, hlast⟩ := ih (store?_putBack hs next)
        ((Storage.checkSetAll_congr hlocks _).trans hc)
      rw [setCalls, List.map_cons, run, hnext]
      refine ⟨fun a ha => ?_, hlast.trans (putBack_putBack hs _ _)⟩
      rcases List.mem_cons.1 ha with rfl | ha
      · exact hdone
      · exact hall a ha

/-- When some pair is refused, the first answer of the run that is not
`done` carries that refusal. -/
theorem run_setCalls_of_error {s : Session} {h : Nat} {store : Store}
    (hs : s.store? h = some store) {pairs : List (String × String)} {e : ConfigError}
    (hc : store.storage.checkSetAll (pairs.map fun p => (store.scope ++ p.1, p.2)) = .error e) :
    (s.run (setCalls h pairs)).2.find? (· ≠ .done) = some (.failed e) := by
  induction pairs generalizing s store with
  | nil => cases hc
  | cons p rest ih =>
    rw [List.map_cons, Storage.checkSetAll] at hc
    rw [setCalls, List.map_cons, run]
    cases hp : store.storage.checkSet (store.scope ++ p.1) with
    | error err =>
      rw [hp] at hc
      obtain rfl : err = e := Except.error.inj hc
      have he : store.storage.edit store.scope (.set p.1 p.2) = .error err := by
        rw [Storage.edit, Storage.set, hp]
        rfl
      rw [List.find?_cons_of_pos (by simp [(step_edit_of_error hs he).2]),
        (step_edit_of_error hs he).2]
    | ok u =>
      rw [hp] at hc
      obtain ⟨hdone, hnext⟩ := step_set_of_ok hs hp p.2
      let next : Storage := { store.storage with
        entries := store.storage.entries.insert (store.scope ++ p.1) p.2 }
      have hlocks : next.locks = store.storage.locks := rfl
      rw [List.find?_cons_of_neg (by simp [hdone]), hnext]
      exact ih (store?_putBack hs next) ((Storage.checkSetAll_congr hlocks _).trans hc)

/-! ## 2. The merge -/

/-- A merge against the sets of all pairs that the source shows before it:
it succeeds when they all do, and then leaves what they leave, which is
the receiver's storage with those pairs written below its scope and no
lock changed. Otherwise it gives the first refusal and changes nothing. -/
theorem merge_eq_sets {s : Session} {h source : Nat} {store given : Store}
    (hs : s.store? h = some store) (hg : s.store? source = some given) :
    let merged := s.step (.merge h source)
    let sets := s.run (setCalls h given.entries.toList)
    (merged.answer = .done ↔ ∀ a ∈ sets.2, a = .done)
    ∧ (merged.answer = .done → merged.session = sets.1
        ∧ ∃ i next, s.handle? h = some ⟨i, store.scope⟩
          ∧ merged.session = { s with storages := s.storages.set i next }
          ∧ store.storage.Overlaid next store.scope given.entries)
    ∧ (merged.answer ≠ .done → merged.session = s
        ∧ ∃ e, merged.answer = .failed e ∧ sets.2.find? (· ≠ .done) = some (.failed e)) := by
  intro merged sets
  obtain ⟨i, hh, hi⟩ := store?_eq_some_iff.1 hs
  cases hc : store.storage.checkSetAll (store.incoming given) with
  | ok u =>
    have hall : store.storage.setAll (store.incoming given) = .ok { store.storage with
        entries := store.storage.entries.insertAll (store.incoming given) } := by
      rw [Storage.setAll, hc]
    obtain ⟨hsession, hanswer⟩ := step_merge_of_ok hs hg hall
    obtain ⟨hdone, hlast⟩ := run_setCalls_of_ok hs hc
    refine ⟨iff_of_true hanswer hdone, fun _ => ⟨hsession.trans hlast.symm, ?_⟩,
      fun hne => absurd hanswer hne⟩
    exact ⟨i, _, hh, hsession.trans (putBack_of_handle? hh _), Store.overlaid_setAll hall⟩
  | error e =>
    have hall : store.storage.setAll (store.incoming given) = .error e := by
      rw [Storage.setAll, hc]
    obtain ⟨hsession, hanswer⟩ := step_merge_of_error hs hg hall
    have hfirst := run_setCalls_of_error hs hc
    have hnot : merged.answer ≠ .done := by
      rw [show merged.answer = .failed e from hanswer]
      exact Answer.failed_ne_done e
    refine ⟨iff_of_false hnot fun hdone => ?_, fun hd => absurd hd hnot,
      fun _ => ⟨hsession, e, hanswer, hfirst⟩⟩
    exact absurd (hdone _ (List.mem_of_find?_eq_some hfirst)) (Answer.failed_ne_done e)

/-- The whole is merged into the block `v` of itself: the sets write keys
that the source then shows as well. -/
theorem merge_into_own_block :
    let s := (Session.run {} [.createFrom [("a", "1"), ("v:a", "2")], .view 0 "v"]).1
    s.store? 1 = some ⟨⟨.ofList [("a", "1"), ("v:a", "2")], .empty⟩, "v:"⟩
      ∧ s.store? 0 = some ⟨⟨.ofList [("a", "1"), ("v:a", "2")], .empty⟩, ""⟩
      ∧ (s.step (.merge 1 0)).session
        = (s.run [.edit 1 (.set "a" "1"), .edit 1 (.set "v:a" "2")]).1 := by
  intro s
  have hs : s.store? 1 = some ⟨⟨.ofList [("a", "1"), ("v:a", "2")], .empty⟩, "v:"⟩ := by decide
  have hg : s.store? 0 = some ⟨⟨.ofList [("a", "1"), ("v:a", "2")], .empty⟩, ""⟩ := by decide
  have hdone : (s.step (.merge 1 0)).answer = .done := by decide
  exact ⟨hs, hg, ((merge_eq_sets hs hg).2.1 hdone).1⟩

end Session

end BlockConfig
