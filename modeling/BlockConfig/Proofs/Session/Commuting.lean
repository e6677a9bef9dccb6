/-
BlockConfig.Proofs.Session.Commuting — calls on different keys.

Most calls concern one key: they set it, unset it or lock it, or ask for it
(`Call.keyed?`). What counts is the full key and the storage it is in, not
the handle or the text that the caller gave (`Session.target?`). Two calls
with different targets do not feel one another. In either order each gets
the same answer, refusals included, and the session afterwards is the same
(`keyed_calls_commute`). Nothing is asked of the two keys but that they
differ; one may lie in the block that the other names.

A call on one key is work on a storage that reads and writes at that key
only (`Storage.WorksAt`). That is shown once for each kind of call, and the
rest is about any such work: at either key one of the two did nothing, and
elsewhere both did nothing.
-/
import BlockConfig.Proofs.Session.Merge
import BlockConfig.Proofs.Store.Mirror

namespace BlockConfig

/-! ## 1. Work at one key -/

namespace Storage

variable {s t : Storage} {key other : String}

/-- Work that is settled by what a storage has at one key, and leaves all
other keys alone. -/
structure WorksAt (key : String) (work : Storage → Answer × Storage) : Prop where
  answer : ∀ {s t : Storage}, s.AgreeWhere (· = key) t → (work s).1 = (work t).1
  here : ∀ {s t : Storage}, s.AgreeWhere (· = key) t → (work s).2.AgreeWhere (· = key) (work t).2
  elsewhere : ∀ s : Storage, s.AgreeWhere (· ≠ key) (work s).2

theorem AgreeWhere.symm {P : String → Prop} (h : s.AgreeWhere P t) : t.AgreeWhere P s :=
  fun key hkey => ⟨(h key hkey).1.symm, (h key hkey).2.symm⟩

theorem eq_of_agree (h : ∀ key, s.AgreeWhere (· = key) t) : s = t := by
  have hentries : s.entries = t.entries := Table.ext_get? fun key => (h key key rfl).1
  have hlocks : s.locks = t.locks := Table.ext_get? fun key => (h key key rfl).2
  cases s
  cases t
  simp only [mk.injEq]
  exact ⟨hentries, hlocks⟩

namespace WorksAt

variable {work others : Storage → Answer × Storage}

/-- At another key nothing was done. -/
theorem untouched (h : WorksAt key work) (hne : other ≠ key) (s : Storage) :
    s.AgreeWhere (· = other) (work s).2 :=
  (h.elsewhere s).imp fun _ heq => heq ▸ hne

/-- After work at another key the answer is the same. -/
theorem answer_comm (h : WorksAt key work) (h' : WorksAt other others) (hne : key ≠ other)
    (s : Storage) : (work (others s).2).1 = (work s).1 :=
  (h.answer (h'.untouched hne s)).symm

theorem comm (h : WorksAt key work) (h' : WorksAt other others) (hne : key ≠ other)
    (s : Storage) : (work (others s).2).2 = (others (work s).2).2 := by
  refine eq_of_agree fun k => ?_
  by_cases hk : k = key
  · subst hk
    have hleft : (work s).2.AgreeWhere (· = k) (work (others s).2).2 := h.here (h'.untouched hne s)
    exact hleft.symm.trans (h'.untouched hne (work s).2)
  · have hleft : (others s).2.AgreeWhere (· = k) (work (others s).2).2 := h.untouched hk _
    refine hleft.symm.trans ?_
    by_cases hk' : k = other
    · subst hk'
      exact h'.here (h.untouched hk s)
    · have hright : (work s).2.AgreeWhere (· = k) (others (work s).2).2 := h'.untouched hk' _
      exact (h'.untouched hk' s).symm.trans ((h.untouched hk s).trans hright)

end WorksAt

end Storage

/-! ## 2. Calls on one key -/

/-- The key that a question is about, if it is about one. -/
def Query.key? : Query → Option String
  | .has key | .contains key | .get key | .getD key _ | .isReadOnly key => some key
  | _ => none

/-- The handle and the key of a call that concerns one key. -/
def Call.keyed? : Call → Option (Nat × String)
  | .edit h e => some (h, e.key)
  | .ask h q => q.key?.map fun key => (h, key)
  | _ => none

namespace Storage

/-- What a call on one key makes of a storage, through a scope. What is
refused changes nothing. -/
def carryOut (scope : String) (call : Call) (s : Storage) : Answer × Storage :=
  match call with
  | .edit _ e =>
    match s.edit scope e with
    | .ok p => p
    | .error err => (.failed err, s)
  | .ask _ q => ((⟨s, scope⟩ : Store).answer q, s)
  | _ => (.noHandle, s)

variable {s t : Storage} {key : String}

theorem AgreeWhere.isLocked_eq (h : s.AgreeWhere (· = key) t) :
    s.isLocked key = t.isLocked key :=
  congrArg Option.isSome (h key rfl).2

theorem AgreeWhere.withEntries (h : s.AgreeWhere (· = key) t) {entries entries' : Table String}
    (he : entries.get? key = entries'.get? key) :
    { s with entries }.AgreeWhere (· = key) { t with entries := entries' } := by
  rintro _ rfl
  exact ⟨he, (h _ rfl).2⟩

theorem AgreeWhere.withLocks (h : s.AgreeWhere (· = key) t) {locks locks' : KeySet}
    (hl : locks.get? key = locks'.get? key) :
    { s with locks }.AgreeWhere (· = key) { t with locks := locks' } := by
  rintro _ rfl
  exact ⟨(h _ rfl).1, hl⟩

/-- The same is done where the same is found. -/
theorem carryOut_edit_of_agree {scope : String} {h : Nat} {e : Edit}
    (hst : s.AgreeWhere (· = scope ++ e.key) t) :
    (carryOut scope (.edit h e) s).1 = (carryOut scope (.edit h e) t).1
      ∧ (carryOut scope (.edit h e) s).2.AgreeWhere (· = scope ++ e.key)
          (carryOut scope (.edit h e) t).2 := by
  have hlocked := AgreeWhere.isLocked_eq hst
  cases e with
  | set key value | insert key value =>
    simp only [Edit.key] at hst hlocked ⊢
    simp only [carryOut, edit, set, checkSet, hlocked]
    cases Key.check (scope ++ key) with
    | error err => exact ⟨rfl, hst⟩
    | ok u =>
      cases t.isLocked (scope ++ key) with
      | true => exact ⟨rfl, hst⟩
      | false =>
        refine ⟨rfl, AgreeWhere.withEntries hst ?_⟩
        rw [Table.get?_insert, Table.get?_insert, if_pos rfl, if_pos rfl]
  | unset key | remove key =>
    simp only [Edit.key] at hst hlocked ⊢
    simp only [carryOut, edit, unset, hlocked, (hst _ rfl).1]
    cases t.isLocked (scope ++ key) with
    | true => exact ⟨rfl, hst⟩
    | false =>
      cases t.entries.get? (scope ++ key) with
      | none => exact ⟨rfl, hst⟩
      | some value =>
        refine ⟨rfl, AgreeWhere.withEntries hst ?_⟩
        rw [Table.get?_erase, Table.get?_erase, if_pos rfl, if_pos rfl]
  | lock key =>
    simp only [Edit.key] at hst ⊢
    simp only [carryOut, edit, lock]
    cases Key.check (scope ++ key) with
    | error err => exact ⟨rfl, hst⟩
    | ok u =>
      refine ⟨rfl, AgreeWhere.withLocks hst ?_⟩
      rw [Table.get?_insert, Table.get?_insert, if_pos rfl, if_pos rfl]

theorem worksAt_edit (scope : String) (h : Nat) (e : Edit) :
    WorksAt (scope ++ e.key) (carryOut scope (.edit h e)) where
  answer hst := (carryOut_edit_of_agree hst).1
  here hst := (carryOut_edit_of_agree hst).2
  elsewhere s := by
    rw [carryOut]
    cases he : s.edit scope e with
    | error err => exact AgreeWhere.refl _ s
    | ok p => exact agree_of_edit he

theorem worksAt_ask (scope : String) (h : Nat) {q : Query} (hq : q.key? = some key) :
    WorksAt (scope ++ key) (carryOut scope (.ask h q)) where
  answer {s t} hst := by
    have hentry := (hst _ rfl).1
    have hlocked := AgreeWhere.isLocked_eq hst
    cases q with
    | has k | contains k | get k | getD k default | isReadOnly k =>
      cases hq
      simp only [carryOut, Store.answer, Store.has, Store.contains, Store.get, Store.getD,
        Store.isReadOnly, Store.qualify, Table.contains_eq, hentry, hlocked]
    | _ => cases hq
  here hst := hst
  elsewhere s := AgreeWhere.refl _ s

end Storage

/-! ## 3. Steps -/

namespace Session

variable {s : Session} {c d : Call} {h i : Nat} {key scope : String}

/-- The number of the storage and the full key that a call concerns, if it
concerns one key. -/
def target? (s : Session) (c : Call) : Option (Nat × String) :=
  c.keyed?.bind fun (h, key) => (s.handle? h).map fun a => (a.storage, a.scope ++ key)

/-- A session with work done on one of its storages. -/
def workOn (s : Session) (i : Nat) (work : Storage → Answer × Storage) : Session :=
  { s with storages := s.storages.modify i fun t => (work t).2 }

/-- What work on a storage is answered with. -/
def answerOn (s : Session) (i : Nat) (work : Storage → Answer × Storage) : Answer :=
  match s.storages[i]? with
  | none => .noHandle
  | some t => (work t).1

theorem workOn_of_none (hi : s.storages[i]? = none) (work : Storage → Answer × Storage) :
    s.workOn i work = s := by
  rw [workOn, List.modify_eq_self (List.getElem?_eq_none_iff.1 hi)]

theorem workOn_of_some {t : Storage} (hi : s.storages[i]? = some t)
    (work : Storage → Answer × Storage) :
    s.workOn i work = { s with storages := s.storages.set i (work t).2 } := by
  rw [workOn, @List.modify_eq_set _ ⟨t⟩, hi]
  rfl

theorem answerOn_of_some {t : Storage} (hi : s.storages[i]? = some t)
    (work : Storage → Answer × Storage) : s.answerOn i work = (work t).1 := by
  rw [answerOn, hi]

/-- A call on one key is work on the storage that the handle looks at. -/
theorem step_keyed (hc : c.keyed? = some (h, key)) (hh : s.handle? h = some ⟨i, scope⟩) :
    (s.step c).session = s.workOn i (Storage.carryOut scope c)
      ∧ (s.step c).answer = s.answerOn i (Storage.carryOut scope c) := by
  cases hi : s.storages[i]? with
  | none =>
    have hs : s.store? h = none := by simp only [store?, hh, hi, Option.map_none]
    rw [workOn_of_none hi, answerOn, hi]
    cases c with
    | edit g e =>
      cases hc
      rw [step, editing_of_none hs]
      exact ⟨rfl, rfl⟩
    | ask g q =>
      obtain ⟨_, -, hg⟩ := Option.map_eq_some_iff.1 hc
      cases hg
      simp only [step, asking, hs, and_self]
    | _ => cases hc
  | some t =>
    have hs : s.store? h = some ⟨t, scope⟩ := store?_of_handle? hh hi
    rw [workOn_of_some hi, answerOn_of_some hi]
    cases c with
    | edit g e =>
      cases hc
      rw [← putBack_of_handle? hh, Storage.carryOut]
      cases he : t.edit scope e with
      | error err =>
        obtain ⟨hsession, hanswer⟩ := step_edit_of_error hs he
        exact ⟨hsession.trans (putBack_self hs).symm, hanswer⟩
      | ok p => exact step_edit_of_ok hs he
    | ask g q =>
      obtain ⟨_, -, hg⟩ := Option.map_eq_some_iff.1 hc
      cases hg
      rw [← putBack_of_handle? hh, step_ask hs]
      exact ⟨(putBack_self hs).symm, rfl⟩
    | _ => cases hc

theorem worksAt_of_keyed (hc : c.keyed? = some (h, key)) (scope : String) :
    Storage.WorksAt (scope ++ key) (Storage.carryOut scope c) := by
  cases c with
  | edit g e =>
    cases hc
    exact Storage.worksAt_edit scope h e
  | ask g q =>
    obtain ⟨_, hq, hg⟩ := Option.map_eq_some_iff.1 hc
    cases hg
    exact Storage.worksAt_ask scope h hq
  | _ => cases hc

/-- A call with a target is work at the target. -/
theorem exists_work (hc : s.target? c = some (i, key)) :
    ∃ work, Storage.WorksAt key work ∧ ∀ t : Session, t.handles = s.handles →
      (t.step c).session = t.workOn i work ∧ (t.step c).answer = t.answerOn i work := by
  obtain ⟨⟨h, k⟩, hkeyed, htarget⟩ := Option.bind_eq_some_iff.1 hc
  obtain ⟨⟨j, scope⟩, hh, heq⟩ := Option.map_eq_some_iff.1 htarget
  cases heq
  refine ⟨Storage.carryOut scope c, worksAt_of_keyed hkeyed scope, fun t ht => ?_⟩
  refine step_keyed hkeyed ?_
  rw [handle?, ht]
  exact hh

theorem workOn_comm {j : Nat} {other : String} {work others : Storage → Answer × Storage}
    (h : Storage.WorksAt key work) (h' : Storage.WorksAt other others)
    (hne : (i, key) ≠ (j, other)) (s : Session) :
    (s.workOn i work).workOn j others = (s.workOn j others).workOn i work := by
  by_cases hij : i = j
  · subst hij
    have hkey : key ≠ other := fun heq => hne (by rw [heq])
    simp only [workOn, List.modify_modify_eq]
    congr 2
    funext t
    exact (h.comm h' hkey t).symm
  · simp only [workOn, List.modify_modify_ne _ _ _ hij]

theorem answerOn_workOn {j : Nat} {other : String} {work others : Storage → Answer × Storage}
    (h : Storage.WorksAt key work) (h' : Storage.WorksAt other others)
    (hne : (i, key) ≠ (j, other)) (s : Session) :
    (s.workOn j others).answerOn i work = s.answerOn i work := by
  simp only [answerOn, workOn, List.getElem?_modify]
  cases s.storages[i]? with
  | none => rfl
  | some t =>
    by_cases hij : j = i
    · subst hij
      have hkey : key ≠ other := fun heq => hne (by rw [heq])
      simp [h.answer_comm h' hkey t]
    · simp [hij]

/-- Calls that concern different keys, or keys in different storages. -/
def Apart (s : Session) (c d : Call) : Prop :=
  ∃ p q, s.target? c = some p ∧ s.target? d = some q ∧ p ≠ q

theorem Apart.symm (h : s.Apart c d) : s.Apart d c := by
  obtain ⟨p, q, hc, hd, hne⟩ := h
  exact ⟨q, p, hd, hc, hne.symm⟩

theorem handles_step_of_target? {p : Nat × String} (hc : s.target? c = some p) :
    (s.step c).session.handles = s.handles := by
  obtain ⟨i, key⟩ := p
  obtain ⟨work, -, hwork⟩ := exists_work hc
  rw [(hwork s rfl).1]
  rfl

/-- Two calls that are apart, one after the other. -/
theorem Apart.step_step (h : s.Apart c d) :
    ((s.step c).session.step d).session = ((s.step d).session.step c).session
      ∧ ((s.step c).session.step d).answer = (s.step d).answer := by
  obtain ⟨⟨i, key⟩, ⟨j, other⟩, hc, hd, hne⟩ := h
  obtain ⟨work, hwork, hcall⟩ := exists_work hc
  obtain ⟨others, hothers, hcall'⟩ := exists_work hd
  have hhandles := handles_step_of_target? hc
  have hhandles' := handles_step_of_target? hd
  rw [(hcall' _ hhandles).1, (hcall _ hhandles').1, (hcall' _ hhandles).2, (hcall' s rfl).2,
    (hcall s rfl).1, (hcall' s rfl).1]
  exact ⟨workOn_comm hwork hothers hne s, answerOn_workOn hothers hwork hne.symm s⟩

/-! ## 4. Runs -/

/-- What a call concerns is a matter of the handles. -/
theorem Apart.of_handles {t : Session} (h : s.Apart c d) (ht : t.handles = s.handles) :
    t.Apart c d := by
  have htarget : ∀ call, t.target? call = s.target? call := fun call => by
    simp only [target?, handle?, ht]
  simpa only [Apart, htarget] using h

theorem Apart.handles_step (h : s.Apart c d) : (s.step c).session.handles = s.handles := by
  obtain ⟨p, _, hc, -⟩ := h
  exact handles_step_of_target? hc

/-- A call before others and after them, all of them apart from it. -/
theorem step_run_comm {ds : List Call} (h : ∀ d ∈ ds, s.Apart c d) :
    ((s.step c).session.run ds).1 = ((s.run ds).1.step c).session
      ∧ ((s.step c).session.run ds).2 = (s.run ds).2
      ∧ ((s.run ds).1.step c).answer = (s.step c).answer := by
  induction ds generalizing s with
  | nil => exact ⟨rfl, rfl, rfl⟩
  | cons d rest ih =>
    obtain ⟨hd, hrest⟩ := List.forall_mem_cons.1 h
    obtain ⟨hsession, hanswer⟩ := hd.step_step
    obtain ⟨hlast, hanswers, hcall⟩ :=
      ih fun d' hd' => (hrest d' hd').of_handles hd.symm.handles_step
    simp only [run, hsession, hanswer, hlast, hanswers, hcall, hd.symm.step_step.2, and_self]

theorem run_run_comm {cs ds : List Call} (h : ∀ c ∈ cs, ∀ d ∈ ds, s.Apart c d) :
    ((s.run cs).1.run ds).1 = ((s.run ds).1.run cs).1
      ∧ ((s.run cs).1.run ds).2 = (s.run ds).2
      ∧ ((s.run ds).1.run cs).2 = (s.run cs).2 := by
  induction cs generalizing s with
  | nil => exact ⟨rfl, rfl, rfl⟩
  | cons c rest ih =>
    obtain ⟨hc, hrest⟩ := List.forall_mem_cons.1 h
    obtain ⟨hsession, hanswers, hanswer⟩ := step_run_comm hc
    have hrun : ∀ t : Session, t.run (c :: rest)
        = (((t.step c).session.run rest).1, (t.step c).answer :: ((t.step c).session.run rest).2) :=
      fun _ => rfl
    by_cases hds : ds = []
    · subst hds
      exact ⟨rfl, rfl, rfl⟩
    · -- That the call has a target is told by a call it is apart from.
      obtain ⟨d, hd⟩ := List.exists_mem_of_ne_nil ds hds
      obtain ⟨hlast, hleft, hright⟩ :=
        ih fun c' hc' d' hd' => (hrest c' hc' d' hd').of_handles (hc d hd).handles_step
      simp only [hrun, hlast, hleft, hanswers, hanswer, ← hsession, hright, and_self]

/-- Two calls on different keys get the same answers in either order and
leave the same session. And so do two lists of calls, when each call of the
one is apart from each call of the other. -/
theorem keyed_calls_commute (s : Session) :
    (∀ (c d : Call) (p q : Nat × String), s.target? c = some p → s.target? d = some q → p ≠ q →
      ∃ t a b, s.run [c, d] = (t, [a, b]) ∧ s.run [d, c] = (t, [b, a]))
    ∧ ∀ cs ds : List Call, (∀ c ∈ cs, ∀ d ∈ ds, s.Apart c d) →
        (s.run (cs ++ ds)).1 = (s.run (ds ++ cs)).1
        ∧ (s.run (cs ++ ds)).2 = (s.run cs).2 ++ (s.run ds).2
        ∧ (s.run (ds ++ cs)).2 = (s.run ds).2 ++ (s.run cs).2 := by
  refine ⟨fun c d p q hc hd hne => ?_, fun cs ds h => ?_⟩
  · have h : s.Apart c d := ⟨p, q, hc, hd, hne⟩
    obtain ⟨hsession, hanswer⟩ := h.step_step
    refine ⟨((s.step c).session.step d).session, (s.step c).answer, (s.step d).answer, ?_, ?_⟩
    · rw [run, run, run, hanswer]
    · rw [run, run, run, h.symm.step_step.2, hsession]
  · obtain ⟨hsession, hleft, hright⟩ := run_run_comm h
    rw [run_append, run_append, hleft, hright]
    exact ⟨hsession, rfl, rfl⟩

/-- A block has a value of its own, and a view sets a key in the block: the
two are taken in either order, and so is a refusal in another storage. -/
theorem commuting_of_nested_keys :
    let s := (Session.run {} [.createFrom [("a", "1"), ("c", "3")], .view 0 "a", .snapshot 0,
      .edit 2 (.lock "a:b")]).1
    (∃ t a b, s.run [.edit 1 (.set "b" "2"), .edit 0 (.unset "a")] = (t, [a, b])
        ∧ s.run [.edit 0 (.unset "a"), .edit 1 (.set "b" "2")] = (t, [b, a])
        ∧ b = .text "1")
      ∧ let locking := [Call.edit 0 (.lock "a"), .edit 2 (.unset "a:b")]
        let below := [Call.edit 1 (.set "b" "2"), .ask 1 (.get "b"), .edit 0 (.unset "c")]
        (s.run (locking ++ below)).1 = (s.run (below ++ locking)).1
          ∧ (s.run (locking ++ below)).2 = (s.run locking).2 ++ (s.run below).2
          ∧ (s.run below).2 = [.done, .text "2", .text "3"]
          ∧ (s.run locking).2 = [.done, .failed (.readOnly "a:b" .unset)] := by
  intro s
  obtain ⟨htwo, hlists⟩ := keyed_calls_commute s
  refine ⟨?_, ?_⟩
  · obtain ⟨t, a, b, hcd, hdc⟩ := htwo (.edit 1 (.set "b" "2")) (.edit 0 (.unset "a"))
      (0, "a:b") (0, "a") (by decide) (by decide) (by decide)
    have hanswers : (s.run [.edit 1 (.set "b" "2"), .edit 0 (.unset "a")]).2
        = [.done, .text "1"] := by decide
    rw [hcd] at hanswers
    exact ⟨t, a, b, hcd, hdc, (List.cons.inj (List.cons.inj hanswers).2).1⟩
  · intro locking below
    have hapart : ∀ c ∈ locking, ∀ d ∈ below, s.Apart c d := by
      refine List.forall_mem_cons.2 ⟨?_, List.forall_mem_cons.2 ⟨?_, by simp⟩⟩
      · simp only [below, List.forall_mem_cons]
        exact ⟨⟨(0, "a"), (0, "a:b"), by decide, by decide, by decide⟩,
          ⟨(0, "a"), (0, "a:b"), by decide, by decide, by decide⟩,
          ⟨(0, "a"), (0, "c"), by decide, by decide, by decide⟩, by simp⟩
      · simp only [below, List.forall_mem_cons]
        exact ⟨⟨(1, "a:b"), (0, "a:b"), by decide, by decide, by decide⟩,
          ⟨(1, "a:b"), (0, "a:b"), by decide, by decide, by decide⟩,
          ⟨(1, "a:b"), (0, "c"), by decide, by decide, by decide⟩, by simp⟩
    obtain ⟨hsession, hanswers, -⟩ := hlists locking below hapart
    exact ⟨hsession, hanswers, by decide, by decide⟩

end Session

end BlockConfig
