/-
BlockConfig.Proofs.Store.Mirror — one part of a configuration, kept below
two scopes.

A storage mirrors another when it has below the scope `a` what the other
has below the scope `b`. Nothing is said about the rest of either. Two
uses are in view. With `a = b` these are two storages that agree on one
block and may differ elsewhere. With `a` empty the first storage is a copy
of the block `b` of the second.

An operation below the one scope and the same operation below the other
have one outcome: both are refused at the same relative key and for the
same cause, or both are accepted, give back the same, and leave storages
that mirror one another again (`Storage.Mirrors.edit`,
`Storage.Mirrors.setAll`). For this the scopes have to be interchangeable:
a relative text makes a key below the one when it makes one below the
other. A store shows no more than what is below its scope, so questions
about what it shows have one answer too (`Store.Mirrors.answer`).

The last section is the other half of scoping: an operation below a scope
leaves every key alone that the scope does not lead.
-/
import BlockConfig.Proofs.Key.Grammar
import BlockConfig.Proofs.Session.Moves
import BlockConfig.Proofs.Store.Writes

namespace BlockConfig

/-! ## 1. Keys and errors below two scopes -/

/-- Below both scopes the same relative texts make keys. -/
def Key.Interchangeable (a b : String) : Prop :=
  ∀ key, Key.Valid (a ++ key) ↔ Key.Valid (b ++ key)

theorem Key.Interchangeable.refl (a : String) : Key.Interchangeable a a := fun _ => Iff.rfl

/-- A text that is no key, but not for being empty. -/
theorem Key.fault?_eq_emptySegment {key : String} {f : KeyFault} (hf : Key.fault? key = some f)
    (hne : key ≠ "") : f = .emptySegment := by
  have hv : ¬ Key.Valid key := fun hv => by
    rw [Key.Valid, hf] at hv
    cases hv
  rw [Key.fault?_of_not_valid hv, if_neg hne] at hf
  exact (Option.some.inj hf).symm

/-- One refusal, met at one relative key below two scopes. -/
inductive ConfigError.Mirrors (a b key : String) : ConfigError → ConfigError → Prop
  | keyNotFound : Mirrors a b key (.keyNotFound (a ++ key)) (.keyNotFound (b ++ key))
  | readOnly (attempt : Mutation) :
      Mirrors a b key (.readOnly (a ++ key) attempt) (.readOnly (b ++ key) attempt)
  | invalidKey {f g : KeyFault} (hf : Key.fault? (a ++ key) = some f)
      (hg : Key.fault? (b ++ key) = some g) :
      Mirrors a b key (.invalidKey (a ++ key) f) (.invalidKey (b ++ key) g)

theorem ConfigError.Mirrors.eq {a key : String} {e e' : ConfigError}
    (h : ConfigError.Mirrors a a key e e') : e = e' := by
  cases h with
  | keyNotFound | readOnly => rfl
  | invalidKey hf hg =>
    rw [hf] at hg
    rw [Option.some.inj hg]

/-- Two outcomes: errors that belong together, or values that do. -/
inductive Matched {ε δ α β : Type} (re : ε → δ → Prop) (r : α → β → Prop) :
    Except ε α → Except δ β → Prop
  | error {e : ε} {d : δ} (h : re e d) : Matched re r (.error e) (.error d)
  | ok {a : α} {b : β} (h : r a b) : Matched re r (.ok a) (.ok b)

/-- One outcome is an error exactly when the other is. -/
theorem Matched.cases {ε δ α β : Type} {re : ε → δ → Prop} {r : α → β → Prop}
    {x : Except ε α} {y : Except δ β} (h : Matched re r x y) :
    (∃ e d, x = .error e ∧ y = .error d ∧ re e d) ∨ ∃ a b, x = .ok a ∧ y = .ok b ∧ r a b := by
  cases h with
  | @error e d h => exact .inl ⟨e, d, rfl, rfl, h⟩
  | @ok a b h => exact .inr ⟨a, b, rfl, rfl, h⟩

theorem Matched.mapBoth {ε δ α β α' β' : Type} {re qe : ε → δ → Prop} {r : α → β → Prop}
    {q : α' → β' → Prop} {f : α → α'} {g : β → β'} {x : Except ε α} {y : Except δ β}
    (h : Matched re r x y) (hqe : ∀ e d, re e d → qe e d) (hq : ∀ a b, r a b → q (f a) (g b)) :
    Matched qe q (x.map f) (y.map g) := by
  cases h with
  | error h => exact .error (hqe _ _ h)
  | ok h => exact .ok (hq _ _ h)

theorem Matched.map {ε δ α β α' β' : Type} {re : ε → δ → Prop} {r : α → β → Prop}
    {q : α' → β' → Prop} {f : α → α'} {g : β → β'} {x : Except ε α} {y : Except δ β}
    (h : Matched re r x y) (hq : ∀ a b, r a b → q (f a) (g b)) :
    Matched re q (x.map f) (y.map g) :=
  h.mapBoth (fun _ _ he => he) hq

/-! ## 2. Tables -/

namespace Table

variable {α : Type} {a b : String} {t u : Table α}

/-- The one table has below `a` what the other has below `b`. -/
def Mirrors (a b : String) (t u : Table α) : Prop :=
  ∀ key, t.get? (a ++ key) = u.get? (b ++ key)

namespace Mirrors

theorem insert (h : Mirrors a b t u) (key : String) (value : α) :
    Mirrors a b (t.insert (a ++ key) value) (u.insert (b ++ key) value) := by
  intro k
  simp [get?_insert, h k]

theorem erase (h : Mirrors a b t u) (key : String) :
    Mirrors a b (t.erase (a ++ key)) (u.erase (b ++ key)) := by
  intro k
  simp [get?_erase, h k]

theorem insertAll (h : Mirrors a b t u) (pairs : List (String × α)) :
    Mirrors a b (t.insertAll (pairs.map fun p => (a ++ p.1, p.2)))
      (u.insertAll (pairs.map fun p => (b ++ p.1, p.2))) := by
  induction pairs generalizing t u with
  | nil => exact h
  | cons p rest ih => exact ih (h.insert p.1 p.2)

/-- What lies below a further scope is the same. -/
theorem under_eq (h : Mirrors a b t u) (scope : String) :
    t.under (a ++ scope) = u.under (b ++ scope) := by
  refine ext_get? fun key => ?_
  rw [get?_under, get?_under, String.append_assoc, String.append_assoc, h]

end Mirrors

/-- What is below the scopes is what is shown there, but for the keys that
are the scopes themselves. -/
theorem mirrors_of_under_eq (h : t.get? a = u.get? b) (hunder : t.under a = u.under b) :
    Mirrors a b t u := by
  intro key
  by_cases hkey : key = ""
  · rw [hkey, String.append_empty, String.append_empty, h]
  · have hget := congrArg (fun v : Table α => v.get? key) hunder
    simpa only [get?_under, if_neg hkey] using hget

/-- What is below a scope, taken by itself, when nothing is stored at the
scope. -/
theorem mirrors_under (h : t.get? a = none) : Mirrors "" a (t.under a) t := by
  intro key
  rw [String.empty_append, get?_under]
  by_cases hkey : key = ""
  · rw [if_pos hkey, hkey, String.append_empty, h]
  · rw [if_neg hkey]

end Table

/-! ## 3. Storages -/

/-- The key that an edit is about. -/
def Edit.key : Edit → String
  | .set key _ | .insert key _ | .unset key | .remove key | .lock key => key

namespace Storage

variable {a b : String} {s t : Storage}

structure Mirrors (a b : String) (s t : Storage) : Prop where
  entries : Table.Mirrors a b s.entries t.entries
  locks : Table.Mirrors a b s.locks t.locks

/-- What a change gives back is the same, and what it leaves is mirrored. -/
def MirrorsWith (a b : String) {α : Type} (p q : α × Storage) : Prop :=
  p.1 = q.1 ∧ p.2.Mirrors a b q.2

namespace Mirrors

theorem isLocked_eq (h : s.Mirrors a b t) (key : String) :
    s.isLocked (a ++ key) = t.isLocked (b ++ key) :=
  congrArg Option.isSome (h.locks key)

theorem check (hab : Key.Interchangeable a b) (key : String) :
    Matched (ConfigError.Mirrors a b key) Eq (Key.check (a ++ key)) (Key.check (b ++ key)) := by
  unfold Key.check
  have hkey := hab key
  unfold Key.Valid at hkey
  cases hf : Key.fault? (a ++ key) with
  | none =>
    rw [hkey.1 hf]
    exact .ok rfl
  | some f =>
    cases hg : Key.fault? (b ++ key) with
    | none => rw [hkey.2 hg] at hf; cases hf
    | some g => exact .error (.invalidKey hf hg)

theorem checkSet (h : s.Mirrors a b t) (hab : Key.Interchangeable a b) (key : String) :
    Matched (ConfigError.Mirrors a b key) Eq (s.checkSet (a ++ key)) (t.checkSet (b ++ key)) := by
  unfold Storage.checkSet
  rcases (check hab key).cases with ⟨e, e', hs, ht, he⟩ | ⟨_, _, hs, ht, -⟩
  · rw [hs, ht]
    exact .error he
  · rw [hs, ht, h.isLocked_eq]
    cases t.isLocked (b ++ key) with
    | true => exact .error (.readOnly .set)
    | false => exact .ok rfl

theorem set (h : s.Mirrors a b t) (hab : Key.Interchangeable a b) (key value : String) :
    Matched (ConfigError.Mirrors a b key) (Mirrors a b)
      (s.set (a ++ key) value) (t.set (b ++ key) value) := by
  unfold Storage.set
  rcases (h.checkSet hab key).cases with ⟨e, e', hs, ht, he⟩ | ⟨_, _, hs, ht, -⟩
  · rw [hs, ht]
    exact .error he
  · rw [hs, ht]
    exact .ok ⟨h.entries.insert key value, h.locks⟩

theorem unset (h : s.Mirrors a b t) (key : String) :
    Matched (ConfigError.Mirrors a b key) (MirrorsWith a b)
      (s.unset (a ++ key)) (t.unset (b ++ key)) := by
  unfold Storage.unset
  rw [h.isLocked_eq, h.entries key]
  cases t.isLocked (b ++ key) with
  | true => exact .error (.readOnly .unset)
  | false =>
    cases t.entries.get? (b ++ key) with
    | none => exact .error .keyNotFound
    | some value => exact .ok ⟨rfl, h.entries.erase key, h.locks⟩

theorem lock (h : s.Mirrors a b t) (hab : Key.Interchangeable a b) (key : String) :
    Matched (ConfigError.Mirrors a b key) (Mirrors a b)
      (s.lock (a ++ key)) (t.lock (b ++ key)) := by
  unfold Storage.lock
  rcases (check hab key).cases with ⟨e, e', hs, ht, he⟩ | ⟨_, _, hs, ht, -⟩
  · rw [hs, ht]
    exact .error he
  · rw [hs, ht]
    exact .ok ⟨h.entries, h.locks.insert key ()⟩

/-- An edit through handles below the two scopes. -/
theorem edit (h : s.Mirrors a b t) (hab : Key.Interchangeable a b) (scope : String) (e : Edit) :
    Matched (ConfigError.Mirrors a b (scope ++ e.key)) (MirrorsWith a b)
      (s.edit (a ++ scope) e) (t.edit (b ++ scope) e) := by
  cases e with
  | set key value | insert key value =>
    simp only [Storage.edit, String.append_assoc]
    exact (h.set hab _ _).map fun _ _ hr => ⟨rfl, hr⟩
  | unset key | remove key =>
    simp only [Storage.edit, String.append_assoc]
    exact (h.unset _).map fun _ _ hr => ⟨congrArg Answer.text hr.1, hr.2⟩
  | lock key =>
    simp only [Storage.edit, String.append_assoc]
    exact (h.lock hab _).map fun _ _ hr => ⟨rfl, hr⟩

theorem checkSetAll (h : s.Mirrors a b t) (hab : Key.Interchangeable a b)
    (pairs : List (String × String)) :
    Matched (fun e e' => ∃ key ∈ pairs.map Prod.fst, ConfigError.Mirrors a b key e e') Eq
      (s.checkSetAll (pairs.map fun p => (a ++ p.1, p.2)))
      (t.checkSetAll (pairs.map fun p => (b ++ p.1, p.2))) := by
  induction pairs with
  | nil => exact .ok rfl
  | cons p rest ih =>
    simp only [List.map_cons, Storage.checkSetAll]
    rcases (h.checkSet hab p.1).cases with ⟨e, e', hs, ht, he⟩ | ⟨_, _, hs, ht, -⟩
    · rw [hs, ht]
      exact .error ⟨p.1, List.mem_cons_self, he⟩
    · rw [hs, ht]
      rcases ih.cases with ⟨e, e', hs, ht, key, hk, he⟩ | ⟨_, _, hs, ht, -⟩
      · rw [hs, ht]
        exact .error ⟨key, List.mem_cons_of_mem _ hk, he⟩
      · rw [hs, ht]
        exact .ok rfl

/-- Several pairs written below the two scopes: the refusal, if there is
one, is at the same relative key. -/
theorem setAll (h : s.Mirrors a b t) (hab : Key.Interchangeable a b)
    (pairs : List (String × String)) :
    Matched (fun e e' => ∃ key ∈ pairs.map Prod.fst, ConfigError.Mirrors a b key e e')
      (Mirrors a b)
      (s.setAll (pairs.map fun p => (a ++ p.1, p.2)))
      (t.setAll (pairs.map fun p => (b ++ p.1, p.2))) := by
  unfold Storage.setAll
  rcases (h.checkSetAll hab pairs).cases with ⟨e, e', hs, ht, he⟩ | ⟨_, _, hs, ht, -⟩
  · rw [hs, ht]
    exact .error he
  · rw [hs, ht]
    exact .ok ⟨h.entries.insertAll pairs, h.locks⟩

end Mirrors

end Storage

/-! ## 4. Stores -/

/-- A question about what a store shows, not about the scope it has. -/
def Query.Blind : Query → Prop
  | .block | .inspect | .inspectPretty => False
  | _ => True

instance : DecidablePred Query.Blind
  | .block | .inspect | .inspectPretty => .isFalse id
  | .has _ | .contains _ | .get _ | .getD _ _ | .isReadOnly _ | .keys | .size | .length
  | .isEmpty | .entries | .json | .jsonPretty => .isTrue trivial

namespace Store

variable {a b scope : String} {s t : Store}

/-- Stores onto the same part below the two scopes. -/
structure Mirrors (a b scope : String) (s t : Store) : Prop where
  left : s.scope = a ++ scope
  right : t.scope = b ++ scope
  storage : s.storage.Mirrors a b t.storage

namespace Mirrors

theorem entries_eq (h : Mirrors a b scope s t) : s.entries = t.entries := by
  rw [Store.entries, Store.entries, h.left, h.right]
  exact h.storage.entries.under_eq scope

theorem locks_eq (h : Mirrors a b scope s t) : s.locks = t.locks := by
  rw [Store.locks, Store.locks, h.left, h.right]
  exact h.storage.locks.under_eq scope

theorem view (h : Mirrors a b scope s t) (name : String) :
    Mirrors a b (scope ++ Key.scopeOf name) (s.view name) (t.view name) where
  left := by rw [Store.view, h.left, String.append_assoc]
  right := by rw [Store.view, h.right, String.append_assoc]
  storage := h.storage

/-- Copies of a block of both are the same. -/
theorem subblock_eq (h : Mirrors a b scope s t) (name : String) :
    s.subblock name = t.subblock name := by
  rw [Store.subblock, Store.subblock, (h.view name).entries_eq, (h.view name).locks_eq]

theorem get?_eq (h : Mirrors a b scope s t) (key : String) :
    s.storage.entries.get? (s.qualify key) = t.storage.entries.get? (t.qualify key) := by
  rw [qualify, qualify, h.left, h.right, String.append_assoc, String.append_assoc,
    h.storage.entries]

theorem isReadOnly_eq (h : Mirrors a b scope s t) (key : String) :
    s.isReadOnly key = t.isReadOnly key := by
  rw [isReadOnly, isReadOnly, qualify, qualify, h.left, h.right, String.append_assoc,
    String.append_assoc, h.storage.isLocked_eq]

/-- Questions about what is shown have one answer, or none is found, at the
same relative key. -/
theorem answer (h : Mirrors a b scope s t) {q : Query} (hq : q.Blind) :
    (s.answer q = t.answer q ∧ (s.answer q).Plain)
      ∨ ∃ key, s.answer q = .failed (.keyNotFound (a ++ key))
          ∧ t.answer q = .failed (.keyNotFound (b ++ key)) := by
  have hentries := h.entries_eq
  cases q with
  | get key =>
    simp only [Store.answer, get, h.get?_eq key]
    cases t.storage.entries.get? (t.qualify key) with
    | some value => exact .inl ⟨rfl, trivial⟩
    | none =>
      refine .inr ⟨scope ++ key, ?_, ?_⟩
      · simp only [qualify, h.left, String.append_assoc]
      · simp only [qualify, h.right, String.append_assoc]
  | has key | contains key =>
    exact .inl ⟨congrArg (fun o => Answer.flag (Option.isSome o)) (h.get?_eq key), trivial⟩
  | getD key default =>
    exact .inl ⟨congrArg (fun o => Answer.text (Option.getD o default)) (h.get?_eq key), trivial⟩
  | isReadOnly key => exact .inl ⟨congrArg Answer.flag (h.isReadOnly_eq key), trivial⟩
  | keys | size | length | isEmpty | entries | json | jsonPretty =>
    refine .inl ⟨?_, trivial⟩
    simp only [Store.answer, keys, size, length, isEmpty, hentries]
  | block | inspect | inspectPretty => exact absurd hq id

/-- Below one and the same scope every question has one answer. -/
theorem answer_eq (h : Mirrors a a scope s t) (q : Query) : s.answer q = t.answer q := by
  by_cases hq : q.Blind
  · rcases h.answer hq with ⟨heq, -⟩ | ⟨key, hs, ht⟩
    · exact heq
    · rw [hs, ht]
  · -- The scope itself is the same on both sides.
    have hentries := h.entries_eq
    have hscope : s.scope = t.scope := h.left.trans h.right.symm
    cases q with
    | block => simp only [Store.answer, block?, hscope]
    | inspect => simp only [Store.answer, Inspect.compact, hentries, hscope]
    | inspectPretty => simp only [Store.answer, Inspect.pretty, hentries, hscope]
    | _ => exact absurd trivial hq

theorem edit (h : Mirrors a b scope s t) (hab : Key.Interchangeable a b) (e : Edit) :
    Matched (ConfigError.Mirrors a b (scope ++ e.key))
      (fun u v => u.1 = v.1 ∧ Mirrors a b scope u.2 v.2) (s.edit e).result (t.edit e).result := by
  rw [result_edit, result_edit, h.left, h.right]
  exact (h.storage.edit hab scope e).map fun _ _ hr => ⟨hr.1, rfl, rfl, hr.2⟩

/-- The same pairs come in from sources that show the same. -/
theorem incoming_eq (h : Mirrors a b scope s t) {given given' : Store}
    (hg : given.entries = given'.entries) :
    ∃ pairs : List (String × String), pairs.map Prod.fst = given.keys.map (scope ++ ·)
      ∧ s.incoming given = pairs.map (fun p => (a ++ p.1, p.2))
      ∧ t.incoming given' = pairs.map (fun p => (b ++ p.1, p.2)) := by
  refine ⟨given.entries.toList.map fun p => (scope ++ p.1, p.2), ?_, ?_, ?_⟩
  · simp [keys, Table.keys]
  · simp [incoming, qualify, h.left, String.append_assoc]
  · simp [incoming, qualify, h.right, hg, String.append_assoc]

/-- Merges of sources that show the same. -/
theorem merge (h : Mirrors a b scope s t) (hab : Key.Interchangeable a b) {given given' : Store}
    (hg : given.entries = given'.entries) :
    Matched (fun e e' => ∃ key ∈ given.keys, ConfigError.Mirrors a b (scope ++ key) e e')
      (Mirrors a b scope) (s.merge given).result (t.merge given').result := by
  obtain ⟨pairs, hkeys, hs, ht⟩ := h.incoming_eq hg
  rw [result_merge, result_merge, hs, ht]
  refine (h.storage.setAll hab pairs).mapBoth (fun e e' he => ?_)
    fun u v hr => ⟨h.left, h.right, hr⟩
  rw [hkeys] at he
  obtain ⟨full, hfull, he⟩ := he
  obtain ⟨key, hkey, rfl⟩ := List.mem_map.1 hfull
  exact ⟨key, hkey, he⟩

end Mirrors

end Store

/-! ## 5. What a scope does not lead -/

/-- The scope stands in front of the key. -/
def Key.Leads (scope key : String) : Prop := ∃ rest, key = scope ++ rest

theorem Key.leads_iff_prefix {scope key : String} :
    Key.Leads scope key ↔ scope.toList <+: key.toList := by
  constructor
  · rintro ⟨rest, rfl⟩
    rw [String.toList_append]
    exact List.prefix_append _ _
  · rintro ⟨rest, hrest⟩
    refine ⟨String.ofList rest, String.ext ?_⟩
    rw [String.toList_append, String.toList_ofList, hrest]

instance (scope key : String) : Decidable (Key.Leads scope key) :=
  decidable_of_iff _ Key.leads_iff_prefix.symm

theorem Key.Leads.of_append {outer inner key : String} (h : Key.Leads (outer ++ inner) key) :
    Key.Leads outer key := by
  obtain ⟨rest, rfl⟩ := h
  exact ⟨inner ++ rest, String.append_assoc ..⟩

namespace Storage

/-- Two storages have the same entries and locks at the keys of some kind. -/
def AgreeWhere (P : String → Prop) (s t : Storage) : Prop :=
  ∀ key, P key → s.entries.get? key = t.entries.get? key ∧ s.locks.get? key = t.locks.get? key

variable {P Q : String → Prop} {s t u : Storage}

theorem AgreeWhere.refl (P : String → Prop) (s : Storage) : s.AgreeWhere P s :=
  fun _ _ => ⟨rfl, rfl⟩

theorem AgreeWhere.trans (h : s.AgreeWhere P t) (h' : t.AgreeWhere P u) : s.AgreeWhere P u :=
  fun key hk => ⟨(h key hk).1.trans (h' key hk).1, (h key hk).2.trans (h' key hk).2⟩

theorem AgreeWhere.imp (h : s.AgreeWhere P t) (hPQ : ∀ key, Q key → P key) : s.AgreeWhere Q t :=
  fun key hk => h key (hPQ key hk)

/-- To agree on what a scope leads is to mirror one another below it. -/
theorem agreeWhere_leads_iff {p : String} :
    s.AgreeWhere (Key.Leads p) t ↔ s.Mirrors p p t := by
  constructor
  · intro h
    exact ⟨fun key => (h _ ⟨key, rfl⟩).1, fun key => (h _ ⟨key, rfl⟩).2⟩
  · rintro ⟨hentries, hlocks⟩ _ ⟨rest, rfl⟩
    exact ⟨hentries rest, hlocks rest⟩

/-- An edit leaves all other keys alone. -/
theorem agree_of_edit {scope : String} {e : Edit} {answer : Answer}
    (h : s.edit scope e = .ok (answer, t)) : s.AgreeWhere (· ≠ scope ++ e.key) t := by
  intro key hne
  cases e with
  | set k value | insert k value =>
    obtain ⟨u, hu, hp⟩ := map_eq_ok_iff.1 h
    obtain ⟨-, rfl⟩ := set_eq_ok_iff.1 hu
    cases hp
    exact ⟨((s.entries.get?_insert _ _ _).trans (if_neg hne)).symm, rfl⟩
  | unset k | remove k =>
    obtain ⟨⟨value, u⟩, hu, hp⟩ := map_eq_ok_iff.1 h
    obtain ⟨-, -, rfl⟩ := unset_eq_ok_iff.1 hu
    cases hp
    exact ⟨((s.entries.get?_erase _ _).trans (if_neg hne)).symm, rfl⟩
  | lock k =>
    obtain ⟨u, hu, hp⟩ := map_eq_ok_iff.1 h
    obtain ⟨-, rfl⟩ := lock_eq_ok_iff.1 hu
    cases hp
    exact ⟨rfl, ((s.locks.get?_insert _ _ _).trans (if_neg hne)).symm⟩

/-- Writing pairs leaves all other keys alone. -/
theorem agree_of_setAll {pairs : List (String × String)} (h : s.setAll pairs = .ok t) :
    s.AgreeWhere (· ∉ pairs.map Prod.fst) t := by
  obtain ⟨-, rfl⟩ := setAll_eq_ok_iff.1 h
  exact fun key hk => ⟨(Table.get?_insertAll_of_not_mem hk _).symm, rfl⟩

end Storage

namespace Store

theorem agree_of_edit {s next : Store} {e : Edit} {answer : Answer}
    (h : (s.edit e).result = .ok (answer, next)) :
    s.storage.AgreeWhere (fun key => ¬ Key.Leads s.scope key) next.storage := by
  rw [result_edit] at h
  obtain ⟨p, he, hp⟩ := map_eq_ok_iff.1 h
  cases hp
  exact (Storage.agree_of_edit he).imp fun key hkey heq => hkey ⟨e.key, heq⟩

theorem agree_of_merge {s given next : Store} (h : (s.merge given).result = .ok next) :
    s.storage.AgreeWhere (fun key => ¬ Key.Leads s.scope key) next.storage := by
  rw [result_merge] at h
  obtain ⟨storage, hset, rfl⟩ := map_eq_ok_iff.1 h
  refine (Storage.agree_of_setAll hset).imp fun key hkey hmem => ?_
  rw [keys_incoming] at hmem
  obtain ⟨rest, -, rfl⟩ := List.mem_map.1 hmem
  exact hkey ⟨rest, rfl⟩

end Store

end BlockConfig
