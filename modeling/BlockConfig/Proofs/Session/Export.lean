/-
BlockConfig.Proofs.Session.Export — what a handle lists makes a store again.

The list of what a handle shows can be given to `createFrom`, in any order.
The new store shows the same and has no locks. Under whatever scope the list
was made, the keys in it are keys (`WellFormed.valid_of_mem_keys`), so the
check of each of them finds nothing. And they are distinct, so their order
does not matter (`Table.ofList_of_perm`).

Read the other way, this is about any list of pairs. It is refused for its
first malformed key, or else it is listed again with the last value of each
key, in the order of the bytes of the keys.
-/
import BlockConfig.Proofs.Session.Listing
import BlockConfig.Proofs.Session.Sharing
import BlockConfig.Proofs.Settings.Build

namespace BlockConfig

/-! ## 1. Stores of pairs -/

namespace Session

variable {s : Session} {pairs : List (String × String)}

theorem step_createFrom_of_some {e : ConfigError}
    (h : Key.refusal? (pairs.map Prod.fst) = some e) :
    (s.step (.createFrom pairs)).session = s
      ∧ (s.step (.createFrom pairs)).answer = .failed e := by
  have hresult := Store.result_ofEntries pairs
  rw [h] at hresult
  cases hb : Store.ofEntries pairs with
  | mk events result =>
    obtain rfl : result = .error e := by simpa [hb] using hresult
    simp only [step, hb, and_self]

theorem step_createFrom_of_none (h : Key.refusal? (pairs.map Prod.fst) = none) :
    (s.step (.createFrom pairs)).session = s.adopt (Store.ofPairs pairs)
      ∧ (s.step (.createFrom pairs)).answer = .handle s.nextHandle := by
  have hresult := Store.result_ofEntries pairs
  rw [h] at hresult
  cases hb : Store.ofEntries pairs with
  | mk events result =>
    obtain rfl : result = .ok (Store.ofPairs pairs) := by simpa [hb] using hresult
    simp only [step, hb, and_self]

theorem answer_createFrom_eq_failed_iff {e : ConfigError} :
    (s.step (.createFrom pairs)).answer = .failed e
      ↔ Key.refusal? (pairs.map Prod.fst) = some e := by
  cases h : Key.refusal? (pairs.map Prod.fst) with
  | some err => simp [(step_createFrom_of_some h).2]
  | none => simp [(step_createFrom_of_none h).2]

end Session

/-! ## 2. There and back -/

theorem Store.ofPairs_of_perm {t : Table String} {pairs : List (String × String)}
    (h : pairs.Perm t.toList) : ofPairs pairs = ⟨⟨t, .empty⟩, ""⟩ := by
  rw [ofPairs, Table.ofList_of_perm h]

namespace Session

/-- Handles are compared by what they show. -/
theorem answer_showsSame {s : Session} {h other : Nat} {store shown : Store}
    (hs : s.store? h = some store) (ho : s.store? other = some shown) :
    (s.step (.showsSame h other)).answer = .flag (decide (store.entries = shown.entries)) := by
  simp only [step, asking, hs, ho, Store.showsSame]

/-- In `t` there is a handle `n` onto the whole of a storage of its own that
shows what `h` shows, and nothing of it is read-only. -/
structure Imported (s t : Session) (h n : Nat) (store : Store) : Prop where
  own : t.handle? n = some ⟨s.storages.length, ""⟩
  holds : t.store? n = some ⟨⟨store.entries, .empty⟩, ""⟩
  origin : t.store? h = some store
  entries : (t.step (.ask n .entries)).answer = (s.step (.ask h .entries)).answer
  keys : (t.step (.ask n .keys)).answer = (s.step (.ask h .keys)).answer
  size : (t.step (.ask n .size)).answer = (s.step (.ask h .size)).answer
  equal : (t.step (.showsSame n h)).answer = .flag true
    ∧ (t.step (.showsSame h n)).answer = .flag true
  unlocked : ∀ key, (t.step (.ask n (.isReadOnly key))).answer = .flag false

theorem imported_of_adopt {s : Session} {h : Nat} {store : Store} (hs : s.store? h = some store) :
    s.Imported (s.adopt ⟨⟨store.entries, .empty⟩, ""⟩) h s.nextHandle store := by
  let new : Store := ⟨⟨store.entries, .empty⟩, ""⟩
  have hnew : (s.adopt new).store? s.nextHandle = some new := store?_adopt s new
  have hold : (s.adopt new).store? h = some store := store?_adopt_of_some hs new
  have hentries : new.entries = store.entries := Store.entries_of_root (Table.get?_under_empty ..)
  constructor
  case own => exact handle?_attach_nextHandle s _
  case holds => exact hnew
  case origin => exact hold
  case entries => rw [answer_ask hnew, answer_ask hs, Store.answer, Store.answer, hentries]
  case keys =>
    rw [answer_ask hnew, answer_ask hs, Store.answer, Store.answer, Store.keys, hentries]
    rfl
  case size =>
    rw [answer_ask hnew, answer_ask hs, Store.answer, Store.answer, Store.size, hentries]
    rfl
  case equal =>
    rw [answer_showsSame hnew hold, answer_showsSame hold hnew, hentries]
    simp
  case unlocked => exact fun key => answer_ask hnew (.isReadOnly key)

/-- What a handle lists makes a store that shows the same, in whatever order
the pairs are given. Any other pairs are refused for the first malformed key,
if there is one; or else they are listed again with the last value of each
key, and the list ascends by the bytes of the keys. -/
theorem createFrom_round_trip (s : Session) :
    (∀ (h : Nat) (store : Store) (shown pairs : List (String × String)),
      s.Reachable → s.store? h = some store →
      (s.step (.ask h .entries)).answer = .entries shown → pairs.Perm shown →
        (s.step (.createFrom pairs)).answer = .handle s.nextHandle
        ∧ s.Imported (s.step (.createFrom pairs)).session h s.nextHandle store)
    ∧ ∀ pairs : List (String × String),
        let made := s.step (.createFrom pairs)
        ((∃ e, made.answer = .failed e) ↔ ∃ key ∈ pairs.map Prod.fst, ¬ Key.Valid key)
        ∧ (∀ e, made.answer = .failed e ↔
            ∃ key fault, Key.FirstMalformed (pairs.map Prod.fst) key fault
              ∧ e = .invalidKey key fault)
        ∧ ((∀ key ∈ pairs.map Prod.fst, Key.Valid key) →
            made.answer = .handle s.nextHandle
            ∧ ∃ listed, (made.session.step (.ask s.nextHandle .entries)).answer = .entries listed
                ∧ (listed.map Prod.fst).Pairwise (fun a b => utf8 a < utf8 b)
                ∧ ∀ key value, (key, value) ∈ listed ↔ Pairs.LastValue pairs key value) := by
  refine ⟨fun h store shown pairs hr hs hshown hperm => ?_, fun pairs => ?_⟩
  · obtain rfl : store.entries.toList = shown :=
      Answer.entries.inj ((answer_ask hs .entries).symm.trans hshown)
    have hvalid : ∀ key ∈ pairs.map Prod.fst, Key.Valid key := fun key hkey =>
      (wellFormed_of_reachable hr).valid_of_mem_keys hs ((hperm.map Prod.fst).mem_iff.1 hkey)
    obtain ⟨hsession, hanswer⟩ := step_createFrom_of_none (Key.refusal?_eq_none_iff.2 hvalid)
    rw [hsession, Store.ofPairs_of_perm hperm]
    exact ⟨hanswer, imported_of_adopt hs⟩
  · refine ⟨?_, fun e => answer_createFrom_eq_failed_iff.trans Key.refusal?_eq_some_iff,
      fun hvalid => ?_⟩
    · simp only [answer_createFrom_eq_failed_iff]
      rw [← Option.isSome_iff_exists, ← Option.ne_none_iff_isSome, ne_eq,
        Key.refusal?_eq_none_iff]
      simp
    · obtain ⟨hsession, hanswer⟩ := step_createFrom_of_none (Key.refusal?_eq_none_iff.2 hvalid)
      have hnew := store?_adopt s (Store.ofPairs pairs)
      refine ⟨hanswer, (Store.ofPairs pairs).entries.toList, ?_, Store.ascending_keys _,
        fun key value => ?_⟩
      · rw [hsession]
        exact answer_ask hnew .entries
      · rw [Table.mem_toList_iff, Store.get?_entries_ofPairs hvalid,
          Pairs.lookup_reverse_eq_some_iff]

/-- A view of a view beside keys and locks that it does not show, and a view
whose name is no key. What the first lists is given back from the end, and
the second lists nothing. -/
theorem createFrom_of_nested_view :
    let s := (Session.run {} [.createFrom [("a:b:é", "1"), ("a:b:z", "2"), ("a:b", "3"),
      ("a:bc", "4")], .edit 0 (.lock "a:b:z"), .view 0 "a", .view 1 "b", .view 0 "a:"]).1
    s.Reachable ∧ (s.step (.ask 2 .entries)).answer = .entries [("z", "2"), ("é", "1")]
      ∧ (s.step (.createFrom [("é", "1"), ("z", "2")])).answer = .handle 4
      ∧ ((s.step (.createFrom [("é", "1"), ("z", "2")])).session.step (.showsSame 4 2)).answer
          = .flag true
      ∧ (s.step (.createFrom [])).answer = .handle 4
      ∧ (s.step (.createFrom [("k", "1"), ("z:", "2"), ("", "3")])).answer
          = .failed (.invalidKey "z:" .emptySegment)
      ∧ (∃ listed, ((s.step (.createFrom [("z", "1"), ("é", "2"), ("z", "3")])).session.step
            (.ask 4 .entries)).answer = .entries listed
          ∧ ("z", "3") ∈ listed ∧ ("z", "1") ∉ listed) := by
  intro s
  have hr : s.Reachable := ⟨_, rfl⟩
  let storage : Storage := ⟨.ofList [("a:b:é", "1"), ("a:b:z", "2"), ("a:b", "3"), ("a:bc", "4")],
    .ofList [("a:b:z", ())]⟩
  have hnested : s.store? 2 = some ⟨storage, "a:b:"⟩ := by decide
  have hmalformed : s.store? 3 = some ⟨storage, "a::"⟩ := by decide
  have hlisted : (s.step (.ask 2 .entries)).answer = .entries [("z", "2"), ("é", "1")] := by
    decide
  have hnothing : (s.step (.ask 3 .entries)).answer = .entries [] := by decide
  obtain ⟨hback, hpairs⟩ := createFrom_round_trip s
  obtain ⟨hanswer, himported⟩ := hback 2 _ _ _ hr hnested hlisted (List.Perm.swap ..)
  refine ⟨hr, hlisted, hanswer, himported.equal.1, ?_, ?_, ?_⟩
  · exact (hback 3 _ _ _ hr hmalformed hnothing .rfl).1
  · refine ((hpairs _).2.1 _).2 ⟨"z:", .emptySegment, ?_, rfl⟩
    exact ⟨["k"], [""], rfl, by decide, by decide⟩
  · obtain ⟨-, listed, hlist, -, hvalues⟩ :=
      (hpairs [("z", "1"), ("é", "2"), ("z", "3")]).2.2 (by decide)
    refine ⟨listed, hlist, (hvalues "z" "3").2 ?_, fun hmem => ?_⟩
    · exact ⟨[("z", "1"), ("é", "2")], [], rfl, by decide⟩
    · have h1 := Pairs.lookup_reverse_eq_some_iff.2 ((hvalues "z" "1").1 hmem)
      exact absurd h1 (by decide)

end Session

end BlockConfig
