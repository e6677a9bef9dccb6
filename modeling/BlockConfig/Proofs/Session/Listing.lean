/-
BlockConfig.Proofs.Session.Listing — what a handle lists and what it finds.

There are two ways to read through a handle: list everything, or ask for
one key. Lists are cut from the storage by one scan below the scope, and
look-ups put the scope in front of the key. `lookups_agree_with_listing`
says that they tell the same, for every text as a key, and that a list is
in the order of the bytes of its keys.

They could differ at one key only. A list never has the empty text, and a
look-up of the empty text asks for the scope itself. But no scope is a key,
and a storage holds keys only, so nothing is found there
(`WellFormed.get?_entries`).
-/
import BlockConfig.Proofs.Session.KeysValid
import BlockConfig.Proofs.Table.ByteOrder

namespace BlockConfig

/-! ## 1. Stores -/

namespace Store

variable {s : Store}

/-- What is shown ascends by the bytes of its keys. -/
theorem ascending_keys (s : Store) : s.keys.Pairwise fun a b => utf8 a < utf8 b :=
  List.pairwise_map.2 (s.entries.sorted.imp fun hlt => utf8_lt_iff.2 hlt)

theorem isEmpty_eq (s : Store) : s.isEmpty = s.entries.toList.isEmpty := by
  rw [isEmpty, size, Table.size]
  cases s.entries.toList <;> rfl

end Store

/-! ## 2. Handles -/

namespace Session

variable {s : Session} {h : Nat} {store : Store}

/-- A look-up of the full key finds what is shown under the relative one,
also if that is the empty text. -/
theorem WellFormed.get?_entries (hw : s.WellFormed) (hs : s.store? h = some store)
    (key : String) :
    store.entries.get? key = store.storage.entries.get? (store.qualify key) := by
  rw [Store.get?_entries]
  by_cases hkey : key = ""
  · have hempty : ¬ Key.Valid key := fun hvalid => hvalid.ne_empty hkey
    rw [if_pos hkey, (hw.absent hs hempty).1]
  · rw [if_neg hkey]

/-- A handle lists some pairs, and finds them and nothing else. -/
structure Lists (s : Session) (h : Nat) (store : Store) (pairs : List (String × String)) :
    Prop where
  entries : (s.step (.ask h .entries)).answer = .entries pairs
  keys : (s.step (.ask h .keys)).answer = .keys (pairs.map Prod.fst)
  /-- A loop over the store goes through the listed keys. -/
  visits : ∀ {m : Type → Type} [Monad m] {β : Type} (start : β)
    (visit : String → β → m (ForInStep β)),
    forIn store start visit = forIn (pairs.map Prod.fst) start visit
  ascending : (pairs.map Prod.fst).Pairwise fun a b => utf8 a < utf8 b
  size : (s.step (.ask h .size)).answer = .count pairs.length
  length : (s.step (.ask h .length)).answer = .count pairs.length
  isEmpty : (s.step (.ask h .isEmpty)).answer = .flag pairs.isEmpty
  found : ∀ key value, (key, value) ∈ pairs →
    (s.step (.ask h (.has key))).answer = .flag true
    ∧ (s.step (.ask h (.contains key))).answer = .flag true
    ∧ (s.step (.ask h (.get key))).answer = .text value
    ∧ ∀ default, (s.step (.ask h (.getD key default))).answer = .text value
  missing : ∀ key, key ∉ pairs.map Prod.fst →
    (s.step (.ask h (.has key))).answer = .flag false
    ∧ (s.step (.ask h (.contains key))).answer = .flag false
    ∧ (s.step (.ask h (.get key))).answer = .failed (.keyNotFound (store.scope ++ key))
    ∧ ∀ default, (s.step (.ask h (.getD key default))).answer = .text default

/-- In every session that calls lead to, through every handle: what is
listed is found and what is not listed is missing, whatever text is asked
for, and the list ascends by the bytes of the keys. -/
theorem lookups_agree_with_listing (hr : s.Reachable) (hs : s.store? h = some store) :
    ∃ pairs, s.Lists h store pairs := by
  have hw := wellFormed_of_reachable hr
  refine ⟨store.entries.toList, ?_⟩
  constructor
  case entries => exact answer_ask hs .entries
  case keys => exact answer_ask hs .keys
  case visits => intros; rfl
  case ascending => exact store.ascending_keys
  case size => exact answer_ask hs .size
  case length => exact answer_ask hs .length
  case isEmpty => rw [answer_ask hs, Store.answer, Store.isEmpty_eq]
  case found =>
    intro key value hmem
    rw [Table.mem_toList_iff, hw.get?_entries hs] at hmem
    simp [answer_ask hs, Store.answer, Store.has, Store.contains, Store.get, Store.getD,
      Table.contains_eq, hmem]
  case missing =>
    intro key hmem
    have hnone : store.storage.entries.get? (store.qualify key) = none := by
      rw [← hw.get?_entries hs]
      exact Pairs.lookup_eq_none_iff.2 hmem
    simp [answer_ask hs, Store.answer, Store.has, Store.contains, Store.get, Store.getD,
      Table.contains_eq, hnone]
    rfl

/-- The block `b` next to the key `b` and to the block `bb`, with a lock on a
key without a value. Nothing is called by the empty text there. -/
theorem listing_beside_neighbours :
    let s := (Session.run {} [.createFrom [("b", "0"), ("bb:k", "1"), ("b:é", "2"), ("b:k", "3")],
      .edit 0 (.lock "b:z"), .view 0 "b"]).1
    s.Reachable
      ∧ s.store? 1 = some ⟨⟨.ofList [("b", "0"), ("bb:k", "1"), ("b:é", "2"), ("b:k", "3")],
          .ofList [("b:z", ())]⟩, "b:"⟩
      ∧ (s.step (.ask 1 .keys)).answer = .keys ["k", "é"]
      ∧ utf8 "k" < utf8 "é"
      ∧ (s.step (.ask 1 (.get "é"))).answer = .text "2"
      ∧ (s.step (.ask 1 (.get "z"))).answer = .failed (.keyNotFound ("b:" ++ "z"))
      ∧ (s.step (.ask 1 (.get ""))).answer = .failed (.keyNotFound ("b:" ++ "")) := by
  intro s
  have hr : s.Reachable := ⟨_, rfl⟩
  have hs : s.store? 1 = some ⟨⟨.ofList [("b", "0"), ("bb:k", "1"), ("b:é", "2"), ("b:k", "3")],
      .ofList [("b:z", ())]⟩, "b:"⟩ := by decide
  obtain ⟨pairs, hlists⟩ := lookups_agree_with_listing hr hs
  have hentries : (s.step (.ask 1 .entries)).answer = .entries [("k", "3"), ("é", "2")] := by
    decide
  obtain rfl : [("k", "3"), ("é", "2")] = pairs :=
    Answer.entries.inj (hentries.symm.trans hlists.entries)
  refine ⟨hr, hs, hlists.keys, ?_, ?_, ?_, ?_⟩
  · exact List.rel_of_pairwise_cons hlists.ascending (by decide)
  · exact (hlists.found "é" "2" (by decide)).2.2.1
  · exact (hlists.missing "z" (by decide)).2.2.1
  · exact (hlists.missing "" (by decide)).2.2.1

end Session

end BlockConfig
