/-
BlockConfig.Proofs.Table.Range — a scan of one range finds what a look at
every pair finds.

What lies below a scope is read off one stretch of a sorted list
(`Pairs.scan`): skip to the scope, go on while the scope leads, and leave out
the key that is the scope itself. `scan_finds` says that nothing is lost by
stopping there, and nothing is found that does not belong: what is found
are the rests of all the keys that have the scope in front and go on behind
it, each with its value, in ascending order of their bytes.

The keys may be any texts, well formed or not, and so may the scope. It need
not end with a separator, and it may be a key of the list. All that is asked
is that the keys ascend by their bytes, because then those with one scope in
front stand together (`leads_of_between`).
-/
import BlockConfig.Store
import BlockConfig.Table.Under
import BlockConfig.Proofs.Table.ByteOrder

namespace BlockConfig

namespace Pairs

variable {α : Type} {scope : String}

/-- The order of a table is the order of the bytes of its keys. -/
theorem sorted_iff_ascending {pairs : List (String × α)} :
    Sorted pairs ↔ (pairs.map Prod.fst).Pairwise fun a b => utf8 a < utf8 b := by
  simp only [Sorted, List.pairwise_map, utf8_lt_iff]

/-! ## 1. A look at every pair -/

/-- The scope is in front of a key that goes on behind it. -/
def below (scope : String) (p : String × α) : Bool :=
  scope.toList.isPrefixOf p.1.toList && p.1 != scope

theorem below_eq_true_iff {p : String × α} :
    below scope p = true ↔ ∃ rest, Key.within? scope p.1 = some rest := by
  simp only [below, Bool.and_eq_true, List.isPrefixOf_iff_prefix, bne_iff_ne,
    Key.within?_eq_some_iff]
  constructor
  · rintro ⟨⟨rest, hrest⟩, hne⟩
    have hkey : p.1 = scope ++ String.ofList rest := by
      rw [← String.toList_inj, String.toList_append, String.toList_ofList, hrest]
    refine ⟨String.ofList rest, hkey, fun hempty => hne ?_⟩
    rw [hkey, hempty, String.append_empty]
  · rintro ⟨rest, hkey, hne⟩
    rw [hkey, String.toList_append]
    exact ⟨List.prefix_append _ _, by simpa using hne⟩

theorem mem_filterMap_relative? {pairs : List (String × α)} {rest : String} {value : α} :
    (rest, value) ∈ pairs.filterMap (relative? scope)
      ↔ rest ≠ "" ∧ (scope ++ rest, value) ∈ pairs := by
  simp only [List.mem_filterMap, relative?, Option.map_eq_some_iff, Key.within?_eq_some_iff]
  constructor
  · rintro ⟨⟨key, v⟩, hp, r, ⟨hkey, hne⟩, heq⟩
    obtain ⟨rfl, rfl⟩ := Prod.mk.inj heq
    obtain rfl : key = scope ++ r := hkey
    exact ⟨hne, hp⟩
  · rintro ⟨hne, hp⟩
    exact ⟨_, hp, rest, ⟨rfl, hne⟩, rfl⟩

/-- With the scope put back in front, the relative pairs are those below the
scope, as they were. -/
theorem map_filterMap_relative? (pairs : List (String × α)) :
    (pairs.filterMap (relative? scope)).map (fun p => (scope ++ p.1, p.2))
      = pairs.filter (below scope) := by
  induction pairs with
  | nil => rfl
  | cons p rest ih =>
    cases hw : Key.within? scope p.1 with
    | none =>
      have hnot : ¬ below scope p = true := by simp [below_eq_true_iff, hw]
      rw [List.filterMap_cons, relative?_eq_none_iff.2 hw, List.filter_cons_of_neg hnot, ih]
    | some r =>
      have hbelow : below scope p = true := below_eq_true_iff.2 ⟨r, hw⟩
      have hrelative : relative? scope p = some (r, p.2) := by simp [relative?, hw]
      rw [List.filterMap_cons, hrelative, List.filter_cons_of_pos hbelow, List.map_cons, ih,
        ← (Key.within?_eq_some_iff.1 hw).1]

/-! ## 2. The scan -/

/-- All that some pairs hold below a scope is found, and nothing else is. -/
structure Found (scope : String) (pairs found : List (String × α)) : Prop where
  mem : ∀ rest value, (rest, value) ∈ found ↔ rest ≠ "" ∧ (scope ++ rest, value) ∈ pairs
  keys : ∀ rest, rest ∈ found.map Prod.fst ↔ rest ≠ "" ∧ scope ++ rest ∈ pairs.map Prod.fst
  /-- Each key once, in the order of the bytes. -/
  ascending : (found.map Prod.fst).Pairwise fun a b => utf8 a < utf8 b
  /-- It is what is left when the pairs are gone through one by one. -/
  filter : found.map (fun p => (scope ++ p.1, p.2)) = pairs.filter (below scope)

theorem found_scan {pairs : List (String × α)} (hs : Sorted pairs) (scope : String) :
    Found scope pairs (scan scope pairs) := by
  have hmem : ∀ rest value, (rest, value) ∈ scan scope pairs
      ↔ rest ≠ "" ∧ (scope ++ rest, value) ∈ pairs := by
    intro rest value
    rw [scan_eq_filterMap hs, mem_filterMap_relative?]
  constructor
  case mem => exact hmem
  case keys =>
    intro rest
    simp only [List.mem_map, Prod.exists, exists_and_right, exists_eq_right, hmem, exists_and_left]
  case ascending => exact sorted_iff_ascending.1 (scan_sorted hs)
  case filter => rw [scan_eq_filterMap hs, map_filterMap_relative?]

end Pairs

/-- Below every scope the scan of an ascending list finds all that the list
holds there. So do the scans of a storage, for its entries and for its locks. -/
theorem Storage.scan_finds :
    (∀ (α : Type) (pairs : List (String × α)) (scope : String),
      ((pairs.map Prod.fst).Pairwise fun a b => utf8 a < utf8 b) →
        Pairs.Found scope pairs (Pairs.scan scope pairs))
    ∧ ∀ (storage : Storage) (scope : String),
        Pairs.Found scope storage.entries.toList (⟨storage, scope⟩ : Store).entries.toList
        ∧ Pairs.Found scope storage.locks.toList (⟨storage, scope⟩ : Store).locks.toList := by
  refine ⟨fun α pairs scope h => ?_, fun storage scope => ⟨?_, ?_⟩⟩
  · exact Pairs.found_scan (Pairs.sorted_iff_ascending.2 h) scope
  · exact Pairs.found_scan storage.entries.sorted scope
  · exact Pairs.found_scan storage.locks.sorted scope

/-- Next to the scope `b:` stand the scope itself, a key that ends before the
separator, and keys that differ from it in one character. -/
theorem Storage.scan_finds_beside_neighbours :
    let pairs := [("", 0), ("b", 1), ("b9", 2), ("b:", 3), ("b::", 4), ("b:z", 5), ("b:é", 6),
      ("b;", 7), ("bb:k", 8)]
    Pairs.Found "b:" pairs (Pairs.scan "b:" pairs)
      ∧ Pairs.scan "b:" pairs = [(":", 4), ("z", 5), ("é", 6)]
      ∧ ("", 3) ∉ Pairs.scan "b:" pairs := by
  intro pairs
  have hascending : (pairs.map Prod.fst).Pairwise fun a b => utf8 a < utf8 b := by decide
  have hfound := Storage.scan_finds.1 Nat pairs "b:" hascending
  exact ⟨hfound, by decide, fun h => ((hfound.mem "" 3).1 h).1 rfl⟩

end BlockConfig
