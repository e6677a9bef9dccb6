/-
BlockConfig.Proofs.Table.Lookup — look-ups against the listed pairs, and
look-ups after many insertions.

A table is read in two ways, by key and as a list. They tell the same:
`mem_toList_iff` and `mem_keys_iff`.

Pairs that are put into a table show in front of what was there before, and
of several values for one key the last one shows: a look-up searches them
from the end (`get?_insertAll_reverse`). Where the keys are distinct the
order does not matter (`get?_insertAll`).

One kind of pairs is what a merge writes: the entries of one table with a
scope in front of each key. A look-up in them takes the scope off again
(`lookup_map_append`), so that a key outside the scope finds nothing.
-/
import BlockConfig.Table.Under

namespace BlockConfig

namespace Pairs

variable {α : Type}

/-! ## 1. Look-ups and membership -/

theorem isSome_lookup_iff {key : String} {pairs : List (String × α)} :
    (lookup key pairs).isSome = true ↔ key ∈ pairs.map Prod.fst := by
  induction pairs with
  | nil => simp
  | cons p rest ih =>
    by_cases h : key = p.1
    · simp [lookup, h]
    · simp [lookup, h, ih]

theorem lookup_eq_none_iff {key : String} {pairs : List (String × α)} :
    lookup key pairs = none ↔ key ∉ pairs.map Prod.fst := by
  rw [← isSome_lookup_iff]
  cases lookup key pairs <;> simp

theorem Sorted.nodup_keys {pairs : List (String × α)} (h : Sorted pairs) :
    (pairs.map Prod.fst).Nodup := by
  refine List.pairwise_map.2 (h.imp fun {p q} hlt heq => ?_)
  exact String.lt_irrefl q.1 (heq ▸ hlt)

theorem lookup_eq_some_iff {key : String} {value : α} {pairs : List (String × α)}
    (h : (pairs.map Prod.fst).Nodup) : lookup key pairs = some value ↔ (key, value) ∈ pairs := by
  induction pairs with
  | nil => simp
  | cons p rest ih =>
    obtain ⟨k, v⟩ := p
    rw [List.map_cons, List.nodup_cons] at h
    by_cases hk : key = k
    · subst hk
      have hnot : (key, value) ∉ rest := fun hm => h.1 (List.mem_map.2 ⟨_, hm, rfl⟩)
      simp [lookup, hnot, eq_comm]
    · simp [lookup, hk, ih h.2]

theorem lookup_append (key : String) (l m : List (String × α)) :
    lookup key (l ++ m) = (lookup key l).or (lookup key m) := by
  induction l with
  | nil => rfl
  | cons p l ih => by_cases h : key = p.1 <;> simp [lookup, h, ih]

/-- Pairs that are left out are not missed at a key that they do not have. -/
theorem lookup_filter {keep : String × α → Bool} {key : String} {pairs : List (String × α)}
    (h : ∀ p ∈ pairs, p.1 = key → keep p = true) :
    lookup key (pairs.filter keep) = lookup key pairs := by
  induction pairs with
  | nil => rfl
  | cons p rest ih =>
    obtain ⟨hp, hrest⟩ := List.forall_mem_cons.1 h
    by_cases hkeep : keep p = true
    · rw [List.filter_cons_of_pos hkeep]
      simp only [lookup, ih hrest]
    · have hne : key ≠ p.1 := fun heq => hkeep (hp heq.symm)
      rw [List.filter_cons_of_neg hkeep, ih hrest, lookup, if_neg hne]

/-- Of pairs that are chosen by their keys, the chosen keys are found. -/
theorem lookup_filter_key (keep : String → Bool) (key : String) (pairs : List (String × α)) :
    lookup key (pairs.filter fun p => keep p.1) = if keep key then lookup key pairs else none := by
  cases hkeep : keep key with
  | true => exact lookup_filter fun p _ hp => by rw [hp, hkeep]
  | false =>
    refine lookup_eq_none_iff.2 fun hmem => ?_
    obtain ⟨p, hp, rfl⟩ := List.mem_map.1 hmem
    rw [(List.mem_filter.1 hp).2] at hkeep
    cases hkeep

/-- What is found stands behind pairs with other keys. -/
theorem exists_of_lookup_eq_some {key : String} {value : α} {pairs : List (String × α)}
    (h : lookup key pairs = some value) :
    ∃ before after, pairs = before ++ (key, value) :: after ∧ key ∉ before.map Prod.fst := by
  induction pairs with
  | nil => cases h
  | cons p rest ih =>
    obtain ⟨k, v⟩ := p
    by_cases hk : key = k
    · subst hk
      rw [lookup, if_pos rfl] at h
      exact ⟨[], rest, by rw [Option.some.inj h, List.nil_append], List.not_mem_nil⟩
    · rw [lookup, if_neg hk] at h
      obtain ⟨before, after, rfl, hbefore⟩ := ih h
      exact ⟨(k, v) :: before, after, rfl, by simp [hk, hbefore]⟩

/-- Where keys are distinct, their order does not matter. -/
theorem lookup_perm {l m : List (String × α)} (hperm : l.Perm m) (h : (m.map Prod.fst).Nodup)
    (key : String) : lookup key l = lookup key m := by
  have hl : (l.map Prod.fst).Nodup := (hperm.map Prod.fst).nodup_iff.2 h
  refine Option.ext fun value => ?_
  rw [lookup_eq_some_iff hl, lookup_eq_some_iff h, hperm.mem_iff]

theorem lookup_reverse {pairs : List (String × α)} (h : (pairs.map Prod.fst).Nodup)
    (key : String) : lookup key pairs.reverse = lookup key pairs :=
  lookup_perm (List.reverse_perm pairs) h key

/-- The last of the pairs for a key has this value. -/
def LastValue (pairs : List (String × α)) (key : String) (value : α) : Prop :=
  ∃ before after, pairs = before ++ (key, value) :: after ∧ key ∉ after.map Prod.fst

/-- From the end, the last value for a key is met first. -/
theorem lookup_reverse_eq_some_iff {key : String} {value : α} {pairs : List (String × α)} :
    lookup key pairs.reverse = some value ↔ LastValue pairs key value := by
  constructor
  · intro h
    obtain ⟨after, before, heq, hafter⟩ := exists_of_lookup_eq_some h
    refine ⟨before.reverse, after.reverse, ?_, by simpa using hafter⟩
    rw [← List.reverse_inj, heq]
    simp
  · rintro ⟨before, after, rfl, hafter⟩
    have hnone : lookup key after.reverse = none := lookup_eq_none_iff.2 (by simpa using hafter)
    simp [lookup_append, hnone, lookup]

/-- A look-up asks for no other keys. So lists that have the same pairs for
each key, in the same order, have the same last values. -/
theorem lookup_reverse_congr {l m : List (String × α)} {key : String}
    (h : l.filter (·.1 = key) = m.filter (·.1 = key)) :
    lookup key l.reverse = lookup key m.reverse := by
  have hasked : ∀ pairs : List (String × α),
      lookup key (pairs.filter (·.1 = key)).reverse = lookup key pairs.reverse := by
    intro pairs
    rw [← List.filter_reverse]
    exact lookup_filter fun p _ hp => by simp [hp]
  rw [← hasked l, ← hasked m, h]

/-- Pairs with a scope in front of their keys: a look-up takes the scope
off first. Without the empty key there is nothing at the scope itself. -/
theorem lookup_map_append {scope key : String} {pairs : List (String × α)}
    (hempty : lookup "" pairs = none) :
    lookup key (pairs.map fun p => (scope ++ p.1, p.2))
      = (Key.within? scope key).bind fun rest => lookup rest pairs := by
  cases hw : Key.within? scope key with
  | some rest =>
    obtain ⟨rfl, -⟩ := Key.within?_eq_some_iff.1 hw
    rw [Option.bind_some]
    clear hw hempty
    induction pairs with
    | nil => rfl
    | cons p pairs ih =>
      by_cases h : rest = p.1
      · simp [lookup, h]
      · have hne : ¬ scope ++ rest = scope ++ p.1 := by simpa using h
        simpa [lookup, h, hne] using ih
  | none =>
    rw [Option.bind_none, lookup_eq_none_iff]
    intro hm
    obtain ⟨q, hq, rfl⟩ := List.mem_map.1 hm
    obtain ⟨p, hp, rfl⟩ := List.mem_map.1 hq
    have hne : p.1 ≠ "" := by
      intro h0
      exact lookup_eq_none_iff.1 hempty (h0 ▸ List.mem_map.2 ⟨p, hp, rfl⟩)
    rw [Key.within?_eq_some_iff.2 ⟨rfl, hne⟩] at hw
    exact absurd hw (by simp)

end Pairs

/-! ## 2. Tables -/

namespace Table

variable {α : Type}

/-- Tables that list the same are equal. -/
theorem toList_inj {t u : Table α} : t.toList = u.toList ↔ t = u := by
  cases t
  cases u
  simp only [mk.injEq]

theorem contains_eq (t : Table α) (key : String) : t.contains key = (t.get? key).isSome := rfl

theorem mem_keys_iff {t : Table α} {key : String} : key ∈ t.keys ↔ t.contains key = true :=
  Pairs.isSome_lookup_iff.symm

theorem mem_toList_iff {t : Table α} {key : String} {value : α} :
    (key, value) ∈ t.toList ↔ t.get? key = some value :=
  (Pairs.lookup_eq_some_iff t.sorted.nodup_keys).symm

@[simp] theorem contains_insert (t : Table α) (key key' : String) (value : α) :
    (t.insert key value).contains key' = (key' = key || t.contains key') := by
  rw [contains_eq, get?_insert]
  by_cases h : key' = key <;> simp [h, contains_eq]

/-- Sets of texts with the same members are equal. -/
theorem ext_contains {t u : KeySet}
    (h : ∀ key, t.contains key = true ↔ u.contains key = true) : t = u := by
  refine ext_get? fun key => Option.ext fun member => ?_
  have hmember : ∀ v : KeySet, v.get? key = some member ↔ v.contains key = true := by
    intro v
    rw [contains_eq]
    cases v.get? key <;> simp
  rw [hmember t, hmember u, h]

/-- Below a scope nothing is called by the empty text. -/
theorem get?_under_empty (t : Table α) (scope : String) : (t.under scope).get? "" = none := by
  rw [get?_under, if_pos rfl]

/-- What is put in shows in front of what was there, and the last value for
a key in front of the others. -/
theorem get?_insertAll_reverse (t : Table α) (pairs : List (String × α)) (key : String) :
    (t.insertAll pairs).get? key = (Pairs.lookup key pairs.reverse).or (t.get? key) := by
  induction pairs generalizing t with
  | nil => rfl
  | cons p rest ih =>
    rw [insertAll_cons, ih, get?_insert, List.reverse_cons, Pairs.lookup_append, Option.or_assoc]
    by_cases hk : key = p.1 <;> simp [Pairs.lookup, hk]

theorem get?_insertAll {pairs : List (String × α)} (h : (pairs.map Prod.fst).Nodup)
    (t : Table α) (key : String) :
    (t.insertAll pairs).get? key = (Pairs.lookup key pairs).or (t.get? key) := by
  rw [get?_insertAll_reverse, Pairs.lookup_reverse h]

theorem get?_insertAll_of_not_mem {pairs : List (String × α)} {key : String}
    (h : key ∉ pairs.map Prod.fst) (t : Table α) :
    (t.insertAll pairs).get? key = t.get? key := by
  have hreverse : key ∉ pairs.reverse.map Prod.fst := by simpa using h
  rw [get?_insertAll_reverse, Pairs.lookup_eq_none_iff.2 hreverse, Option.none_or]

theorem contains_insertAll {t : Table α} {pairs : List (String × α)} {key : String} :
    (t.insertAll pairs).contains key = true
      ↔ key ∈ pairs.map Prod.fst ∨ t.contains key = true := by
  rw [contains_eq, get?_insertAll_reverse, Option.isSome_or, Bool.or_eq_true,
    Pairs.isSome_lookup_iff, List.map_reverse, List.mem_reverse]
  exact Iff.rfl

/-- The table of some pairs shows the last value for each key. -/
theorem get?_ofList (pairs : List (String × α)) (key : String) :
    (ofList pairs).get? key = Pairs.lookup key pairs.reverse := by
  rw [ofList, get?_insertAll_reverse, get?_empty, Option.or_none]

theorem get?_ofList_eq_some_iff {pairs : List (String × α)} {key : String} {value : α} :
    (ofList pairs).get? key = some value ↔ Pairs.LastValue pairs key value := by
  rw [get?_ofList, Pairs.lookup_reverse_eq_some_iff]

/-- The pairs of a table, in any order, make that table again. -/
theorem ofList_of_perm {t : Table α} {pairs : List (String × α)} (h : pairs.Perm t.toList) :
    ofList pairs = t := by
  refine ext_get? fun key => ?_
  rw [get?_ofList]
  exact Pairs.lookup_perm ((List.reverse_perm pairs).trans h) t.sorted.nodup_keys key

theorem ofList_append (l m : List (String × α)) : ofList (l ++ m) = (ofList l).insertAll m :=
  List.foldl_append

/-- A key is taken away with all its pairs. -/
theorem ofList_filter_ne (pairs : List (String × α)) (key : String) :
    ofList (pairs.filter (·.1 ≠ key)) = (ofList pairs).erase key := by
  refine ext_get? fun k => ?_
  rw [get?_erase, get?_ofList, get?_ofList, ← List.filter_reverse,
    Pairs.lookup_filter_key (fun k => decide (k ≠ key))]
  by_cases hk : k = key <;> simp [hk]

/-- The table of some pairs has their keys. -/
theorem contains_ofList {pairs : List (String × α)} {key : String} :
    (ofList pairs).contains key = true ↔ key ∈ pairs.map Prod.fst := by
  rw [ofList, contains_insertAll, contains_eq, get?_empty]
  simp

end Table

end BlockConfig
