/-
BlockConfig.Table — finite maps from texts, listed in ascending order.

A `Table` is its list of pairs together with the proof that the keys
ascend strictly, by code point. So a table has one form only: two tables
that answer every `get?` alike are equal (`ext_get?`), and a table's list
is what a reader sees, without duplicates and in order.

`Table.under scope` is the part below a scope, with the scope taken off.
Keys that share a leading text stand next to one another, so it is read
off one stretch of the list: skip what comes before the scope, take while
the scope leads, and drop the key that is the scope itself. That the
stretch misses nothing is a theorem about this order, not part of the
definition; what is proved here is that stripping a scope keeps the order
(`scan_sorted`), which is what makes the result a table again.

No lemma below asks for sortedness except `ext_get?`: look-ups after an
insertion or a removal are computed on the bare lists.
-/
import BlockConfig.Key

namespace BlockConfig

/-! ## 1. The order of texts -/

/-- Whether one text comes before another: at the first place where they
differ it has the smaller code point, or it ends there. -/
def comesBefore (a b : String) : Bool := (String.decidableLT a b).decide

@[simp] theorem comesBefore_iff {a b : String} : comesBefore a b = true ↔ a < b :=
  @decide_eq_true_iff _ (String.decidableLT a b)

@[simp] theorem comesBefore_eq_false_iff {a b : String} : comesBefore a b = false ↔ ¬ a < b := by
  rw [← comesBefore_iff, Bool.not_eq_true]

/-- A common leading text does not matter for the order. -/
theorem append_lt_append_iff {scope a b : String} : scope ++ a < scope ++ b ↔ a < b := by
  have aux : ∀ (lead l m : List Char), lead ++ l < lead ++ m ↔ l < m := by
    intro lead l m
    induction lead with
    | nil => rfl
    | cons c lead ih => simp [ih]
  have : (scope ++ a).toList < (scope ++ b).toList ↔ a.toList < b.toList := by
    rw [String.toList_append, String.toList_append]
    exact aux _ _ _
  exact this

/-! ## 2. Lists of pairs -/

namespace Pairs

/-- The keys ascend strictly. -/
def Sorted {α : Type} (pairs : List (String × α)) : Prop :=
  pairs.Pairwise fun a b => a.1 < b.1

/-- The value beside the first occurrence of a key. -/
def lookup {α : Type} (key : String) : List (String × α) → Option α
  | [] => none
  | (k, v) :: rest => if key = k then some v else lookup key rest

/-- Put a value at a key, in front of the first greater key; a pair that
is there already gives way. -/
def insert {α : Type} (key : String) (value : α) : List (String × α) → List (String × α)
  | [] => [(key, value)]
  | (k, v) :: rest =>
    if comesBefore key k then (key, value) :: (k, v) :: rest
    else if key = k then (key, value) :: rest
    else (k, v) :: insert key value rest

def erase {α : Type} (key : String) (pairs : List (String × α)) : List (String × α) :=
  pairs.filter fun p => p.1 ≠ key

/-- The stretch of pairs whose keys have the scope in front, with the
scope taken off. The key that is the scope itself has no relative key and
is left out. -/
def scan {α : Type} (scope : String) (pairs : List (String × α)) : List (String × α) :=
  ((pairs.dropWhile fun p => comesBefore p.1 scope).takeWhile fun p =>
    scope.toList.isPrefixOf p.1.toList).filterMap fun p =>
      (Key.within? scope p.1).map fun rest => (rest, p.2)

variable {α : Type}

@[simp] theorem lookup_nil (key : String) : lookup key ([] : List (String × α)) = none := rfl

theorem lookup_insert (key key' : String) (value : α) (pairs : List (String × α)) :
    lookup key' (insert key value pairs)
      = if key' = key then some value else lookup key' pairs := by
  induction pairs with
  | nil => rfl
  | cons p rest ih =>
    obtain ⟨k, v⟩ := p
    simp only [insert]
    split
    · rfl
    · split
      · next h => subst h; simp only [lookup]; split <;> rfl
      · next h =>
        simp only [lookup, ih]
        split
        · next h' => subst h'; rw [if_neg (Ne.symm h)]
        · rfl

theorem lookup_erase (key key' : String) (pairs : List (String × α)) :
    lookup key' (erase key pairs) = if key' = key then none else lookup key' pairs := by
  induction pairs with
  | nil => simp [erase]
  | cons p rest ih =>
    obtain ⟨k, v⟩ := p
    simp only [erase] at ih ⊢
    by_cases hk : k = key
    · subst hk
      simp only [List.filter_cons, ne_eq, not_true, decide_false, Bool.false_eq_true, if_false,
        ih, lookup]
      split <;> rfl
    · simp only [List.filter_cons, ne_eq, hk, not_false_eq_true, decide_true, if_true, lookup, ih]
      split
      · next h => subst h; rw [if_neg hk]
      · rfl

theorem mem_insert {key : String} {value : α} {pairs : List (String × α)} {p : String × α}
    (h : p ∈ insert key value pairs) : p = (key, value) ∨ p ∈ pairs := by
  induction pairs with
  | nil => exact .inl (by simpa [insert] using h)
  | cons q rest ih =>
    obtain ⟨k, v⟩ := q
    simp only [insert] at h
    split at h
    · simpa using h
    · split at h
      · rcases List.mem_cons.1 h with h | h
        · exact .inl h
        · exact .inr (List.mem_cons_of_mem _ h)
      · rcases List.mem_cons.1 h with h | h
        · exact .inr (h ▸ List.mem_cons_self)
        · exact (ih h).imp_right (List.mem_cons_of_mem _)

theorem insert_sorted {key : String} {value : α} {pairs : List (String × α)}
    (h : Sorted pairs) : Sorted (insert key value pairs) := by
  induction pairs with
  | nil => simp [insert, Sorted]
  | cons q rest ih =>
    obtain ⟨k, v⟩ := q
    obtain ⟨hfirst, hrest⟩ := List.pairwise_cons.1 h
    simp only [insert]
    split
    · next hbefore =>
      have hlt : key < k := comesBefore_iff.1 hbefore
      refine List.pairwise_cons.2 ⟨fun p hp => ?_, h⟩
      rcases List.mem_cons.1 hp with rfl | hp
      · exact hlt
      · exact String.lt_trans hlt (hfirst p hp)
    · next hnot =>
      split
      · next heq => subst heq; exact List.pairwise_cons.2 ⟨hfirst, hrest⟩
      · next hne =>
        refine List.pairwise_cons.2 ⟨fun p hp => ?_, ih hrest⟩
        rcases mem_insert hp with rfl | hp
        · rcases Std.lt_trichotomy k key with hk | hk | hk
          · exact hk
          · exact absurd hk.symm hne
          · exact absurd (comesBefore_iff.2 hk) hnot
        · exact hfirst p hp

theorem erase_sorted {key : String} {pairs : List (String × α)} (h : Sorted pairs) :
    Sorted (erase key pairs) := h.sublist List.filter_sublist

/-- Taking a scope off keeps the order, and the stretch was in order. -/
theorem scan_sorted {scope : String} {pairs : List (String × α)} (h : Sorted pairs) :
    Sorted (scan scope pairs) := by
  have hstretch := (h.sublist (List.dropWhile_sublist fun p => comesBefore p.1 scope)).sublist
    (List.takeWhile_sublist fun p => scope.toList.isPrefixOf p.1.toList)
  refine hstretch.filterMap _ ?_
  intro a b hab x hx y hy
  obtain ⟨r, hr, rfl⟩ := Option.map_eq_some_iff.1 hx
  obtain ⟨s, hs, rfl⟩ := Option.map_eq_some_iff.1 hy
  rw [(Key.within?_eq_some_iff.1 hr).1, (Key.within?_eq_some_iff.1 hs).1] at hab
  exact append_lt_append_iff.1 hab

/-- In a sorted list, a key in front of the first one has no value. -/
theorem lookup_eq_none_of_lt {key : String} {pairs : List (String × α)}
    (h : ∀ p ∈ pairs, key < p.1) : lookup key pairs = none := by
  induction pairs with
  | nil => rfl
  | cons p rest ih =>
    have hne : key ≠ p.1 := fun heq =>
      String.lt_irrefl p.1 (by simpa [heq] using h p List.mem_cons_self)
    simp only [lookup, if_neg hne]
    exact ih fun q hq => h q (List.mem_cons_of_mem _ hq)

/-- Sorted lists that agree on every look-up are equal. -/
theorem eq_of_lookup_eq {l m : List (String × α)} (hl : Sorted l) (hm : Sorted m)
    (h : ∀ key, lookup key l = lookup key m) : l = m := by
  induction l generalizing m with
  | nil =>
    cases m with
    | nil => rfl
    | cons q m => simpa [lookup] using h q.1
  | cons p l ih =>
    cases m with
    | nil => simpa [lookup] using h p.1
    | cons q m =>
      obtain ⟨hp, hl⟩ := List.pairwise_cons.1 hl
      obtain ⟨hq, hm⟩ := List.pairwise_cons.1 hm
      have hkeys : p.1 = q.1 := by
        rcases Std.lt_trichotomy p.1 q.1 with hlt | heq | hgt
        · have hpm : lookup p.1 (q :: m) = none :=
            lookup_eq_none_of_lt fun r hr => by
              rcases List.mem_cons.1 hr with rfl | hr
              · exact hlt
              · exact String.lt_trans hlt (hq r hr)
          have := h p.1
          rw [hpm] at this
          simp [lookup] at this
        · exact heq
        · have hql : lookup q.1 (p :: l) = none :=
            lookup_eq_none_of_lt fun r hr => by
              rcases List.mem_cons.1 hr with rfl | hr
              · exact hgt
              · exact String.lt_trans hgt (hp r hr)
          have := h q.1
          rw [hql] at this
          simp [lookup] at this
      have hvals : p.2 = q.2 := by simpa [lookup, hkeys] using h p.1
      have hrest : l = m := by
        refine ih hl hm fun key => ?_
        by_cases hk : key = p.1
        · have hlow : ∀ r ∈ l, key < r.1 := fun r hr => hk ▸ hp r hr
          have hmlow : ∀ r ∈ m, key < r.1 := fun r hr => hk ▸ hkeys ▸ hq r hr
          rw [lookup_eq_none_of_lt hlow, lookup_eq_none_of_lt hmlow]
        · have := h key
          simpa [lookup, hk, hkeys ▸ hk] using this
      rw [hrest, Prod.ext hkeys hvals]

end Pairs

/-! ## 3. Tables -/

/-- A finite map from texts: its pairs, keys strictly ascending. -/
structure Table (α : Type) where
  toList : List (String × α)
  sorted : Pairs.Sorted toList
deriving DecidableEq

/-- A set of texts is a table that says nothing about its keys. -/
abbrev KeySet := Table Unit

namespace Table

variable {α : Type}

def empty : Table α := ⟨[], List.Pairwise.nil⟩

instance : Inhabited (Table α) := ⟨empty⟩

def get? (t : Table α) (key : String) : Option α := Pairs.lookup key t.toList

def contains (t : Table α) (key : String) : Bool := (t.get? key).isSome

/-- Put a value at a key, replacing the one that was there. -/
def insert (t : Table α) (key : String) (value : α) : Table α :=
  ⟨Pairs.insert key value t.toList, Pairs.insert_sorted t.sorted⟩

def erase (t : Table α) (key : String) : Table α :=
  ⟨Pairs.erase key t.toList, Pairs.erase_sorted t.sorted⟩

/-- Put pairs in one after another; the last value for a key stays. -/
def insertAll (t : Table α) (pairs : List (String × α)) : Table α :=
  pairs.foldl (fun acc p => acc.insert p.1 p.2) t

/-- The table of a list of pairs; the last value for a key stays. -/
def ofList (pairs : List (String × α)) : Table α := empty.insertAll pairs

def keys (t : Table α) : List String := t.toList.map Prod.fst

def size (t : Table α) : Nat := t.toList.length

def isEmpty (t : Table α) : Bool := t.toList.isEmpty

/-- The part below a scope, with the scope taken off its keys. -/
def under (t : Table α) (scope : String) : Table α :=
  ⟨Pairs.scan scope t.toList, Pairs.scan_sorted t.sorted⟩

@[simp] theorem get?_empty (key : String) : (empty : Table α).get? key = none := rfl

theorem get?_insert (t : Table α) (key key' : String) (value : α) :
    (t.insert key value).get? key' = if key' = key then some value else t.get? key' :=
  Pairs.lookup_insert key key' value t.toList

theorem get?_erase (t : Table α) (key key' : String) :
    (t.erase key).get? key' = if key' = key then none else t.get? key' :=
  Pairs.lookup_erase key key' t.toList

@[simp] theorem insertAll_nil (t : Table α) : t.insertAll [] = t := rfl

@[simp] theorem insertAll_cons (t : Table α) (p : String × α) (pairs : List (String × α)) :
    t.insertAll (p :: pairs) = (t.insert p.1 p.2).insertAll pairs := rfl

/-- Tables that answer alike are equal. -/
theorem ext_get? {t u : Table α} (h : ∀ key, t.get? key = u.get? key) : t = u := by
  obtain ⟨l, hl⟩ := t
  obtain ⟨m, hm⟩ := u
  obtain rfl : l = m := Pairs.eq_of_lookup_eq hl hm h
  rfl

end Table

end BlockConfig
