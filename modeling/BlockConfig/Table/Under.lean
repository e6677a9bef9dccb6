/-
BlockConfig.Table.Under — what lies below a scope.

`Table.under` reads one stretch of the list: it skips the keys before the
scope and stops at the first key that does not have the scope in front.
This module says what it finds. On a sorted list the stretch misses
nothing, so that the result is the plain filter of the whole list
(`scan_eq_filterMap`), and a look-up below a scope is a look-up of the
full key (`get?_under`).

The step that carries both is `leads_of_between`: a key between a scope
and a key that has the scope in front has it in front itself.
-/
import BlockConfig.Table

namespace BlockConfig

/-! ## 1. Keys between a scope and a key below it -/

theorem not_append_lt_self (scope rest : String) : ¬ scope ++ rest < scope := by
  intro h
  have hempty : rest < "" := by
    have h' : scope ++ rest < scope ++ "" := by simpa using h
    exact append_lt_append_iff.1 h'
  exact List.not_lt_nil rest.toList hempty

theorem leads_of_between {scope key rest : String} (hlow : ¬ key < scope)
    (hhigh : key < scope ++ rest) : scope.toList <+: key.toList := by
  have aux : ∀ (lead l m : List Char), ¬ l < lead → l < lead ++ m → lead <+: l := by
    intro lead
    induction lead with
    | nil => intro l m _ _; exact List.nil_prefix
    | cons c lead ih =>
      intro l m hl hh
      cases l with
      | nil => exact absurd (List.nil_lt_cons c lead) hl
      | cons d l =>
        rw [List.cons_append, List.cons_lt_cons_iff] at hh
        rw [List.cons_lt_cons_iff] at hl
        rcases hh with hlt | ⟨rfl, hh⟩
        · exact absurd (.inl hlt) hl
        · exact (List.prefix_cons_inj d).2 (ih l m (fun h => hl (.inr ⟨rfl, h⟩)) hh)
  have hhigh' : key.toList < scope.toList ++ rest.toList := by
    rw [← String.toList_append]
    exact hhigh
  exact aux _ _ _ hlow hhigh'

/-- A key before the scope is not below it. -/
theorem within?_eq_none_of_lt {scope key : String} (h : key < scope) :
    Key.within? scope key = none := by
  cases hw : Key.within? scope key with
  | none => rfl
  | some rest =>
    rw [(Key.within?_eq_some_iff.1 hw).1] at h
    exact absurd h (not_append_lt_self scope rest)

/-- A key below a scope has the scope in front. -/
theorem leads_of_within? {scope key rest : String} (h : Key.within? scope key = some rest) :
    scope.toList <+: key.toList := by
  rw [(Key.within?_eq_some_iff.1 h).1, String.toList_append]
  exact List.prefix_append _ _

namespace Pairs

variable {α : Type}

/-! ## 2. The stretch is the filter -/

/-- A pair relative to a scope. -/
def relative? (scope : String) (p : String × α) : Option (String × α) :=
  (Key.within? scope p.1).map fun rest => (rest, p.2)

theorem relative?_eq_none_iff {scope : String} {p : String × α} :
    relative? scope p = none ↔ Key.within? scope p.1 = none := by
  simp [relative?]

theorem filterMap_dropWhile_lt (scope : String) (pairs : List (String × α)) :
    (pairs.dropWhile fun p => comesBefore p.1 scope).filterMap (relative? scope)
      = pairs.filterMap (relative? scope) := by
  induction pairs with
  | nil => rfl
  | cons p rest ih =>
    rw [List.dropWhile_cons]
    by_cases h : p.1 < scope
    · have hnone : relative? scope p = none := relative?_eq_none_iff.2 (within?_eq_none_of_lt h)
      rw [if_pos (comesBefore_iff.2 h), ih, List.filterMap_cons, hnone]
    · rw [if_neg (fun hb => h (comesBefore_iff.1 hb))]

/-- Behind the skipped keys there is none before the scope. -/
theorem not_lt_of_mem_dropWhile {scope : String} {pairs : List (String × α)} (hs : Sorted pairs)
    {p : String × α} (hp : p ∈ pairs.dropWhile fun p => comesBefore p.1 scope) :
    ¬ p.1 < scope := by
  induction pairs with
  | nil => simp at hp
  | cons q rest ih =>
    obtain ⟨hq, hrest⟩ := List.pairwise_cons.1 hs
    rw [List.dropWhile_cons] at hp
    by_cases h : q.1 < scope
    · rw [if_pos (comesBefore_iff.2 h)] at hp
      exact ih hrest hp
    · rw [if_neg (fun hb => h (comesBefore_iff.1 hb))] at hp
      rcases List.mem_cons.1 hp with rfl | hp
      · exact h
      · exact fun hlt => h (String.lt_trans (hq p hp) hlt)

theorem filterMap_takeWhile_leads {scope : String} {pairs : List (String × α)}
    (hs : Sorted pairs) (hlow : ∀ p ∈ pairs, ¬ p.1 < scope) :
    (pairs.takeWhile fun p => scope.toList.isPrefixOf p.1.toList).filterMap (relative? scope)
      = pairs.filterMap (relative? scope) := by
  induction pairs with
  | nil => rfl
  | cons p rest ih =>
    obtain ⟨hp, hrest⟩ := List.pairwise_cons.1 hs
    have ih := ih hrest fun q hq => hlow q (List.mem_cons_of_mem _ hq)
    cases hlead : scope.toList.isPrefixOf p.1.toList with
    | true =>
      rw [List.takeWhile_cons, hlead, if_pos rfl, List.filterMap_cons, List.filterMap_cons, ih]
    | false =>
      have hnot : ¬ scope.toList <+: p.1.toList := by
        rw [← List.isPrefixOf_iff_prefix, hlead]
        exact Bool.false_ne_true
      have hall : ∀ q ∈ p :: rest, relative? scope q = none := by
        intro q hq
        rw [relative?_eq_none_iff]
        cases hw : Key.within? scope q.1 with
        | none => rfl
        | some r =>
          rcases List.mem_cons.1 hq with rfl | hq
          · exact absurd (leads_of_within? hw) hnot
          · have hlt := hp q hq
            rw [(Key.within?_eq_some_iff.1 hw).1] at hlt
            exact absurd (leads_of_between (hlow p List.mem_cons_self) hlt) hnot
      rw [List.takeWhile_cons, hlead, if_neg Bool.false_ne_true,
        List.filterMap_eq_nil_iff.2 hall]
      rfl

/-- On a sorted list the stretch below a scope is the filter of the whole
list. -/
theorem scan_eq_filterMap {scope : String} {pairs : List (String × α)} (hs : Sorted pairs) :
    scan scope pairs = pairs.filterMap (relative? scope) := by
  have hdrop : Sorted (pairs.dropWhile fun p => comesBefore p.1 scope) :=
    hs.sublist (List.dropWhile_sublist _)
  have hstretch := filterMap_takeWhile_leads hdrop
    fun p hp => not_lt_of_mem_dropWhile hs hp
  rw [filterMap_dropWhile_lt] at hstretch
  exact hstretch

theorem lookup_filterMap_relative? {scope key : String} (hkey : key ≠ "")
    (pairs : List (String × α)) :
    lookup key (pairs.filterMap (relative? scope)) = lookup (scope ++ key) pairs := by
  induction pairs with
  | nil => rfl
  | cons p rest ih =>
    by_cases hp : scope ++ key = p.1
    · have hw : Key.within? scope p.1 = some key :=
        Key.within?_eq_some_iff.2 ⟨hp.symm, hkey⟩
      have hrel : relative? scope p = some (key, p.2) := by simp [relative?, hw]
      rw [List.filterMap_cons, hrel]
      simp [lookup, hp]
    · rw [List.filterMap_cons]
      cases hw : relative? scope p with
      | none => simpa [lookup, hp] using ih
      | some q =>
        obtain ⟨r, hr, rfl⟩ := Option.map_eq_some_iff.1 hw
        have hne : key ≠ r := by
          rintro rfl
          exact hp (Key.within?_eq_some_iff.1 hr).1.symm
        simpa [lookup, hp, hne] using ih

/-- No relative key is empty. -/
theorem lookup_empty_filterMap_relative? {scope : String} (pairs : List (String × α)) :
    lookup "" (pairs.filterMap (relative? scope)) = none := by
  induction pairs with
  | nil => rfl
  | cons p rest ih =>
    rw [List.filterMap_cons]
    cases hw : relative? scope p with
    | none => exact ih
    | some q =>
      obtain ⟨r, hr, rfl⟩ := Option.map_eq_some_iff.1 hw
      have hne : "" ≠ r := (Key.within?_eq_some_iff.1 hr).2.symm
      simpa [lookup, hne] using ih

end Pairs

/-! ## 3. Tables -/

namespace Table

variable {α : Type}

/-- Below a scope a key stands for the scope followed by it; the empty
text stands for nothing. -/
theorem get?_under (t : Table α) (scope key : String) :
    (t.under scope).get? key = if key = "" then none else t.get? (scope ++ key) := by
  have hscan : (t.under scope).get? key
      = Pairs.lookup key (t.toList.filterMap (Pairs.relative? scope)) := by
    rw [← Pairs.scan_eq_filterMap t.sorted]
    rfl
  rw [hscan]
  by_cases hkey : key = ""
  · rw [if_pos hkey, hkey, Pairs.lookup_empty_filterMap_relative?]
  · rw [if_neg hkey, Pairs.lookup_filterMap_relative? hkey]
    rfl

/-- Scopes follow one another: the part below a scope of the part below
another is the part below both. -/
theorem under_under (t : Table α) (outer inner : String) :
    (t.under outer).under inner = t.under (outer ++ inner) := by
  refine ext_get? fun key => ?_
  rw [get?_under, get?_under, get?_under]
  by_cases hkey : key = ""
  · rw [if_pos hkey, if_pos hkey]
  · have hne : inner ++ key ≠ "" := by
      intro h
      have := congrArg String.toList h
      simp [String.toList_append, hkey] at this
    rw [if_neg hkey, if_neg hkey, if_neg hne, String.append_assoc]

end Table

end BlockConfig
