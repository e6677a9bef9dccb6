/-
BlockConfig.Proofs.Key.Names — names of blocks, and how they nest.

A block name may be any text. What it means is its scope, the text in
front of the keys of the block, and a scope tells which name it is of
(`scopeOf_injective`). So two ways of writing a name are the same when
their scopes are, and since scopes of nested names follow one another,
nesting is associative with the empty name as unit (`nest_assoc`).

Names one inside the other come to one name: the non-empty ones among
them, with the separator between (`pathOf`).

A name is `Sound` when it is empty or a key. Below a sound name the same
relative texts are keys as without it (`valid_scopeOf_append`), and below
any other name no text is a key (`fault?_below`). A nested name is sound
exactly when all its parts are (`sound_pathOf`), so one bad name on the
way spoils whatever is nested in it.
-/
import BlockConfig.Proofs.Key.Grammar

namespace BlockConfig.Key

/-! ## 1. Scopes and their names -/

theorem scopeOf_eq_empty_iff {name : String} : scopeOf name = "" ↔ name = "" := by
  by_cases hname : name = ""
  · simp [hname]
  · simp [scopeOf_of_ne hname, hname]

/-- A scope is the scope of one name only. -/
theorem scopeOf_injective {a b : String} (h : scopeOf a = scopeOf b) : a = b := by
  by_cases ha : a = ""
  · subst ha
    exact (scopeOf_eq_empty_iff.1 h.symm).symm
  · by_cases hb : b = ""
    · subst hb
      exact scopeOf_eq_empty_iff.1 h
    · rw [scopeOf_of_ne ha, scopeOf_of_ne hb] at h
      exact String.append_left_inj separatorText |>.1 h

/-- No scope is a key: what follows its last separator is empty. -/
theorem not_valid_scopeOf (name : String) : ¬ Valid (scopeOf name) := by
  rw [← String.append_empty (s := scopeOf name), valid_scopeOf_append]
  exact fun h => h.2.ne_empty rfl

/-- The block of a scope is the name it is of, unless that is empty. -/
theorem blockOf?_scopeOf (name : String) :
    blockOf? (scopeOf name) = if name = "" then none else some name := by
  by_cases hname : name = ""
  · subst hname
    rfl
  · rw [if_neg hname, scopeOf_of_ne hname, blockOf?]
    simp [separatorText]

/-! ## 2. Nesting -/

theorem nest_assoc (a b c : String) : nest (nest a b) c = nest a (nest b c) := by
  apply scopeOf_injective
  simp only [scopeOf_nest, String.append_assoc]

theorem nest_eq_empty_iff {a b : String} : nest a b = "" ↔ a = "" ∧ b = "" := by
  rw [← scopeOf_eq_empty_iff, scopeOf_nest, String.append_eq_empty_iff, scopeOf_eq_empty_iff,
    scopeOf_eq_empty_iff]

/-- The name that names come to, each inside the one before. -/
def pathOf (names : List String) : String := ofSegments (names.filter (· ≠ ""))

@[simp] theorem pathOf_nil : pathOf [] = "" := rfl

theorem ofSegments_ne_empty {segment : String} (h : segment ≠ "") (rest : List String) :
    ofSegments (segment :: rest) ≠ "" := by
  cases rest with
  | nil => simpa using h
  | cons next rest => simp [ofSegments_cons, h]

theorem pathOf_cons (name : String) (rest : List String) :
    pathOf (name :: rest) = nest name (pathOf rest) := by
  unfold pathOf
  by_cases hname : name = ""
  · simp [hname]
  · rw [List.filter_cons_of_pos (by simpa using hname)]
    cases hrest : rest.filter (· ≠ "") with
    | nil => simp
    | cons first others =>
      have hfirst : first ≠ "" := by
        have hmem : first ∈ rest.filter (· ≠ "") := hrest ▸ List.mem_cons_self
        simpa using (List.mem_filter.1 hmem).2
      rw [ofSegments_cons name (List.cons_ne_nil first others), nest, if_neg hname,
        if_neg (ofSegments_ne_empty hfirst others)]

/-- Nothing is left of names when all of them are empty. -/
theorem pathOf_eq_empty_iff {names : List String} :
    pathOf names = "" ↔ ∀ name ∈ names, name = "" := by
  induction names with
  | nil => simp
  | cons name rest ih => rw [pathOf_cons, nest_eq_empty_iff, ih, List.forall_mem_cons]

/-! ## 3. Sound names -/

/-- A name of a block that values can be kept in: the whole, or a key. -/
def Sound (name : String) : Prop := name = "" ∨ Valid name

instance (name : String) : Decidable (Sound name) := inferInstanceAs (Decidable (_ ∨ _))

/-- A nested name is sound exactly when both of its parts are. -/
theorem sound_nest {outer inner : String} :
    Sound (nest outer inner) ↔ Sound outer ∧ Sound inner := by
  have hkey : Valid "k" := by decide
  -- A name is sound when the text `k` is a key below it.
  have hbelow : ∀ name, Sound name ↔ Valid (scopeOf name ++ "k") := fun name => by
    rw [valid_scopeOf_append, and_iff_left hkey]
    exact Iff.rfl
  rw [hbelow (nest outer inner), scopeOf_nest, String.append_assoc, valid_scopeOf_append, ← hbelow]
  exact Iff.rfl

theorem sound_pathOf {names : List String} :
    Sound (pathOf names) ↔ ∀ name ∈ names, Sound name := by
  induction names with
  | nil => exact iff_of_true (.inl rfl) nofun
  | cons name rest ih => rw [pathOf_cons, sound_nest, ih, List.forall_mem_cons]

/-- A name with an empty segment is not sound, unless it is empty itself. -/
theorem not_sound_iff {name : String} : ¬ Sound name ↔ name ≠ "" ∧ "" ∈ segments name := by
  simp [Sound, valid_iff]

/-- Below a name that is not sound no text is a key, and every text has the
same fault. -/
theorem fault?_below {name : String} (h : ¬ Sound name) (key : String) :
    fault? (scopeOf name ++ key) = some .emptySegment := by
  have hinvalid : ¬ Valid (scopeOf name ++ key) := fun hv => h (valid_scopeOf_append.1 hv).1
  have hne : scopeOf name ++ key ≠ "" := by
    intro hempty
    rw [String.append_eq_empty_iff, scopeOf_eq_empty_iff] at hempty
    exact h (.inl hempty.1)
  rw [fault?_of_not_valid hinvalid, if_neg hne]

end BlockConfig.Key
