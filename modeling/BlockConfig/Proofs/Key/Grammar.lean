/-
BlockConfig.Proofs.Key.Grammar — which texts are keys, and how they are
put together.

Cutting is a homomorphism: the separator between two texts is where their
pieces meet (`segments_append`). Everything else here follows from that.

* `valid_iff` — a key is a text without an empty segment. The empty text
  is no exception, because its one segment is empty.
* `valid_append` — two texts with the separator between them make a key
  exactly when both are keys.
* `valid_scopeOf_append` — so a text below a block is a key exactly when
  the name of the block is one (or empty) and the relative text is one.
  This is the fact that all arguments about scopes rest on: a malformed
  relative key stays malformed under every scope, and taking a scope off
  a key leaves a key.
* `segments_ofSegments` — what was written from segments is cut into
  them again.
-/
import BlockConfig.Key

namespace BlockConfig.Key

/-! ## 1. Cutting -/

/-- The pieces of two texts with the separator between them are the
pieces of the one and then those of the other. -/
theorem cut_append_separator (a b : List Char) :
    cut (a ++ separator :: b) = cut a ++ cut b := by
  induction a with
  | nil => simp [cut]
  | cons c a ih =>
    by_cases hc : c = separator
    · simp [cut, hc, ih]
    · cases hp : cut a with
      | nil => exact absurd hp (cut_ne_nil a)
      | cons piece pieces => simp [cut, hc, ih, hp]

theorem cut_of_not_mem {cs : List Char} (h : separator ∉ cs) : cut cs = [cs] := by
  induction cs with
  | nil => rfl
  | cons c cs ih =>
    rw [List.mem_cons, not_or] at h
    simp [cut, Ne.symm h.1, ih h.2]

theorem separator_not_mem_of_mem_cut {cs piece : List Char} (h : piece ∈ cut cs) :
    separator ∉ piece := by
  induction cs generalizing piece with
  | nil =>
    obtain rfl : piece = [] := by simpa [cut] using h
    exact List.not_mem_nil
  | cons c cs ih =>
    by_cases hc : c = separator
    · rw [cut, if_pos hc] at h
      rcases List.mem_cons.1 h with rfl | h
      · exact List.not_mem_nil
      · exact ih h
    · rw [cut, if_neg hc] at h
      cases hp : cut cs with
      | nil => exact absurd hp (cut_ne_nil cs)
      | cons first rest =>
        rw [hp, List.modifyHead_cons] at h
        rcases List.mem_cons.1 h with rfl | h
        · have hfirst : separator ∉ first := ih (by simp [hp])
          simpa [Ne.symm hc] using hfirst
        · exact ih (by simp [hp, h])

/-! ## 2. Segments -/

theorem segments_append (a b : String) :
    segments (a ++ separatorText ++ b) = segments a ++ segments b := by
  have h : (a ++ separatorText ++ b).toList = a.toList ++ separator :: b.toList := by
    simp [String.toList_append, separatorText]
  rw [segments, h, cut_append_separator, List.map_append]
  rfl

/-- A text without separator is its own only segment. -/
theorem segments_of_plain {s : String} (h : separator ∉ s.toList) : segments s = [s] := by
  rw [segments, cut_of_not_mem h]
  simp

theorem separator_not_mem_of_mem_segments {s key : String} (h : s ∈ segments key) :
    separator ∉ s.toList := by
  obtain ⟨piece, hp, rfl⟩ := List.mem_map.1 h
  rw [String.toList_ofList]
  exact separator_not_mem_of_mem_cut hp

theorem ofSegments_append {a b : List String} (ha : a ≠ []) (hb : b ≠ []) :
    ofSegments (a ++ b) = ofSegments a ++ separatorText ++ ofSegments b := by
  induction a with
  | nil => exact absurd rfl ha
  | cons s a ih =>
    rw [List.cons_append, ofSegments_cons s (List.append_ne_nil_of_right_ne_nil a hb)]
    cases a with
    | nil => simp
    | cons t a =>
      rw [ih (List.cons_ne_nil t a), ofSegments_cons s (List.cons_ne_nil t a)]
      simp only [String.append_assoc]

/-- What was written from segments is cut into them again. -/
theorem segments_ofSegments {l : List String} (hne : l ≠ [])
    (hplain : ∀ s ∈ l, separator ∉ s.toList) : segments (ofSegments l) = l := by
  induction l with
  | nil => exact absurd rfl hne
  | cons s l ih =>
    have hs : segments s = [s] := segments_of_plain (hplain s List.mem_cons_self)
    cases l with
    | nil => exact hs
    | cons t l =>
      rw [ofSegments_cons s (List.cons_ne_nil t l), segments_append, hs,
        ih (List.cons_ne_nil t l) fun u hu => hplain u (List.mem_cons_of_mem s hu)]
      rfl

/-! ## 3. Keys -/

/-- A key is a text without an empty segment. -/
theorem valid_iff {key : String} : Valid key ↔ ∀ s ∈ segments key, s ≠ "" := by
  unfold Valid fault?
  by_cases hkey : key = ""
  · subst hkey
    simp [segments, cut]
  · rw [if_neg hkey]
    by_cases hany : (segments key).any (· = "") = true
    · rw [if_pos hany]
      simpa using hany
    · rw [if_neg hany]
      simp only [List.any_eq_true, decide_eq_true_eq, not_exists, not_and] at hany
      exact iff_of_true rfl hany

theorem Valid.ne_empty {key : String} (h : Valid key) : key ≠ "" := by
  rintro rfl
  exact absurd h (by decide)

/-- What is wrong with a text that is no key. -/
theorem fault?_of_not_valid {key : String} (h : ¬ Valid key) :
    fault? key = some (if key = "" then .empty else .emptySegment) := by
  unfold Valid fault? at h
  unfold fault?
  by_cases hkey : key = ""
  · rw [if_pos hkey, if_pos hkey]
  · rw [if_neg hkey] at h ⊢
    rw [if_neg hkey]
    by_cases hany : (segments key).any (· = "") = true
    · rw [if_pos hany]
    · rw [if_neg hany] at h
      exact absurd rfl h

/-- Two texts with the separator between them make a key exactly when
both are keys. -/
theorem valid_append {a b : String} :
    Valid (a ++ separatorText ++ b) ↔ Valid a ∧ Valid b := by
  simp only [valid_iff, segments_append, List.mem_append, or_imp, forall_and]

/-- Below a block, a text is a key exactly when the name of the block is
empty or a key and the relative text is a key. -/
theorem valid_scopeOf_append {name key : String} :
    Valid (scopeOf name ++ key) ↔ (name = "" ∨ Valid name) ∧ Valid key := by
  by_cases hname : name = ""
  · simp [hname]
  · rw [scopeOf_of_ne hname, valid_append]
    simp [hname]

end BlockConfig.Key
