/-
BlockConfig.Text.Ranges — classes of characters, given as ranges of code
points.

A class is a list of ranges in ascending order. A search in it may
therefore stop at the first range that begins beyond the code point it is
for; that it misses none is `holds_iff`.
-/

namespace BlockConfig.Ranges

/-- Whether a code point lies in one of several ranges, which are in
ascending order. -/
def holds (n : Nat) : List (Nat × Nat) → Bool
  | [] => false
  | (first, last) :: rest => if n < first then false else n ≤ last || holds n rest

/-- Whether ranges are in ascending order and do not meet. -/
def ascend : List (Nat × Nat) → Bool
  | [] => true
  | [(first, last)] => first ≤ last
  | (first, last) :: next :: rest => first ≤ last && last < next.1 && ascend (next :: rest)

/-- Every range begins behind the last code point of the ranges before it. -/
theorem lt_of_ascend {first last : Nat} {rest : List (Nat × Nat)}
    (h : ascend ((first, last) :: rest) = true) : ∀ r ∈ rest, last < r.1 := by
  induction rest generalizing first last with
  | nil => simp
  | cons next rest ih =>
    simp only [ascend, Bool.and_eq_true, decide_eq_true_eq] at h
    obtain ⟨⟨_, hnext⟩, hrest⟩ := h
    intro r hr
    rcases List.mem_cons.1 hr with rfl | hr
    · exact hnext
    · have hle : next.1 ≤ next.2 := by
        cases rest <;> simp [ascend] at hrest <;> omega
      have := @ih next.1 next.2 hrest r hr
      omega

/-- Stopping early misses no range. -/
theorem holds_iff {n : Nat} {table : List (Nat × Nat)} (h : ascend table = true) :
    holds n table = true ↔ ∃ r ∈ table, r.1 ≤ n ∧ n ≤ r.2 := by
  induction table with
  | nil => simp [holds]
  | cons range rest ih =>
    obtain ⟨first, last⟩ := range
    have hrest : ascend rest = true := by
      cases rest with
      | nil => rfl
      | cons next rest => simp [ascend] at h; exact h.2
    have hlt := lt_of_ascend h
    have hle : first ≤ last := by
      cases rest <;> simp [ascend] at h <;> omega
    by_cases hn : n < first
    · have : ∀ r ∈ rest, ¬ r.1 ≤ n := fun r hr => by have := hlt r hr; omega
      simp only [holds, if_pos hn, Bool.false_eq_true, List.mem_cons, false_iff]
      rintro ⟨r, rfl | hr, h1, _⟩
      · omega
      · exact this r hr h1
    · simp only [holds, if_neg hn, Bool.or_eq_true, decide_eq_true_eq, ih hrest, List.mem_cons]
      constructor
      · rintro (hlast | ⟨r, hr, h12⟩)
        · exact ⟨(first, last), .inl rfl, by simpa using hn, hlast⟩
        · exact ⟨r, .inr hr, h12⟩
      · rintro ⟨r, rfl | hr, h12⟩
        · exact .inl h12.2
        · exact .inr ⟨r, hr, h12⟩

end BlockConfig.Ranges
