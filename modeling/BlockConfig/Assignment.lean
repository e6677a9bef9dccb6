/-
BlockConfig.Assignment — a key and a value written as one text.

`KEY=VALUE` is cut at its first equals sign, so a value may hold further
ones and a key holds none. Main statement: `Assignment.parse` reads back
what `Assignment.write` wrote, for every non-empty key without `=`
(`parse_write`).
-/

namespace BlockConfig

/-- Why a text is no assignment. The text itself is kept for the wording. -/
inductive AssignmentError
  /-- There is no equals sign. -/
  | noEquals (raw : String)
  /-- Nothing stands in front of the first equals sign. -/
  | noKey (raw : String)
deriving DecidableEq

/-- The wording of an assignment error. -/
def AssignmentError.message : AssignmentError → String
  | .noEquals raw => s!"expected KEY=VALUE, got '{raw}'"
  | .noKey raw => s!"missing key in '{raw}'"

namespace Assignment

/-- The text before the first equals sign and the text after it. -/
def cutAtEquals : List Char → Option (List Char × List Char)
  | [] => none
  | c :: rest =>
    if c = '=' then some ([], rest)
    else (cutAtEquals rest).map fun (before, after) => (c :: before, after)

/-- Read an assignment. -/
def parse (raw : String) : Except AssignmentError (String × String) :=
  match cutAtEquals raw.toList with
  | none => .error (.noEquals raw)
  | some ([], _) => .error (.noKey raw)
  | some (before, after) => .ok (String.ofList before, String.ofList after)

/-- Write an assignment. -/
def write (pair : String × String) : String := pair.1 ++ "=" ++ pair.2

theorem cutAtEquals_append {before after : List Char} (h : '=' ∉ before) :
    cutAtEquals (before ++ '=' :: after) = some (before, after) := by
  induction before with
  | nil => simp [cutAtEquals]
  | cons c before ih =>
    simp only [List.mem_cons, not_or] at h
    simp [cutAtEquals, Ne.symm h.1, ih h.2]

/-- What is cut at an equals sign is the two parts with that sign between
them, and the first part holds none. -/
theorem cutAtEquals_eq_some {cs before after : List Char}
    (h : cutAtEquals cs = some (before, after)) :
    cs = before ++ '=' :: after ∧ '=' ∉ before := by
  induction cs generalizing before with
  | nil => simp [cutAtEquals] at h
  | cons c rest ih =>
    by_cases hc : c = '='
    · simp [cutAtEquals, hc] at h
      obtain ⟨rfl, rfl⟩ := h
      simp [hc]
    · simp only [cutAtEquals, if_neg hc, Option.map_eq_some_iff, Prod.mk.injEq] at h
      obtain ⟨⟨b, a⟩, hcut, rfl, rfl⟩ := h
      obtain ⟨rfl, hb⟩ := ih hcut
      exact ⟨rfl, by simp [hb, Ne.symm hc]⟩

/-- Reading gives back what was written. -/
theorem parse_write {key value : String} (hne : key ≠ "") (hkey : '=' ∉ key.toList) :
    parse (write (key, value)) = .ok (key, value) := by
  have hcut : cutAtEquals (write (key, value)).toList = some (key.toList, value.toList) := by
    have : cutAtEquals (key.toList ++ '=' :: value.toList) = some (key.toList, value.toList) :=
      cutAtEquals_append hkey
    simpa [write, String.toList_append] using this
  cases hk : key.toList with
  | nil => exact absurd (String.toList_eq_nil_iff.1 hk) hne
  | cons c cs =>
    rw [hk] at hcut
    simp only [parse, hcut]
    rw [← hk, String.ofList_toList, String.ofList_toList]

end Assignment

end BlockConfig
