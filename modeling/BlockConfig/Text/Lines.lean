/-
BlockConfig.Text.Lines — the first line of a text, and the others.

A text that is written as a line may hold line feeds and is then several
lines to a reader. `Lines.first` is what stands before the first line feed
and `Lines.others` are the lines behind it, each with its line feed.
Together they are the text as it was written (`first_others`).
-/

namespace BlockConfig.Lines

/-- What stands before the first line feed, and, if there is one, what
stands behind it. -/
def cut : List Char → List Char × Option (List Char)
  | [] => ([], none)
  | c :: rest => if c = '\n' then ([], some rest) else (c :: (cut rest).1, (cut rest).2)

/-- What stands before the first line feed. -/
def first (text : String) : String := String.ofList (cut text.toList).1

/-- The lines behind the first one. -/
def others (text : String) : String :=
  match (cut text.toList).2 with
  | none => ""
  | some rest => String.ofList rest ++ "\n"

/-- The first line and the others are the text, written as a line. -/
theorem first_others (text : String) : first text ++ "\n" ++ others text = text ++ "\n" := by
  have aux : ∀ cs : List Char,
      (cut cs).1 ++ '\n' :: ((cut cs).2.map (· ++ ['\n'])).getD [] = cs ++ ['\n'] := by
    intro cs
    induction cs with
    | nil => rfl
    | cons c rest ih =>
      by_cases hc : c = '\n'
      · simp [cut, hc]
      · simp [cut, hc, ih]
  have htext := aux text.toList
  apply String.toList_inj.1
  cases h : (cut text.toList).2 with
  | none =>
    rw [h] at htext
    simpa [first, others, h, String.toList_append] using htext
  | some rest =>
    rw [h] at htext
    simpa [first, others, h, String.toList_append] using htext

/-- A text without a line feed is one line. -/
theorem others_eq_empty {text : String} (h : '\n' ∉ text.toList) : others text = "" := by
  have aux : ∀ cs : List Char, '\n' ∉ cs → (cut cs).2 = none := by
    intro cs
    induction cs with
    | nil => intro _; rfl
    | cons c rest ih =>
      intro hcs
      simp only [List.mem_cons, not_or] at hcs
      simp [cut, Ne.symm hcs.1, ih hcs.2]
  simp [others, aux _ h]

end BlockConfig.Lines
