/-
BlockConfig.Proofs.Text.Reading — a listing, cut up again.

The reader here knows nothing of what was written. It cuts a text at its
line ends (`Listing.readLines`) and a line at its first equals sign, and
takes one blank away on either side of the sign (`Listing.readEntry`).

A value may hold equals signs and blanks. A key may hold blanks, at its end
too. So for a listing to be read back little is asked: that nothing in it
holds a line end, and that no key holds an equals sign
(`readEntries_shown`).
-/
import BlockConfig.Assignment
import BlockConfig.Text.Listing

namespace BlockConfig.Listing

/-! ## 1. Reading -/

/-- The lines of a text in which every line has its line end. The empty text
has none. -/
def readLines (text : String) : Option (List String) :=
  if text = "" then some []
  else if text.toList.getLast? = some '\n' then
    some ((text.toList.dropLast.splitOn '\n').map String.ofList)
  else none

/-- The entry that a line tells. -/
def readEntry (line : String) : Option (String × String) :=
  match Assignment.cutAtEquals line.toList with
  | some (before, ' ' :: value) =>
    if before.getLast? = some ' ' then
      some (String.ofList before.dropLast, String.ofList value)
    else none
  | _ => none

def readEntries (text : String) : Option (List (String × String)) :=
  (readLines text).bind fun lines => lines.mapM readEntry

/-! ## 2. Reading what was written -/

/-- Items as they are printed: nothing if there are none, and else a line
for each. -/
def shown (items : List String) : String := if items = [] then "" else lines items ++ "\n"

variable {items : List String} {pairs : List (String × String)} {pair : String × String}

theorem shown_eq_empty_iff : shown items = "" ↔ items = [] := by
  unfold shown
  split <;> simp [*]

theorem readLines_shown (h : ∀ item ∈ items, '\n' ∉ item.toList) :
    readLines (shown items) = some items := by
  unfold shown
  split
  · next hnil =>
    rw [hnil]
    rfl
  · next hne =>
    have hlines : (lines items ++ "\n").toList
        = ['\n'].intercalate (items.map String.toList) ++ ['\n'] := by
      simp [lines, String.toList_append]
    have hcut : (['\n'].intercalate (items.map String.toList)).splitOn '\n'
        = items.map String.toList :=
      List.splitOn_intercalate '\n' (by simpa using h) (by simpa using hne)
    have hback : (items.map String.toList).map String.ofList = items := by
      simp [Function.comp_def]
    rw [readLines, if_neg (by simp), hlines, if_pos List.getLast?_concat, List.dropLast_concat,
      hcut, hback]

theorem readEntry_entry (h : '=' ∉ pair.1.toList) : readEntry (entry pair) = some pair := by
  have hentry : (entry pair).toList = (pair.1.toList ++ [' ']) ++ '=' :: ' ' :: pair.2.toList := by
    simp [entry, String.toList_append]
  have hbefore : '=' ∉ pair.1.toList ++ [' '] := by simpa using h
  rw [readEntry, hentry, Assignment.cutAtEquals_append hbefore]
  simp

theorem mapM_readEntry (h : ∀ p ∈ pairs, '=' ∉ p.1.toList) :
    (pairs.map entry).mapM readEntry = some pairs := by
  induction pairs with
  | nil => rfl
  | cons p rest ih =>
    obtain ⟨hp, hrest⟩ := List.forall_mem_cons.1 h
    rw [List.map_cons, List.mapM_cons, readEntry_entry hp, ih hrest]
    rfl

/-- Entries without line ends and with keys without equals signs are read
back as they are. -/
theorem readEntries_shown (hkeys : ∀ p ∈ pairs, '=' ∉ p.1.toList)
    (hlines : ∀ p ∈ pairs, '\n' ∉ p.1.toList ∧ '\n' ∉ p.2.toList) :
    readEntries (shown (pairs.map entry)) = some pairs := by
  have hitems : ∀ item ∈ pairs.map entry, '\n' ∉ item.toList := by
    intro item hitem
    obtain ⟨p, hp, rfl⟩ := List.mem_map.1 hitem
    simp [entry, String.toList_append, hlines p hp]
  rw [readEntries, readLines_shown hitems]
  exact mapM_readEntry hkeys

/-- A key ends with a blank, and a value looks like an entry. -/
example : readEntries "a  = x = y\nb =  =\n" = some [("a ", "x = y"), ("b", " =")] := by decide

end BlockConfig.Listing
