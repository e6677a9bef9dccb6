/-
BlockConfig.Text.Listing — entries and items as lines of text.

One line for each, without a line end behind the last. `Listing.entries`
writes `key = value`.
-/

namespace BlockConfig.Listing

/-- Items one below another. -/
def lines (items : List String) : String := String.intercalate "\n" items

/-- One entry as a line. -/
def entry (pair : String × String) : String := pair.1 ++ " = " ++ pair.2

/-- Entries one below another. -/
def entries (pairs : List (String × String)) : String := lines (pairs.map entry)

end BlockConfig.Listing
