/-
BlockConfig.Text.Inspect — a store as a text for the eyes of a developer.

The text names the scope and shows the entries in scope, keys and values
between quotation marks. Inside them everything is escaped that could not
be told from its surroundings or not be seen at all: quotation marks,
backslashes, and the characters of `Hidden.isHidden`.
-/
import BlockConfig.Store
import BlockConfig.Text.Hidden

namespace BlockConfig.Inspect

def escape (c : Char) : List Char :=
  if c = '"' then ['\\', '"']
  else if c = '\\' then ['\\', '\\']
  else if c = '\n' then ['\\', 'n']
  else if c = '\r' then ['\\', 'r']
  else if c = '\t' then ['\\', 't']
  else if c = '\x00' then ['\\', '0']
  else if Hidden.isHidden c then
    ['\\', 'u', '\x7b'] ++ Nat.toDigits 16 c.toNat ++ ['\x7d']
  else [c]

def quote (s : String) : String :=
  String.ofList ('"' :: (s.toList.flatMap escape ++ ['"']))

def entry (pair : String × String) : String := quote pair.1 ++ ": " ++ quote pair.2

/-- A scope and the entries in it on one line. -/
def line (scope : String) (pairs : List (String × String)) : String :=
  "ConfigStore \x7b prefix: " ++ quote scope ++ ", entries: \x7b"
    ++ String.intercalate ", " (pairs.map entry) ++ "\x7d \x7d"

/-- A scope and the entries in it, with a line for each field and each
entry. -/
def lines (scope : String) (pairs : List (String × String)) : String :=
  let rows := pairs.map fun p => "        " ++ entry p ++ ",\n"
  let shown := if rows.isEmpty then "\x7b\x7d" else "\x7b\n" ++ String.join rows ++ "    \x7d"
  "ConfigStore \x7b\n    prefix: " ++ quote scope ++ ",\n    entries: " ++ shown ++ ",\n\x7d"

/-- A store on one line. -/
def compact (s : Store) : String := line s.scope s.entries.toList

/-- A store with a line for each field and each entry. -/
def pretty (s : Store) : String := lines s.scope s.entries.toList

/-! ## Samples -/

example : quote "it's\t\x1b" = "\"it's\\t\\u\x7b1b\x7d\"" := by decide

example : compact ⟨⟨.ofList [("b:j", "2"), ("k", "1")], .empty⟩, "b:"⟩
    = "ConfigStore \x7b prefix: \"b:\", entries: \x7b\"j\": \"2\"\x7d \x7d" := by decide

end BlockConfig.Inspect
