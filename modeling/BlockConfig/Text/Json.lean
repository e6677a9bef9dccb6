/-
BlockConfig.Text.Json — a list of pairs of texts as a JSON object.

`quote` writes a text as a JSON string: a quotation mark and a backslash
are escaped, a control character gets its short escape or four hexadecimal
digits, and everything else stands for itself. `object` writes the members
in the order of the list. A `Layout` says what stands between the parts;
the two layouts in use differ in blanks and line ends only.
-/

namespace BlockConfig.Json

/-- A hexadecimal digit, in lower case. -/
def hexDigit (n : Nat) : Char := Nat.digitChar (n % 16)

def escape (c : Char) : List Char :=
  if c = '"' then ['\\', '"']
  else if c = '\\' then ['\\', '\\']
  else if c = '\n' then ['\\', 'n']
  else if c = '\r' then ['\\', 'r']
  else if c = '\t' then ['\\', 't']
  else if c = '\x08' then ['\\', 'b']
  else if c = '\x0c' then ['\\', 'f']
  else if c.toNat < 0x20 then ['\\', 'u', '0', '0', hexDigit (c.toNat / 16), hexDigit c.toNat]
  else [c]

def quote (s : String) : List Char :=
  '"' :: (s.toList.flatMap escape ++ ['"'])

/-- The blanks and line ends of an object that is not empty: after the
opening brace, between two members, after a colon, and before the closing
brace. -/
structure Layout where
  afterOpen : List Char
  afterComma : List Char
  afterColon : List Char
  beforeClose : List Char

/-- No blanks at all. -/
def Layout.compact : Layout := ⟨[], [], [], []⟩

/-- A line for each member, indented by two blanks. -/
def Layout.pretty : Layout :=
  ⟨['\n', ' ', ' '], ['\n', ' ', ' '], [' '], ['\n']⟩

def member (l : Layout) (pair : String × String) : List Char :=
  quote pair.1 ++ ':' :: (l.afterColon ++ quote pair.2)

/-- The members after the first one, each with the comma before it. -/
def furtherMembers (l : Layout) : List (String × String) → List Char
  | [] => []
  | pair :: rest => ',' :: (l.afterComma ++ member l pair ++ furtherMembers l rest)

/-- An object. Without members it is `\x7b\x7d` in every layout. -/
def object (l : Layout) : List (String × String) → List Char
  | [] => ['\x7b', '\x7d']
  | pair :: rest =>
    '\x7b' :: (l.afterOpen ++ member l pair ++ furtherMembers l rest ++ l.beforeClose ++ ['\x7d'])

def compact (pairs : List (String × String)) : String :=
  String.ofList (object .compact pairs)

def pretty (pairs : List (String × String)) : String :=
  String.ofList (object .pretty pairs)

/-! ## Samples -/

example : quote "a\"\n\x01é" = "\"a\\\"\\n\\u0001é\"".toList := by decide

example : compact [("a", "1"), ("b:c", "")] = "\x7b\"a\":\"1\",\"b:c\":\"\"\x7d" := by decide

example : pretty [("a", "1")] = "\x7b\n  \"a\": \"1\"\n\x7d" := by decide

end BlockConfig.Json
