/-
BlockConfig.Log.Pattern.Element — the smallest parts of a pattern, and the
modes that decide which of them may be used.

A pattern describes texts. By default it describes them character by
character and has no tables at hand for what goes beyond single
characters: there are no shorthand classes such as that of the digits, no
edges of words, and upper and lower case cannot be taken for the same. In
byte mode all three are there for ASCII; but then what is described must
not go beyond ASCII either, except for a character written as itself.
`Element.isAllowed` is this rule for an element that stands alone, and
`Element.isAllowedInClass` for one between square brackets.
-/
import BlockConfig.Text.Letter

namespace BlockConfig.Pattern

/-! ## 1. Modes -/

/-- The modes that a pattern may change on its way. -/
structure Modes where
  ignoreCase : Bool := false
  bytes : Bool := false
  /-- Whether blanks between the parts are left out, and remarks. -/
  spaced : Bool := false
deriving DecidableEq

/-- Switch the modes that letters stand for; behind a dash they are
switched off. Other letters change nothing that matters for the form of a
pattern. -/
def Modes.switch : Modes → Bool → List Char → Modes
  | m, _, [] => m
  | m, on, c :: rest =>
    if c = '-' then m.switch false rest
    else if c = 'i' then { m with ignoreCase := on }.switch on rest
    else if c = 'u' then { m with bytes := !on }.switch on rest
    else if c = 'x' then { m with spaced := on }.switch on rest
    else m.switch on rest

/-- Leave out blanks and remarks, which go from a number sign to the end of
the line; the flag tells whether one has begun. -/
def skip : Bool → List Char → List Char
  | _, [] => []
  | true, c :: rest => skip (c ≠ '\n') rest
  | false, c :: rest =>
    if isBlank c then skip false rest else if c = '#' then skip true rest else c :: rest

/-- Leave out blanks and remarks where the modes ask for that. -/
def Modes.skip (m : Modes) (cs : List Char) : List Char :=
  if m.spaced then Pattern.skip false cs else cs

/-! ## 2. Elements -/

/-- The smallest parts of a pattern. -/
inductive Element
  /-- A character, and whether it is written as the two digits of a byte. -/
  | literal (c : Char) (asByte : Bool)
  /-- Any character but a line feed. -/
  | any
  /-- A shorthand class: digits, blanks, or parts of words; or all but them. -/
  | shorthand (negated : Bool)
  /-- The beginning or the end of a line or of the text. -/
  | edge
  /-- The beginning or the end of a word. -/
  | wordEdge
deriving DecidableEq

namespace Element

/-- Whether an element may stand by itself. -/
def isAllowed (m : Modes) : Element → Bool
  | .literal c asByte => if m.bytes then !asByte || c.toNat < 0x80 else !m.ignoreCase
  | .any => !m.bytes
  | .shorthand negated => m.bytes && !negated
  | .edge => true
  | .wordEdge => m.bytes

/-- Whether an element may stand between square brackets. -/
def isAllowedInClass (m : Modes) : Element → Bool
  | .literal c _ => if m.bytes then c.toNat < 0x80 else !m.ignoreCase
  | .shorthand negated => m.bytes && !negated
  | _ => false

end Element

/-! ## 3. Escapes -/

def hexValue? (c : Char) : Option Nat :=
  if c.isDigit then some (c.toNat - '0'.toNat)
  else if 'a'.toNat ≤ c.toNat && c.toNat ≤ 'f'.toNat then some (c.toNat - 'a'.toNat + 10)
  else if 'A'.toNat ≤ c.toNat && c.toNat ≤ 'F'.toNat then some (c.toNat - 'A'.toNat + 10)
  else none

/-- Read so many hexadecimal digits behind a value. -/
def hexDigits (m : Modes) : Nat → Nat → List Char → Option (Nat × List Char)
  | 0, value, cs => some (value, cs)
  | n + 1, value, cs =>
    match cs with
    | [] => none
    | c :: rest => (hexValue? c).bind fun digit => hexDigits m n (16 * value + digit) (m.skip rest)

/-- Read a character that is written as so many hexadecimal digits. -/
def hexLiteral (m : Modes) (digits : Nat) (cs : List Char) : Option (Element × List Char) :=
  (hexDigits m digits 0 (m.skip cs)).bind fun (value, rest) =>
    if value < 0xd800 || (0xe000 ≤ value && value ≤ 0x10ffff) then
      some (.literal (Char.ofNat value) (digits = 2), rest)
    else none

/-- Read what stands behind a backslash. Letters and digits have a meaning
or are refused; of the other characters of ASCII each means itself. -/
def escape (m : Modes) : List Char → Option (Element × List Char)
  | [] => none
  | 'x' :: rest => hexLiteral m 2 rest
  | 'u' :: rest => hexLiteral m 4 rest
  | 'U' :: rest => hexLiteral m 8 rest
  | 'a' :: rest => some (.literal '\x07' false, rest)
  | 'f' :: rest => some (.literal '\x0c' false, rest)
  | 't' :: rest => some (.literal '\t' false, rest)
  | 'n' :: rest => some (.literal '\n' false, rest)
  | 'r' :: rest => some (.literal '\r' false, rest)
  | 'v' :: rest => some (.literal '\x0b' false, rest)
  | c :: rest =>
    if c = 'd' || c = 's' || c = 'w' then some (.shorthand false, rest)
    else if c = 'D' || c = 'S' || c = 'W' then some (.shorthand true, rest)
    else if c = 'A' || c = 'z' then some (.edge, rest)
    else if c = 'b' || c = 'B' || c = '<' || c = '>' then some (.wordEdge, rest)
    else if c.isAlphanum || 0x80 ≤ c.toNat then none
    else some (.literal c false, rest)

end BlockConfig.Pattern
