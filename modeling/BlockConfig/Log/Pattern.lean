/-
BlockConfig.Log.Pattern — which texts are patterns for the value of a field.

A pattern is a row of elements, classes and groups; parts of it may be
repeated, and rows may stand as alternatives between bars. A group may have
a name of its own, or modes of its own; modes may also be switched for the
rest of the group around them. A pattern must not be nested deeper than
`maxDepth`: a group, a repetition, a row of several parts and a choice of
several rows are one level each, besides the levels of classes.

No value is matched here, for no event of this program is told inside a
span. What matters is that a filter with a malformed pattern is not read
(`isPattern`), and that braces cannot be closed inside of one, so that a
brace outside of brackets is a fault.
-/
import BlockConfig.Log.Pattern.Class

namespace BlockConfig.Pattern

/-! ## 1. Depth -/

/-- How deep a pattern may be nested. -/
def maxDepth : Nat := 250

/-- What has been read of a row: the number of its parts, the depth of the
deepest before the last, the depth of the last, and whether that can be
repeated. -/
structure Row where
  count : Nat := 0
  deepest : Nat := 0
  last : Nat := 0
  repeatable : Bool := false
deriving DecidableEq

namespace Row

/-- Add a part of some depth. -/
def push (r : Row) (depth : Nat) (repeatable : Bool) : Row :=
  { count := r.count + 1, deepest := max r.deepest r.last, last := depth, repeatable }

def depth (r : Row) : Nat := if r.count ≤ 1 then r.last else 1 + max r.deepest r.last

/-- The depth of a row and the rows before it, of which the deepest is
known if there are any. -/
def choice (r : Row) : Option Nat → Nat
  | none => r.depth
  | some before => 1 + max before r.depth

end Row

/-- A group that is being read: what stood before it, and the modes to
which its end returns. -/
structure Group where
  modes : Modes
  row : Row
  before? : Option Nat
deriving DecidableEq

/-! ## 2. The heads of groups -/

/-- Read the name of a group up to its closing angle, behind the part read
so far. -/
def groupName (name : List Char) : List Char → Option (List Char × List Char)
  | [] => none
  | c :: rest =>
    if c = '>' then if name = [] then none else some (name, rest)
    else if c = '_' || isLetter c
        || (name ≠ [] && (c = '.' || c = '[' || c = ']' || isNumeral c)) then
      groupName (name ++ [c]) rest
    else none

/-- Read the letters of modes up to a colon or a closing parenthesis,
behind those read so far. None stands twice, and a dash is not the last. -/
def modeLetters (letters : List Char) : List Char → Option (List Char × Char × List Char)
  | [] => none
  | c :: rest =>
    if c = ':' || c = ')' then
      if letters.getLast? = some '-' then none else some (letters, c, rest)
    else if "-ismURux".toList.contains c && !letters.contains c then
      modeLetters (letters ++ [c]) rest
    else none

/-! ## 3. Reading -/

/-- What the head of a group comes to. -/
inductive Head
  | opens (name? : Option (List Char)) (modes : Modes)
  /-- The modes change, and no group opens. -/
  | switches (modes : Modes)
deriving DecidableEq

/-- Read the head of a group behind its parenthesis. -/
def head (m : Modes) (cs : List Char) : Option (Head × List Char) :=
  match m.skip cs with
  | '?' :: 'P' :: '<' :: rest | '?' :: '<' :: rest =>
    (groupName [] rest).map fun (name, rest) => (.opens (some name) m, rest)
  | '?' :: rest =>
    match modeLetters [] rest with
    | some (letters, ':', rest) => some (.opens none (m.switch true letters), rest)
    | some (c :: letters, _, rest) => some (.switches (m.switch true (c :: letters)), rest)
    | _ => none
  | rest => some (.opens none m, rest)

/-- Whether the rest of a pattern is well formed, behind a row, the rows
before it and the groups around it; so many parts at most. -/
def parts : Nat → Modes → List (List Char) → Row → Option Nat → List Group → List Char → Bool
  | 0, _, _, _, _, _, _ => false
  | fuel + 1, m, names, row, before, outer, cs =>
    let element (e : Element) (rest : List Char) : Bool :=
      e.isAllowed m && parts fuel m names (row.push 0 true) before outer rest
    let again (rest : List Char) : Bool :=
      row.repeatable && parts fuel m names { row with last := row.last + 1 } before outer rest
    match m.skip cs with
    | [] => outer.isEmpty && row.choice before ≤ maxDepth
    | '(' :: rest =>
      match head m rest with
      | none => false
      | some (.switches modes, rest) => parts fuel modes names (row.push 0 false) before outer rest
      | some (.opens name? modes, rest) =>
        let names' := name?.toList ++ names
        !(name?.any names.contains) && parts fuel modes names' {} none (⟨m, row, before⟩ :: outer) rest
    | ')' :: rest =>
      match outer with
      | [] => false
      | g :: outer =>
        parts fuel g.modes names (g.row.push (1 + row.choice before) true) g.before? outer rest
    | '|' :: rest => parts fuel m names {} (some (max (before.getD 0) row.depth)) outer rest
    | '[' :: rest =>
      match bracketed m rest with
      | some (depth, rest) => parts fuel m names (row.push depth true) before outer rest
      | none => false
    | '?' :: '?' :: rest | '*' :: '?' :: rest | '+' :: '?' :: rest => again rest
    | '?' :: rest | '*' :: rest | '+' :: rest => again rest
    | '\x7b' :: _ => false
    | '\\' :: rest =>
      match escape m rest with
      | some (e, rest) => element e rest
      | none => false
    | '.' :: rest => element .any rest
    | '^' :: rest | '$' :: rest => element .edge rest
    | c :: rest => element (.literal c false) rest

/-! ## 4. Values -/

/-- Whether a text is a number in decimal notation, without its sign. -/
def isNumber (cs : List Char) : Bool :=
  let whole := cs.takeWhile Char.isDigit
  let rest := cs.dropWhile Char.isDigit
  let fraction := if rest.head? = some '.' then (rest.drop 1).takeWhile Char.isDigit else []
  let rest := if rest.head? = some '.' then (rest.drop 1).dropWhile Char.isDigit else rest
  let exponent :=
    match rest with
    | [] => true
    | e :: rest =>
      let digits := if rest.head? = some '+' || rest.head? = some '-' then rest.drop 1 else rest
      (e = 'e' || e = 'E') && digits ≠ [] && digits.all Char.isDigit
  (whole ≠ [] || fraction ≠ []) && exponent

/-- Whether a text is a number with a plus sign. It is a value then, though
no pattern begins with the sign. -/
def isPositive : List Char → Bool
  | '+' :: cs =>
    isNumber cs || ["inf", "infinity", "nan"].contains (String.ofList (cs.map Char.toLower))
  | _ => false

/-- Whether a text describes values. -/
def isPattern (cs : List Char) : Bool :=
  isPositive cs || parts (cs.length + 1) {} [] {} none [] cs

end BlockConfig.Pattern
