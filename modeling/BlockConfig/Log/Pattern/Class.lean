/-
BlockConfig.Log.Pattern.Class — the part of a pattern between square
brackets.

A class is a row of elements, ranges, named classes and further classes,
and it may be an intersection or a difference of such rows. What is read of
it is whether it is well formed, and how deep it is nested: the row counts
as a level of its own when it has several parts, and so does each operation.
-/
import BlockConfig.Log.Pattern.Element

namespace BlockConfig.Pattern

/-- What has been read of a class: the depth of the operations so far, and
of the row behind them the number of parts and the depth of the deepest. -/
structure Bracket where
  before? : Option Nat := none
  count : Nat := 0
  deepest : Nat := 0
deriving DecidableEq

namespace Bracket

/-- Add a part of some depth to the row. -/
def push (b : Bracket) (depth : Nat) : Bracket :=
  { b with count := b.count + 1, deepest := max b.deepest depth }

/-- The depth of what stands between the brackets. -/
def depth (b : Bracket) : Nat :=
  let row := if b.count ≤ 1 then b.deepest else b.deepest + 1
  match b.before? with
  | none => row
  | some before => 1 + max before row

/-- Go on behind an operation. -/
def operation (b : Bracket) : Bracket := { before? := some b.depth }

end Bracket

def classNames : List String :=
  ["alnum", "alpha", "ascii", "blank", "cntrl", "digit", "graph", "lower", "print", "punct",
   "space", "upper", "word", "xdigit"]

/-- Read a named class behind its bracket, and whether it is negated. -/
def namedClass? (cs : List Char) : Option (Bool × List Char) :=
  match cs with
  | ':' :: rest =>
    let negated := rest.head? = some '^'
    let rest := if negated then rest.drop 1 else rest
    match rest.dropWhile (· ≠ ':') with
    | ':' :: ']' :: behind =>
      if classNames.contains (String.ofList (rest.takeWhile (· ≠ ':'))) then
        some (negated, behind)
      else none
    | _ => none
  | _ => none

/-- Read up to so many dashes at the beginning of a class; each means
itself. -/
def leadingDashes (m : Modes) : Nat → Bracket → List Char → Bracket × List Char
  | n + 1, b, '-' :: rest => leadingDashes m n (b.push 0) (m.skip rest)
  | _, b, cs => (b, cs)

/-- Read the beginning of a class behind its bracket. A closing bracket
means itself where nothing stands before it. -/
def openClass (m : Modes) (cs : List Char) : Option (Bracket × List Char) :=
  let cs := m.skip cs
  let negated := cs.head? = some '^'
  let cs := if negated then m.skip (cs.drop 1) else cs
  let (b, cs) := leadingDashes m cs.length {} cs
  let (b, cs) :=
    match b.count, cs with
    | 0, ']' :: rest => (b.push 0, m.skip rest)
    | _, cs => (b, cs)
  if negated && m.bytes then none
  else if b.count ≠ 0 && !(Element.literal '-' false).isAllowedInClass m then none
  else some (b, cs)

/-- Read an element of a class. -/
def classElement (m : Modes) : List Char → Option (Element × List Char)
  | [] => none
  | '\\' :: rest => escape m rest
  | c :: rest => some (.literal c false, rest)

/-- The character that decides whether a dash is the middle of a range.
Where blanks are left out it is looked for behind them, and behind one
number sign. -/
def behindDash (m : Modes) (cs : List Char) : Option Char :=
  if m.spaced then
    match cs.dropWhile isBlank with
    | '#' :: rest => (rest.find? (!isBlank ·)).orElse fun _ => cs.head?
    | [] => cs.head?
    | c :: _ => some c
  else cs.head?

/-- Read an element of a class or a range, which goes from one literal to
one that is not before it. -/
def classPart (m : Modes) (cs : List Char) : Option (List Char) :=
  match classElement m cs with
  | none => none
  | some (first, rest) =>
    if !first.isAllowedInClass m then none
    else
      match m.skip rest with
      | '-' :: behind =>
        if behindDash m behind = some ']' || behindDash m behind = some '-' then some ('-' :: behind)
        else
          match first, classElement m (m.skip behind) with
          | .literal a _, some (.literal b asByte, rest) =>
            if (Element.literal b asByte).isAllowedInClass m && a.toNat ≤ b.toNat then some rest
            else none
          | _, _ => none
      | rest => some rest

/-- Read a class behind its opening, with the classes around it; so many
parts at most. The result is the depth of the outermost class. -/
def classParts (m : Modes) : Nat → Bracket → List Bracket → List Char → Option (Nat × List Char)
  | 0, _, _, _ => none
  | fuel + 1, b, outer, cs =>
    match m.skip cs with
    | [] => none
    | ']' :: rest =>
      match outer with
      | [] => some (1 + b.depth, rest)
      | around :: outer => classParts m fuel (around.push (1 + b.depth)) outer rest
    | '[' :: rest =>
      match namedClass? rest with
      | some (negated, rest) =>
        if (if m.bytes then negated else m.ignoreCase) then none
        else classParts m fuel (b.push 0) outer rest
      | none =>
        match openClass m rest with
        | some (inner, rest) => classParts m fuel inner (b :: outer) rest
        | none => none
    | '&' :: '&' :: rest | '-' :: '-' :: rest | '~' :: '~' :: rest =>
      classParts m fuel b.operation outer rest
    | cs =>
      match classPart m cs with
      | some rest => classParts m fuel (b.push 0) outer rest
      | none => none

/-- Read a class behind its bracket. -/
def bracketed (m : Modes) (cs : List Char) : Option (Nat × List Char) :=
  (openClass m cs).bind fun (b, rest) => classParts m (rest.length + 1) b [] rest

end BlockConfig.Pattern
