/-
BlockConfig.Log.Directive — which events one part of a log filter speaks
of, and down to which depth it lets them through.

A directive is written as a depth alone, which holds for every target, as
a target alone, which lets all of its events through, or as `TARGET=DEPTH`.
A depth is a word or a digit. Behind the target a directive may narrow its
subject between square brackets: to what is said inside a named span of
work, or, with braces, to the events with a field. A field may be given a
pattern for its value, which spans alone are asked for.

Two directives may speak of one event. `isNarrowerThan` says which of them
is to decide: the one with the longer target, and if the targets are the
same, the one that asks for a field.
-/
import BlockConfig.Event
import BlockConfig.Log.Pattern
import BlockConfig.Table

namespace BlockConfig

/-- One part of a log filter. -/
structure Directive where
  /-- The text that the target of an event must begin with. -/
  target : String := ""
  /-- A field that an event must have. -/
  field? : Option String := none
  /-- Whether it is about the inside of spans only. No event of this
  program is told inside a span. -/
  insideSpan : Bool := false
  depth : Nat := Severity.trace.depth
deriving DecidableEq

namespace Directive

/-! ## 1. Depths -/

/-- The number that digits stand for, if it is a depth. -/
def depthOfDigits? (digits : List Char) : Option Nat :=
  if digits ≠ [] && digits.all Char.isDigit then
    let n := digits.foldl (fun n c => 10 * n + (c.toNat - '0'.toNat)) 0
    if n ≤ Severity.trace.depth then some n else none
  else none

/-- The depth that a word stands for, in capitals or not. -/
def depthOfWord? (word : List Char) : Option Nat :=
  match String.ofList (word.map Char.toLower) with
  | "off" => some 0
  | "error" => some Severity.error.depth
  | "warn" => some Severity.warn.depth
  | "info" => some Severity.info.depth
  | "debug" => some Severity.debug.depth
  | "trace" => some Severity.trace.depth
  | _ => none

/-- Read a depth. A plus sign may stand in front of digits. -/
def depth? (text : List Char) : Option Nat :=
  match text with
  | '+' :: digits => depthOfDigits? digits
  | _ => (depthOfDigits? text).orElse fun _ => depthOfWord? text

/-! ## 2. Reading -/

/-- What is left of a text behind so many bytes, if a character begins
there. -/
def dropBytes : Nat → List Char → Option (List Char)
  | 0, cs => some cs
  | _ + 1, [] => none
  | n + 1, c :: rest => if c.utf8Size ≤ n + 1 then dropBytes (n + 1 - c.utf8Size) rest else none

/-- So many bytes of a text, if a character ends there. -/
def takeBytes : Nat → List Char → Option (List Char)
  | 0, _ => some []
  | _ + 1, [] => none
  | n + 1, c :: rest =>
    if c.utf8Size ≤ n + 1 then (takeBytes (n + 1 - c.utf8Size) rest).map (c :: ·) else none

/-- What is taken from a text and what is left of it are the text. -/
theorem append_eq_of_takeBytes {n : Nat} {cs taken : List Char} (h : takeBytes n cs = some taken) :
    ∃ rest, dropBytes n cs = some rest ∧ taken ++ rest = cs := by
  fun_induction takeBytes n cs generalizing taken with
  | case1 cs => exact ⟨cs, by simp [dropBytes], by simp_all⟩
  | case2 => simp at h
  | case3 n c rest hc ih =>
    obtain ⟨taken, htaken, rfl⟩ := Option.map_eq_some_iff.1 h
    obtain ⟨left, hleft, rfl⟩ := ih htaken
    exact ⟨left, by simp [dropBytes, hc, hleft], rfl⟩
  | case4 => simp at h

/-- The part of a text between two positions. -/
def slice (text : List Char) (start stop : Nat) : Option (List Char) :=
  (dropBytes start text).bind (takeBytes (stop - start))

/-- Which part of a directive is being read, and where that part began. -/
inductive Stage
  /-- The target, or a depth that stands alone. -/
  | target
  | span (start : Nat)
  | field (start : Nat)
  | fieldEnd
  | spanEnd
  | depth (start : Nat)
deriving DecidableEq

/-- Whether a directive may begin with a character. -/
def mayBegin (c : Char) : Bool :=
  c = '[' || c = '-' || c = ':' || c = '_' || isLetter c || isNumeral c

/-- Narrow a directive to a field. What stands behind an equals sign is a
pattern for its value, and up to a second one. Values are known of spans
only. -/
def withField (d : Directive) (field : List Char) : Option Directive :=
  let name := String.ofList (field.takeWhile (· ≠ '='))
  match field, field.dropWhile (· ≠ '=') with
  | [], _ => none
  | _, [] => some { d with field? := some name }
  | _, _ :: value =>
    if Pattern.isPattern (value.takeWhile (· ≠ '=')) then
      some { d with field? := some name, insideSpan := true }
    else none

/-- Read one character of a directive, which stands at a position. -/
def readChar (text : List Char) (d : Directive) (stage : Stage) (position : Nat) (c : Char) :
    Option (Directive × Stage) :=
  match stage, c with
  | .target, '=' =>
    (slice text 0 position).map fun target =>
      ({ d with target := String.ofList target }, .depth (position + 1))
  | .target, '[' =>
    (slice text 0 position).map fun target =>
      ({ d with target := String.ofList target }, .span (position + 1))
  | .span start, ']' =>
    (slice text start position).map fun _ => ({ d with insideSpan := true }, .spanEnd)
  | .span start, '\x7b' =>
    (slice text start position).map fun name =>
      ({ d with insideSpan := !name.isEmpty }, .field (position + 1))
  | .field start, '\x7d' =>
    ((slice text start position).bind d.withField).map fun d => (d, .fieldEnd)
  | .fieldEnd, ']' => some (d, .spanEnd)
  | .spanEnd, '=' => some (d, .depth (position + 1))
  | .fieldEnd, _ | .spanEnd, _ => none
  | _, _ => some (d, stage)

def finish (text : List Char) (d : Directive) : Stage → Option Directive
  | .target =>
    match depth? text with
    | some depth => some { depth }
    | none => some { target := String.ofList text }
  | .depth start =>
    match dropBytes start text with
    | none => none
    | some [] => some d
    | some word => (depth? word).map fun depth => { d with depth }
  | .spanEnd => some d
  | .span _ | .field _ | .fieldEnd => none

/-- Read the rest of a directive from a position on. -/
def readChars (text : List Char) (d : Directive) (stage : Stage) (position : Nat) :
    List Char → Option Directive
  | [] => finish text d stage
  | c :: rest =>
    match readChar text d stage position c with
    | none => none
    | some (d, stage) => readChars text d stage (position + c.utf8Size) rest

/-- A text without the blanks at its beginning and at its end. -/
def trim (cs : List Char) : List Char :=
  ((cs.dropWhile isBlank).reverse.dropWhile isBlank).reverse

/-- Read a directive. Blanks at its ends are not read, so that no part
begins or ends with them; but the parts are cut from the text as it stands,
at the positions found. A blank in front therefore shifts every part, and a
blank at the end belongs to the last one. -/
def parse? (text : String) : Option Directive :=
  match trim text.toList with
  | [] => none
  | c :: rest => if mayBegin c then readChars text.toList {} .target 0 (c :: rest) else none

/-! ## 3. Use -/

/-- Whether a directive speaks of an event. -/
def concerns (d : Directive) (e : Event) : Bool :=
  !d.insideSpan && d.target.toList.isPrefixOf e.target.toList
    && d.field?.all fun field => field = "message" || e.fields.any (·.1 = field)

/-- Whether the subject of a directive is narrower than that of another
one that speaks of the same event. -/
def isNarrowerThan (d other : Directive) : Bool :=
  other.target.length < d.target.length
    || (other.target.length = d.target.length
      && match d.field?, other.field? with
        | some _, none => true
        | some a, some b => comesBefore b a
        | none, _ => false)

end Directive

end BlockConfig
