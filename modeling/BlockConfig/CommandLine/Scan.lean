/-
BlockConfig.CommandLine.Scan — reading a command line.

Words are read one after another. What was read of one level is a `Scan`:
the options gathered so far, and at most one thing that is still pending.
An option that waits for its value is pending, and so is a value or an
operand that was read but not looked into. `Scan.settle` looks into what
is pending; it happens

* before the next option that is known on this level,
* before an operand that has a place, and
* at the end of the level.

So of two faults the one found by looking into a pending value comes
first, unless the other is a word that has no place on the line at all: an
unknown option, a value attached to a switch, an operand too many.

The outer level ends where the inner one does. Therefore the inner level
is read to its end before the last option in front of the command word is
settled (`readOuter`).

Where an option stands on both levels, the inner occurrences replace the
outer ones (`Globals.over`).
-/
import BlockConfig.CommandLine.Invocation
import BlockConfig.CommandLine.Reply

namespace BlockConfig.CommandLine

/-! ## 1. What was gathered -/

/-- The options and the operand of one level. -/
structure Gathered where
  globals : Globals := {}
  default : Option String := none
  incoming : List (String × String) := []
  json : Bool := false
  operand : Option String := none
  shell : Option Shell := none
deriving DecidableEq

namespace Gathered

/-- Read the value of an option that is to be an assignment. -/
def assignment (o : Opt) (raw : String) : Except Reply (String × String) :=
  (Assignment.parse raw).mapError (.badAssignment o raw)

/-- Keep a value, unless the option has one already. -/
def once (o : Opt) (kept : Option String) (raw : String) : Except Reply (Option String) :=
  if kept.isSome then .error (.repeated o) else .ok (some raw)

def accept (g : Gathered) (o : Opt) (raw : String) : Except Reply Gathered :=
  match o with
  | .set => (assignment o raw).map fun p =>
      { g with globals.settings.values := g.globals.settings.values ++ [p] }
  | .lock => .ok { g with globals.settings.locks := g.globals.settings.locks ++ [raw] }
  | .block => (once o g.globals.settings.block raw).map fun b =>
      { g with globals.settings.block := b }
  | .default => (once o g.default raw).map fun d => { g with default := d }
  | .incoming => (assignment o raw).map fun p => { g with incoming := g.incoming ++ [p] }
  | _ => .error (.surplusValue raw o)

def topic : Level → Topic
  | .outer => .program
  | .inner v => .command v

/-- Take in an option without a value. Asking for help or for the version
ends the reading. -/
def raise (g : Gathered) (l : Level) (o : Opt) (long : Bool) : Except Reply Gathered :=
  match o with
  | .debug =>
    if g.globals.debug then .error (.repeated o) else .ok { g with globals.debug := true }
  | .quiet =>
    if g.globals.quiet then .error (.repeated o) else .ok { g with globals.quiet := true }
  | .json => if g.json then .error (.repeated o) else .ok { g with json := true }
  | .help => .error (.help (topic l) long)
  | .version => .error .version
  | _ => .error (.noValue o)

/-- Take in an operand. That of `completion` is to be a shell. -/
def take (g : Gathered) (l : Level) (raw : String) : Except Reply Gathered :=
  if l = .inner .completion then
    match Shell.ofName? raw with
    | some shell => .ok { g with operand := some raw, shell := some shell }
    | none => .error (.badShell raw)
  else .ok { g with operand := some raw }

end Gathered

/-! ## 2. Words -/

inductive Word
  /-- The word behind which there are operands only. -/
  | dashes
  | long (name : String) (value : Option String)
  | letters (cs : List Char)
  /-- Any other word; a lone dash is one. -/
  | plain
deriving DecidableEq

/-- Tell the kind of a word by its first characters. -/
def Word.ofChars : List Char → Word
  | ['-', '-'] => .dashes
  | '-' :: '-' :: rest =>
    match Assignment.cutAtEquals rest with
    | none => .long (String.ofList rest) none
    | some (name, value) => .long (String.ofList name) (some (String.ofList value))
  | '-' :: c :: rest => .letters (c :: rest)
  | _ => .plain

/-! ## 3. Reading one level -/

/-- What has been read and not yet been looked into. -/
inductive Pending
  | nothing
  /-- An option that waits for its value. -/
  | awaiting (o : Opt)
  | given (o : Opt) (raw : String)
  | operand (raw : String)
deriving DecidableEq

/-- How far the reading of one level has come. -/
structure Scan where
  gathered : Gathered := {}
  pending : Pending := .nothing
  /-- Whether the rest can be operands only. -/
  onlyOperands : Bool := false
deriving DecidableEq

namespace Scan

/-- Look into what is pending. -/
def settle (s : Scan) (l : Level) : Except Reply Gathered :=
  match s.pending with
  | .nothing => .ok s.gathered
  | .awaiting o => .error (.noValue o)
  | .given o raw => s.gathered.accept o raw
  | .operand raw => s.gathered.take l raw

/-- Settle, then go on from what was gathered. -/
def settled (s : Scan) (l : Level) (next : Gathered → Except Reply Scan) : Except Reply Scan :=
  match s.settle l with
  | .error r => .error r
  | .ok g => next g

/-- An option with its value attached. -/
def attached (s : Scan) (l : Level) (o : Opt) (raw : String) : Except Reply Scan :=
  s.settled l fun g => (g.accept o raw).map fun g => { s with gathered := g, pending := .nothing }

/-- An option whose value is to be the next word. -/
def await (s : Scan) (l : Level) (o : Opt) : Except Reply Scan :=
  s.settled l fun g => .ok { s with gathered := g, pending := .awaiting o }

def switch (s : Scan) (l : Level) (o : Opt) (long : Bool) : Except Reply Scan :=
  s.settled l fun g => (g.raise l o long).map fun g => { s with gathered := g, pending := .nothing }

def long (s : Scan) (l : Level) (name : String) (value : Option String) : Except Reply Scan :=
  match l.named? name, value with
  | none, _ => .error (.unknownArgument ("--" ++ name))
  | some o, none => if o.takesValue then s.await l o else s.switch l o true
  | some o, some raw =>
    if o.takesValue then s.attached l o raw else .error (.surplusValue raw o)

/-- What is attached to a letter: all that follows, without an equals sign
in front. -/
def letterValue : List Char → String
  | '=' :: rest => String.ofList rest
  | rest => String.ofList rest

/-- Letters of short options. The first one that takes a value takes the
rest of the word, or the next word if there is no rest. -/
def letters (l : Level) : Scan → List Char → Except Reply Scan
  | s, [] => .ok s
  | s, c :: rest =>
    match l.lettered? c with
    | none => .error (.unknownArgument ("-" ++ String.singleton c))
    | some o =>
      if o.takesValue then
        if rest.isEmpty then s.await l o else s.attached l o (letterValue rest)
      else
        match s.switch l o false with
        | .error r => .error r
        | .ok next => letters l next rest

def operandTaken (s : Scan) : Bool :=
  s.gathered.operand.isSome || (match s.pending with | .operand _ => true | _ => false)

/-- A word in the place of an operand. In front of the command word there is
no such place: a word there is to be a command word, and one that is comes
too late behind `--`. -/
def operand (s : Scan) (l : Level) (raw : String) : Except Reply Scan :=
  if l.hasOperand && !s.operandTaken then
    s.settled l fun g => .ok { s with gathered := g, pending := .operand raw }
  else if l = .outer && !isCommandWord raw then .error (.unknownCommand raw)
  else .error (.unknownArgument raw)

/-- A word that is no option: the value that is waited for, or an
operand. -/
def plain (s : Scan) (l : Level) (raw : String) : Except Reply Scan :=
  match s.pending with
  | .awaiting o => .ok { s with pending := .given o raw }
  | _ => s.operand l raw

def step (l : Level) (s : Scan) (raw : String) : Except Reply Scan :=
  if s.onlyOperands then s.operand l raw
  else
    match Word.ofChars raw.toList with
    | .dashes => .ok { s with onlyOperands := true }
    | .long name value => s.long l name value
    | .letters cs => letters l s cs
    | .plain => s.plain l raw

/-- Whether a command word would be read as such here: not behind `--`, and
not where a value is waited for. -/
def mayTurn (s : Scan) : Bool :=
  !s.onlyOperands && (match s.pending with | .awaiting _ => false | _ => true)

end Scan

/-! ## 4. Reading both levels -/

/-- The occurrences on the inner level replace those on the outer one. -/
def Globals.over (inner outer : Globals) : Globals :=
  { settings :=
      { values := if inner.settings.values.isEmpty then outer.settings.values
          else inner.settings.values
        locks := if inner.settings.locks.isEmpty then outer.settings.locks
          else inner.settings.locks
        block := inner.settings.block.orElse fun _ => outer.settings.block }
    debug := inner.debug || outer.debug
    quiet := inner.quiet || outer.quiet }

def Gathered.withOperand (g : Gathered) (f : String → Command) : Except Reply Command :=
  match g.operand with
  | some operand => .ok (f operand)
  | none => .error .noOperand

/-- The command that was gathered behind a command word. -/
def Gathered.command (g : Gathered) : Verb → Except Reply Command
  | .get => g.withOperand fun key => .get key g.default
  | .has => g.withOperand .has
  | .keys => .ok .keys
  | .dump => .ok (.dump g.json)
  | .subblock => g.withOperand fun name => .subblock name g.json
  | .unset => g.withOperand fun key => .unset key g.json
  | .merge => .ok (.merge g.incoming g.json)
  | .completion =>
    match g.shell with
    | some shell => .ok (.completion shell)
    | none => .error .noOperand

/-- Read the words of one level from some point on. -/
def readLevel (l : Level) : Scan → List String → Except Reply Scan
  | s, [] => .ok s
  | s, raw :: rest =>
    match s.step l raw with
    | .error r => .error r
    | .ok next => readLevel l next rest

/-- Read what stands behind a command word. -/
def readInner (v : Verb) (words : List String) : Except Reply (Globals × Command) := do
  let s ← readLevel (.inner v) {} words
  let g ← s.settle (.inner v)
  let command ← g.command v
  return (g.globals, command)

/-- What is said to the words behind the help word: they name a topic. -/
def helpOn : List String → Reply
  | [] => .help .program true
  | word :: rest =>
    match Verb.ofName? word, rest with
    | some v, [] => .help (.command v) true
    | some _, next :: _ => .unknownCommand next
    | none, _ =>
      if word = helpWord then
        match rest with
        | [] => .help .help true
        | next :: _ => .unknownCommand next
      else .unknownCommand word

/-- What a word in front of the command does: it may be the command word,
or ask for help, or belong to the outer level. -/
inductive Turn
  | command (v : Verb)
  | help
  | stay
deriving DecidableEq

/-- Tell what a word in front of the command does. -/
def Scan.turn (s : Scan) (raw : String) : Turn :=
  if s.mayTurn then
    match Verb.ofName? raw with
    | some v => .command v
    | none => if raw = helpWord then .help else .stay
  else .stay

/-- Read a command line from some point in front of the command word on. -/
def readOuter : Scan → List String → Except Reply Invocation
  | s, [] =>
    match s.settle .outer with
    | .error r => .error r
    | .ok g => .error (if g = {} then .nothingAsked else .noCommand)
  | s, raw :: rest =>
    match s.turn raw with
    | .help => .error (helpOn rest)
    | .command v => do
      let (inner, command) ← readInner v rest
      let outer ← s.settle .outer
      return { globals := inner.over outer.globals, command }
    | .stay =>
      match s.step .outer raw with
      | .error r => .error r
      | .ok next => readOuter next rest

def Invocation.ofWords (words : List String) : Except Reply Invocation := readOuter {} words

end BlockConfig.CommandLine
