/-
BlockConfig.CommandLine.Grammar — the words, options and operands of a
command line.

A command line has two levels. On the outer one stand options that hold
for every command; then comes a command word; and after it, on the inner
level, the same options again, those of the command, and its operand.

Everything the reader of a command line asks of the grammar is a function
of this table: which options a level has (`Level.options`), how an option
is spelled (`Opt.name`, `Opt.letter?`), whether it takes a value, and
whether a command has an operand (`Verb.operand?`).
-/

namespace BlockConfig

/-- The name under which the program is called. -/
def programName : String := "pipeconf"

namespace CommandLine

/-! ## 1. Command words -/

inductive Verb
  | get
  | has
  | keys
  | dump
  | subblock
  | unset
  | merge
  | completion
deriving DecidableEq

namespace Verb

/-- All command words, in the order in which they are listed. -/
def all : List Verb := [.get, .has, .keys, .dump, .subblock, .unset, .merge, .completion]

def name : Verb → String
  | .get => "get"
  | .has => "has"
  | .keys => "keys"
  | .dump => "dump"
  | .subblock => "subblock"
  | .unset => "unset"
  | .merge => "merge"
  | .completion => "completion"

def ofName? (word : String) : Option Verb := all.find? fun v => v.name = word

/-- What a command does, in one line. -/
def summary : Verb → String
  | .get => "Print the value of a key"
  | .has => "Print whether a key has a value"
  | .keys => "List keys at the current scope"
  | .dump => "Print every key and value at the current scope"
  | .subblock => "Print an independent copy of one block"
  | .unset => "Remove a key, then print the remaining entries"
  | .merge => "Merge a second set of values over the store, then print the result"
  | .completion => "Generate shell completion scripts"

/-- The first line of the detailed help on a command. -/
def details : Verb → String
  | .get => "Print the value stored at a key."
  | .subblock => "Print an independent copy of everything under one block."
  | .merge => "Merge a second set of values over the store."
  | v => v.summary

/-- What the operand of a command stands for, if it has one. -/
def operand? : Verb → Option String
  | .get | .has | .unset => some "KEY"
  | .subblock => some "NAME"
  | .completion => some "SHELL"
  | .keys | .dump | .merge => none

theorem ofName?_name (v : Verb) : ofName? v.name = some v := by
  cases v <;> decide

end Verb

def helpWord : String := "help"

/-- Whether a word may stand in the place of the command word. -/
def isCommandWord (word : String) : Bool := (Verb.ofName? word).isSome || word = helpWord

/-! ## 2. Options -/

inductive Opt
  /-- Set a value. May be repeated. -/
  | set
  /-- Make a key read-only. May be repeated. -/
  | lock
  | block
  | debug
  | quiet
  /-- The value to print for a key without one. -/
  | default
  /-- A value to be merged. May be repeated. -/
  | incoming
  | json
  | help
  | version
deriving DecidableEq

namespace Opt

/-- The long spelling, without its dashes. -/
def name : Opt → String
  | .set => "set"
  | .lock => "lock"
  | .block => "block"
  | .debug => "debug"
  | .quiet => "quiet"
  | .default => "default"
  | .incoming => "with"
  | .json => "json"
  | .help => "help"
  | .version => "version"

/-- The letter of the short spelling, if there is one. -/
def letter? : Opt → Option Char
  | .set => some 's'
  | .quiet => some 'q'
  | .help => some 'h'
  | .version => some 'V'
  | _ => none

/-- What the value of an option stands for, if it takes one. -/
def value? : Opt → Option String
  | .set | .incoming => some "KEY=VALUE"
  | .lock => some "KEY"
  | .block => some "NAME"
  | .default => some "DEFAULT"
  | _ => none

def takesValue (o : Opt) : Bool := o.value?.isSome

/-- An option as messages show it. -/
def shown (o : Opt) : String :=
  match o.value? with
  | some value => "--" ++ o.name ++ " <" ++ value ++ ">"
  | none => "--" ++ o.name

end Opt

/-! ## 3. Levels -/

/-- Where on a command line one stands. -/
inductive Level
  | outer
  | inner (v : Verb)
deriving DecidableEq

/-- The options of a command, besides those that hold for every command. -/
def Verb.options : Verb → List Opt
  | .get => [.default]
  | .dump | .subblock | .unset => [.json]
  | .merge => [.incoming, .json]
  | .has | .keys | .completion => []

namespace Level

/-- The options that may stand on a level. -/
def options : Level → List Opt
  | .outer => [.set, .lock, .block, .debug, .quiet, .help, .version]
  | .inner v => [.set, .lock, .block, .debug, .quiet, .help] ++ v.options

/-- The option with a long spelling. Nothing may be left off. -/
def named? (l : Level) (name : String) : Option Opt :=
  l.options.find? fun o => o.name = name

def lettered? (l : Level) (c : Char) : Option Opt :=
  l.options.find? fun o => o.letter? = some c

def hasOperand : Level → Bool
  | .outer => false
  | .inner v => v.operand?.isSome

end Level

end CommandLine

end BlockConfig
