/-
BlockConfig.CommandLine.Invocation — a command line that is understood.

`Invocation.words` writes an invocation as a command line: every value
attached to its option, and the operand behind `--`, so that no text can
be taken for anything else. Reading command lines is the matter of
`BlockConfig.CommandLine.Scan`.
-/
import BlockConfig.Assignment
import BlockConfig.Command
import BlockConfig.CommandLine.Grammar
import BlockConfig.Settings

namespace BlockConfig.CommandLine

/-- What holds for every command. -/
structure Globals where
  settings : Settings := {}
  debug : Bool := false
  quiet : Bool := false
deriving DecidableEq

/-- What a command line asks for. -/
structure Invocation where
  globals : Globals := {}
  command : Command
deriving DecidableEq

/-- The verbosity asked for. -/
def Globals.verbosity (g : Globals) : Verbosity := .ofSwitches g.quiet g.debug

/-! ## Writing -/

/-- A value attached to its option. -/
def Opt.attach (o : Opt) (value : String) : String := "--" ++ o.name ++ "=" ++ value

/-- A switch, if it is on. -/
def Opt.switch (o : Opt) (on : Bool) : List String := if on then ["--" ++ o.name] else []

def Globals.words (g : Globals) : List String :=
  g.settings.values.map (fun p => Opt.set.attach (Assignment.write p))
    ++ g.settings.locks.map Opt.lock.attach
    ++ g.settings.block.toList.map Opt.block.attach
    ++ Opt.debug.switch g.debug
    ++ Opt.quiet.switch g.quiet

def verbOf : Command → Verb
  | .get .. => .get
  | .has _ => .has
  | .keys => .keys
  | .dump _ => .dump
  | .subblock .. => .subblock
  | .unset .. => .unset
  | .merge .. => .merge
  | .completion _ => .completion

def optionWords : Command → List String
  | .get _ default => default.toList.map Opt.default.attach
  | .dump json | .subblock _ json | .unset _ json => Opt.json.switch json
  | .merge values json =>
    values.map (fun p => Opt.incoming.attach (Assignment.write p)) ++ Opt.json.switch json
  | .has _ | .keys | .completion _ => []

/-- The operand of a command, behind the word that ends the options. -/
def operandWords : Command → List String
  | .get key _ | .has key | .unset key _ => ["--", key]
  | .subblock name _ => ["--", name]
  | .completion shell => ["--", shell.name]
  | .keys | .dump _ | .merge .. => []

/-- An invocation as a command line, with the common options in front of
the command word. -/
def Invocation.words (i : Invocation) : List String :=
  i.globals.words ++ (verbOf i.command).name :: (optionWords i.command ++ operandWords i.command)

/-- An invocation as a command line, with the common options right behind
the command word. -/
def Invocation.wordsInside (i : Invocation) : List String :=
  (verbOf i.command).name ::
    (i.globals.words ++ optionWords i.command ++ operandWords i.command)

end BlockConfig.CommandLine
