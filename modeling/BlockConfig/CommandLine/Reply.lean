/-
BlockConfig.CommandLine.Reply — what the program says when a command line
does not come to a command.

Either help or the version was asked for, which is answered on the
standard output and is no error, or the line is not understood, which is
answered on the standard error. `Reply.render` holds the wording.

Words of the user are part of a complaint. Only what is visible of them is
shown, so that they cannot steer the terminal of the reader. Most of them
are set off from the wording around them and are read by themselves; the
remark on a malformed assignment is not set off, and is read together with
the beginning of the hint that follows it. What is visible depends on the
reader: `Reply.text` is a reply as a message, `Reply.written` as it is
written to a stream. Words may also hold line ends; `firstLine` is what
comes before the first one.
-/
import BlockConfig.Assignment
import BlockConfig.CommandLine.Grammar
import BlockConfig.Text.Visible

namespace BlockConfig.CommandLine

inductive Topic
  | program
  | command (v : Verb)
  | help
deriving DecidableEq

/-- What is said in place of carrying out a command. -/
inductive Reply
  /-- Help was asked for; the details too, if `long`. -/
  | help (topic : Topic) (long : Bool)
  | version
  | nothingAsked
  | noCommand
  /-- An option that is not known here, or an operand too many. -/
  | unknownArgument (shown : String)
  /-- A word in the place of the command that is none. -/
  | unknownCommand (word : String)
  | noOperand
  | noValue (o : Opt)
  /-- The operand is to be a shell and is none. -/
  | badShell (word : String)
  /-- A value is attached to an option that takes none. -/
  | surplusValue (value : String) (o : Opt)
  /-- An option stands twice that may stand once. -/
  | repeated (o : Opt)
  /-- The value of an option is to be an assignment and is none. -/
  | badAssignment (o : Opt) (raw : String) (e : AssignmentError)
deriving DecidableEq

def description : String :=
  "Hierarchical string-valued configuration store for pipeline components"

/-- The name of the program and its version. -/
def versionLine : String := programName ++ " 0.1.0"

def Topic.line (long : Bool) : Topic → String
  | .program => description
  | .command v => if long then v.details else v.summary
  | .help => "Print this message or the help of the given subcommand(s)"

namespace Reply

/-- What is wrong, for the replies that tell of an error. The argument
tells what is visible of a word. -/
def complaint (visible : String → String) : Reply → String
  | .noCommand => s!"'{programName}' requires a subcommand but one was not provided"
  | .unknownArgument shown => s!"unexpected argument '{visible shown}' found"
  | .unknownCommand word => s!"unrecognized subcommand '{visible word}'"
  | .noOperand => "the following required arguments were not provided:"
  | .noValue o => s!"a value is required for '{o.shown}' but none was supplied"
  | .badShell word =>
    if word = "" then "a value is required for '<SHELL>' but none was supplied"
    else s!"invalid value '{visible word}' for '<SHELL>'"
  | .surplusValue value o =>
    s!"unexpected value '{visible value}' for '{o.shown}' found; no more were expected"
  | .repeated o => s!"the argument '{o.shown}' cannot be used multiple times"
  | .badAssignment o raw _ => s!"invalid value '{visible raw}' for '{o.shown}'"
  | .help .. | .version | .nothingAsked => ""

/-- What is added to a complaint about an assignment. -/
def remark : Reply → String
  | .badAssignment _ _ e => ": " ++ e.message
  | _ => ""

/-- What stands between a complaint and the word that the hint is about. -/
def hintLead : String := "\n\nFor more information, try '"

def render (visible : String → String) : Reply → String
  | .help topic long => topic.line long
  | .version => versionLine
  | .nothingAsked => description
  | r => "error: " ++ r.complaint visible ++ visible (r.remark ++ hintLead) ++ "--help'."

def text (r : Reply) : String := r.render Visible.ofText

/-- A reply as it is written to a stream. -/
def written (r : Reply) : String := r.render Visible.onStream

/-- Whether a reply gives what was asked for. -/
def isAnswer : Reply → Bool
  | .help .. | .version => true
  | _ => false

def exitCode (r : Reply) : Nat := if r.isAnswer then 0 else 2

end Reply

/-- What comes before the first line end, which is a line feed with or
without a carriage return in front. -/
def upToLineEnd : List Char → List Char
  | [] => []
  | '\n' :: _ => []
  | '\r' :: '\n' :: _ => []
  | c :: rest => c :: upToLineEnd rest

def firstLine (text : String) : String := String.ofList (upToLineEnd text.toList)

end BlockConfig.CommandLine
