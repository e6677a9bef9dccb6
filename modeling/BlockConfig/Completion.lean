/-
BlockConfig.Completion — scripts that complete command lines in a shell.

The scripts offer the command words after the program's name. They are
written from the table of command words, so a command that is added there
is offered in every shell.

What the scripts say is a choice of the program and of nothing below it: a
command is carried out with whatever scripts it is given (`Command.run`).
-/
import BlockConfig.CommandLine.Grammar
import BlockConfig.Shell

namespace BlockConfig.Completion

open CommandLine

/-- The words to offer, each with a line about it. -/
def offers : List (String × String) :=
  Verb.all.map (fun v => (v.name, v.summary)) ++ [(helpWord, "Print help")]

/-- The words to offer, between blanks. -/
def words : String := String.intercalate " " (offers.map Prod.fst)

/-- The completion script of a shell. -/
def script : Shell → String
  | .bash => "complete -W \"" ++ words ++ "\" " ++ programName ++ "\n"
  | .zsh =>
    "\x23compdef " ++ programName ++ "\n_arguments '1:command:(" ++ words ++ ")'\n"
  | .fish =>
    String.join (offers.map fun p =>
      "complete -c " ++ programName ++ " -n __fish_use_subcommand -f -a " ++ p.1
        ++ " -d '" ++ p.2 ++ "'\n")
  | .powerShell =>
    "Register-ArgumentCompleter -Native -CommandName '" ++ programName
      ++ "' -ScriptBlock \x7b\n    param($word)\n    '" ++ words
      ++ "'.Split(' ') | Where-Object \x7b $_ -like \"$word*\" \x7d\n\x7d\n"

end BlockConfig.Completion
