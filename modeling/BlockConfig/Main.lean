/-
BlockConfig.Main — the program.

Log entries and notes go to the standard error, results to the standard
output.
-/
import BlockConfig.Completion
import BlockConfig.Program

open BlockConfig

/-- Answer the command line and end with its exit code. -/
def main (words : List String) : IO UInt32 := do
  match respond Completion.script words (← IO.getEnv logVariable) with
  | .error reply =>
    let stream ← if reply.isAnswer then IO.getStdout else IO.getStderr
    stream.putStrLn reply.written
    return UInt32.ofNat reply.exitCode
  | .ok ending =>
    for entry in ending.entries do
      IO.eprintln entry
    IO.print ending.stdout
    IO.eprint ending.notes
    return UInt32.ofNat ending.exitCode
