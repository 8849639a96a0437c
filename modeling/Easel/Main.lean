import Easel.Console.Program

open Easel

namespace Easel.Console

/-- Reads lines until one of them quits or the input ends. -/
partial def converse (input output : IO.FS.Stream) (s : Session) : IO Unit := do
  output.putStr Session.promptText
  output.flush
  let line ← input.getLine
  if line.isEmpty then
    output.putStrLn ""
  else
    let (lines, s) := (Session.step line).run s
    output.putStr (Session.printed lines)
    if s.running then converse input output s

end Easel.Console

/-- The command line: a session when the arguments ask for one, and else what they ask for at once. -/
def main (arguments : List String) : IO UInt32 := do
  let output ← IO.getStdout
  match Console.Arguments.parse arguments |>.map Console.planOf with
  | .ok (.session mock url) =>
    output.putStrLn Console.Session.greeting
    Console.converse (← IO.getStdin) output (({} : Console.Surroundings).session mock url)
    return 0
  | _ =>
    match (Console.run {} arguments []).1 with
    | .ok ending =>
      output.putStr ending.text
      return (ending.code.getD 0).toUInt32
    | .error fault =>
      output.putStrLn s!"Error: {fault.message}"
      return 1
