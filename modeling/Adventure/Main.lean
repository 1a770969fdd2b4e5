import Adventure.Console

/-! Plays a game of the shelf on the terminal, the lighthouse when no game is named. -/

open Adventure Adventure.Console

/-- The prompt shown before each typed line. -/
def prompt : String := "> "

/-- Reads and answers lines until the console ends or input runs out. -/
partial def play (stdin stdout : IO.FS.Stream) (desk : Saves.Desk) : IO Unit := do
  stdout.putStr prompt
  stdout.flush
  let line ← stdin.getLine
  if line.isEmpty then return
  let reply := respond desk line
  for l in reply.lines do stdout.putStrLn l
  if reply.goesOn then play stdin stdout reply.desk

def main (args : List String) : IO UInt32 := do
  let name : Value := match args with
    | first :: _ => .str first
    | [] => .null
  match opening name with
  | .error e =>
    IO.eprintln ("Error: " ++ faultText e)
    return 1
  | .ok (lines, desk) =>
    let stdout ← IO.getStdout
    for l in lines do stdout.putStrLn l
    play (← IO.getStdin) stdout desk
    return 0
