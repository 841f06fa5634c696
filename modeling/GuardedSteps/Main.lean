import GuardedSteps.CommandLine.Run

/-!
The command itself: it reads its input when that is to be checked, prints, and ends with the code
that the run gives.
-/

open GuardedSteps

def main (arguments : List String) : IO UInt32 := do
  let output ← IO.getStdout
  let input ← if CommandLine.read arguments = .lint then do
      let bytes ← (← IO.getStdin).readToEnd
      pure bytes
    else pure ""
  match CommandLine.run arguments input with
  | .ok ended =>
    output.putStr ended.output
    return (ended.code.getD 0).toUInt32
  | .error failure =>
    (← IO.getStderr).putStrLn (failure.type.name ++ ": " ++ failure.message)
    return 1
