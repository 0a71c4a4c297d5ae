import Tether.Cli.Run
import Tether.Handle.Live

namespace Tether

/-! # The program

Gives the arguments, the environment and the files to `Cli.run` and prints what it answers. The program has no
network of its own, so every store is one that cannot be reached.
-/

namespace Cli

/-- The bytes of a file that may be missing. -/
def readFile? (path : String) : IO (Option Bytes) := do
  try
    let bytes ← IO.FS.readBinFile path
    pure (some bytes.toList)
  catch _ => pure none

/-- The surroundings of the program, with the file that the arguments name and no other. -/
def readSurroundings (arguments : List String) : IO Surroundings := do
  let url ← IO.getEnv urlVariable
  match Invocation.ofArguments arguments with
  | .ok { config := some path, .. } =>
    let content ← readFile? path
    pure ⟨fun p => if p = path then content else none, url⟩
  | _ => pure ⟨fun _ => none, url⟩

/-- Runs the program where no store can be reached. -/
def runAlone (arguments : List String) : IO UInt32 := do
  let s ← readSurroundings arguments
  let transport : Transport Connection Unit := Network.transport fun _ => Network.unreachable
  match (run (LiveHandle.kind transport) s arguments ()).1 with
  | none =>
    IO.eprintln "Error: the store does not answer"
    pure 1
  | some e =>
    IO.print e.stdout
    IO.eprint e.stderr
    pure (UInt32.ofNat e.code)

end Cli

end Tether

/-- Runs the program. -/
def main (arguments : List String) : IO UInt32 := Tether.Cli.runAlone arguments
