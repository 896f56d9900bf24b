import Benchtop.CommandLine.Program
import Benchtop.Host.Bus
import Benchtop.Settings.Toml

/-!
# The command line

The outer layer of the program: it reads the settings file, runs the program on the host it is
linked with, prints, and ends with the exit status. No USB stack is linked here, so the host has no
devices.
-/

open Benchtop CommandLine

/-- The content of a file, if it can be read. -/
def readFile? (path : String) : IO (Option (List UInt8)) := do
  try return some (← IO.FS.readBinFile path).toList
  catch _ => return none

def main (arguments : List String) : IO UInt32 := do
  let content ← match parse arguments with
    | .ok invocation =>
      match invocation.config with
      | some path => readFile? path
      | none => pure none
    | .error _ => pure none
  let (result, _) := (program .toml HostBus.behaviour (fun _ => content) arguments).run {}
  let out ← IO.getStdout
  out.write (ByteArray.mk result.output.toArray)
  out.flush
  if let some error := result.error then
    (← IO.getStderr).putStrLn ("Error: " ++ error.message)
  return UInt32.ofNat result.exit
