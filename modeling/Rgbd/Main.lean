import Rgbd.Cli.Sandbox

/-!
The sandbox program: parses its command line, reads the settings file, and streams for
the requested time.
-/

open Rgbd

def readText (path : String) : IO (Option String) := do
  try
    return some (← IO.FS.readFile path)
  catch _ =>
    return none

partial def wait (d : Duration) : IO Unit := do
  if d.nanos = 0 then return
  let step := min d.nanos 1000000000
  IO.sleep (step / 1000000).toUInt32
  wait ⟨d.nanos - step⟩

def main (args : List String) : IO UInt32 := do
  let o := Cli.parse args
  let settingsText ← match o with
    | .run r => readText r.settings
    | _ => pure none
  let outcome := Cli.run args fun path => match o with
    | .run r => if path == r.settings then settingsText else none
    | _ => none
  IO.print outcome.stdout
  IO.eprint outcome.stderr
  (← IO.getStdout).flush
  wait outcome.streams
  return outcome.status.toUInt32
