import Rgbd.Cli.Options
import Rgbd.Node
import Rgbd.Synthetic
import Rgbd.Settings.Reader

/-!
Running the sandbox: a node streaming from the synthetic camera for a while.

The settings come from the settings file when it reads as settings; otherwise every stream
the camera offers is enabled at its size and any rate, with alignment and point clouds. The
watchdog timeout of the command line replaces that of the settings, and the settings are
normalized. The node is then built on the synthetic camera and streams for the given
number of seconds (none when the number is negative or NaN).

The exit status is 1 for an invalid command line or a node that cannot be built, and 101
when a number of seconds is not a duration, or the stall or a deadline is not an instant
the host can represent; the run stops at once then.
-/

namespace Rgbd.Cli

/-- How a run ends. -/
structure Outcome where
  status : Nat
  stdout : String
  stderr : String := ""
  streams : Duration := 0

/-- Settings enabling every video stream at the camera's size and any rate, with alignment
and point clouds. -/
def synthesizedSettings (o : RunOptions) : Settings :=
  let s : Settings := {}
  let video := fun (st : StreamSettings) => { st with width := o.width, height := o.height, fps := 0 }
  { s with depth := video s.depth, infra1 := video s.infra1, infra2 := video s.infra2,
           color := video s.color, fisheye := video s.fisheye, alignDepth := true,
           pointcloud := true }

def runSettings (o : RunOptions) (readFile : String → Option String) : Settings :=
  let s := ((readFile o.settings).bind fun text => (Settings.read text).toOption).getD
    (synthesizedSettings o)
  let s := match o.watchdogTimeout with
    | some t => { s with watchdogTimeoutSecs := t }
    | none => s
  s.normalized

def atLeastZero (x : Float) : Float := if x.isNaN || x < 0 then 0 else x

def failure (message : String) : Outcome := ⟨101, "", message, 0⟩

def run (args : List String) (readFile : String → Option String) : Outcome :=
  match parse args with
  | .help long => ⟨0, helpText long, "", 0⟩
  | .version => ⟨0, versionText, "", 0⟩
  | .invalid message => ⟨1, "", "error: " ++ message ++ "\n", 0⟩
  | .run o =>
    let settings := runSettings o readFile
    match o.stallAfter.map Duration.ofSecondsFloat? with
    | some none => failure "the stall time is not a duration\n"
    | stall =>
      if stall.join.any fun d => (Instant.checkedAdd ⟨0⟩ d).isNone then
        failure "the stall instant is not an instant\n"
      else
        let rig : SyntheticRig :=
          { camera := SyntheticCamera.new o.width o.height o.fps stall.join,
            wall := SystemTime.ofParts 0 0, monotonic := ⟨0⟩ }
        match (Node.new settings).run rig with
        | (.error e, _) => ⟨1, "", "unable to set up the device: " ++ e.message ++ "\n", 0⟩
        | (.ok n, _) =>
          if n.overflowed then failure "the watchdog deadline is not an instant\n"
          else match Duration.ofSecondsFloat? (atLeastZero o.duration) with
            | none => failure "the duration is not a duration\n"
            | some d => ⟨0, "", "", d⟩

end Rgbd.Cli
