import Rgbd.Sensor
import Rgbd.Error
import Rgbd.StreamMap
import Rgbd.Settings.Basic

/-!
Choosing stream profiles.

Every module of the device must be one of the supported ones; a stream served by several
modules belongs to the last of them. Streams are then visited in the order
`depth, infra1, infra2, color, fisheye, gyro, accel`. An enabled stream that some module
serves gets the first profile of that module with the stream's key and requested format
whose width, height and rate each equal the request or are accepted by a zero request.
Video without depth is refused: every derived product needs depth.
-/

namespace Rgbd

def accepts (wanted offered : Nat) : Bool := wanted == 0 || wanted == offered

def StreamProfile.meets (p : StreamProfile) (k : StreamKey) (format : PixelFormat)
    (requested : StreamSettings) : Bool :=
  p.key == k && p.format == format && accepts requested.width p.width &&
    accepts requested.height p.height && accepts requested.fps p.fps

def streamOwners (modules : List SensorModule) : Except EngineError (StreamMap SensorModule) :=
  modules.foldlM (fun owners m =>
    match moduleStreams m.name with
    | none => .error (.unsupportedModule m.name)
    | some keys => .ok (keys.foldl (fun o k => o.insert k m) owners)) StreamMap.empty

/-- The profile chosen for stream `k` with the module offering it, if the stream is
enabled, served and offered as requested. -/
def chooseProfile (settings : Settings) (owners : StreamMap SensorModule) (k : StreamKey) :
    Option (String × StreamProfile) := do
  let requested ← settings.stream k
  if !requested.enabled then none
  let m ← owners.find? k
  let p ← m.profiles.find? (·.meets k (settings.format k) requested)
  pure (m.name, p)

def negotiate (modules : List SensorModule) (settings : Settings) :
    Except EngineError (List (String × StreamProfile)) := do
  let owners ← streamOwners modules
  let selected := (StreamKey.video ++ StreamKey.motion).filterMap (chooseProfile settings owners)
  let hasVideo := selected.any fun (_, p) => !p.key.isMotion
  let hasDepth := selected.any fun (_, p) => p.key.isDepth
  if hasVideo && !hasDepth then .error .missingDepthProfile else .ok selected

def groupByModule (selected : List (String × StreamProfile)) : List (String × List StreamProfile) :=
  selected.foldl (fun groups (m, p) =>
    if groups.any (·.1 == m) then groups.map fun (n, ps) => if n == m then (n, ps ++ [p]) else (n, ps)
    else groups ++ [(m, [p])]) []

end Rgbd
