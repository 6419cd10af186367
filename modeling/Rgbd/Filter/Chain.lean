import Rgbd.Filter.Disparity
import Rgbd.Filter.Smoothing

/-!
The depth post-processing chain.

Smoothing works on disparity, whose noise is roughly uniform over the sensor's range. The
chain converts depth to disparity, runs the enabled smoothing stages, and converts back.
The two conversions are enabled together, and the smoothing stages need them; settings
that break either rule are refused and leave the chain as it was. Turning the temporal
stage off forgets its history.
-/

namespace Rgbd

/-- Which post-processing stages are enabled. -/
structure FilterSettings where
  depthToDisparity : Bool := false
  spatial : Bool := false
  temporal : Bool := false
  disparityToDepth : Bool := false
  deriving Repr, DecidableEq, Inhabited

def FilterSettings.all : FilterSettings := ⟨true, true, true, true⟩

/-- Why a set of toggles does not describe a runnable chain. -/
inductive FilterOrder where
  | unpairedConversions
  | smoothingWithoutConversions
  deriving Repr, DecidableEq

def FilterOrder.reason : FilterOrder → String
  | unpairedConversions => "depth to disparity and disparity to depth must be enabled together"
  | smoothingWithoutConversions => "smoothing stages require the disparity conversions"

/-- Checks that the toggles describe a runnable chain; the pairing of the conversions is
checked first. -/
def FilterSettings.validate (s : FilterSettings) : Except FilterOrder Unit :=
  if s.depthToDisparity != s.disparityToDepth then .error .unpairedConversions
  else if (s.spatial || s.temporal) && !s.depthToDisparity then .error .smoothingWithoutConversions
  else .ok ()

/-- The stages of a chain, in the order they run. -/
inductive Stage where
  | depthToDisparity
  | spatial
  | temporal
  | disparityToDepth
  deriving Repr, DecidableEq

namespace Stage

def order : List Stage := [depthToDisparity, spatial, temporal, disparityToDepth]

def name : Stage → String
  | depthToDisparity => "Depth_to_Disparity"
  | spatial => "Spatial"
  | temporal => "Temporal"
  | disparityToDepth => "Disparity_to_Depth"

def enabledIn (s : FilterSettings) : Stage → Bool
  | depthToDisparity => s.depthToDisparity
  | spatial => s.spatial
  | temporal => s.temporal
  | disparityToDepth => s.disparityToDepth

end Stage

/-- The post-processing stages of one pipeline. -/
structure FilterChain where
  settings : FilterSettings
  converter : DisparityConverter
  spatial : SpatialFilter := {}
  temporal : TemporalFilter := {}
  deriving Inhabited

namespace FilterChain

def new (settings : FilterSettings) (converter : DisparityConverter) : Except FilterOrder FilterChain :=
  settings.validate.map fun _ => { settings, converter }

def configure (c : FilterChain) (settings : FilterSettings) : Except FilterOrder FilterChain :=
  settings.validate.map fun _ =>
    { c with settings, temporal := if settings.temporal then c.temporal else c.temporal.reset }

def stages (c : FilterChain) : List (Stage × Bool) :=
  Stage.order.map fun s => (s, s.enabledIn c.settings)

def isActive (c : FilterChain) : Bool := c.settings.depthToDisparity

def apply (c : FilterChain) (depth : DepthImage) : DepthImage × FilterChain :=
  if !c.isActive then (depth, c)
  else
    let d := c.converter.toDisparity depth
    let d := if c.settings.spatial then c.spatial.apply d else d
    let (d, temporal) := if c.settings.temporal then c.temporal.apply d else (d, c.temporal)
    (c.converter.toDepth d, { c with temporal })

end FilterChain

end Rgbd
