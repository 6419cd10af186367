import Rgbd.Stream
import Rgbd.Align.Reproject
import Rgbd.Cloud
import Rgbd.Filter.Chain

/-!
Errors of the engine and their messages.
-/

namespace Rgbd

/-- A failed exchange with the device, with the device's own message. -/
structure DeviceError where
  message : String
  deriving Repr, DecidableEq, Inhabited

/-- The sensor modules that failed to start or stop. The other modules still changed
state. -/
structure StreamingError where
  action : String
  failures : List (String × DeviceError)
  deriving Repr, DecidableEq, Inhabited

def StreamingError.message (e : StreamingError) : String :=
  toString e.failures.length ++ " sensor module(s) failed to " ++ e.action

/-- What can go wrong while building or running a pipeline. -/
inductive EngineError where
  | unsupportedModule (name : String)
  | missingDepthProfile
  | filterOrder (e : FilterOrder)
  | unsupportedStream (k : StreamKey)
  | frameMismatch (k : StreamKey)
  | calibrationMismatch (k : StreamKey)
  | device (e : DeviceError)
  | streaming (e : StreamingError)
  | align (e : AlignError)
  | cloud (e : CloudError)
  deriving Repr, DecidableEq

namespace EngineError

def kind : EngineError → String
  | unsupportedModule _ => "UnsupportedModule"
  | missingDepthProfile => "MissingDepthProfile"
  | filterOrder _ => "FilterOrder"
  | unsupportedStream _ => "UnsupportedStream"
  | frameMismatch _ => "FrameMismatch"
  | calibrationMismatch _ => "CalibrationMismatch"
  | device _ => "Device"
  | streaming _ => "Streaming"
  | align _ => "Align"
  | cloud _ => "Cloud"

def message : EngineError → String
  | unsupportedModule name => "sensor module \"" ++ name ++ "\" is not supported"
  | missingDepthProfile => "no depth profile matches the requested configuration"
  | filterOrder e => "filter stages are toggled inconsistently: " ++ e.reason
  | unsupportedStream k => "stream " ++ k.name ++ " is not configured"
  | frameMismatch k => "frame does not match the negotiated " ++ k.name ++ " stream"
  | calibrationMismatch k => "calibration of " ++ k.name ++ " does not match its profile"
  | device e => "device error: " ++ e.message
  | streaming e => e.message
  | align e => e.message
  | cloud e => e.message

end EngineError

end Rgbd
