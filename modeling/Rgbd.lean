import Rgbd.Decimal.Shortest
import Rgbd.Decimal.Layout
import Rgbd.Decimal.Parse
import Rgbd.Json.Value
import Rgbd.Json.Reader
import Rgbd.Json.Shape
import Rgbd.Text.Unicode
import Rgbd.Text.Quote
import Rgbd.Stream
import Rgbd.Geometry.Vec
import Rgbd.Geometry.Pose
import Rgbd.Optics.Distortion
import Rgbd.Optics.Intrinsics
import Rgbd.Topic
import Rgbd.Sensor
import Rgbd.Image
import Rgbd.Align.Reproject
import Rgbd.Cloud
import Rgbd.Filter.Disparity
import Rgbd.Filter.Smoothing
import Rgbd.Filter.Chain
import Rgbd.Time
import Rgbd.Clock
import Rgbd.Watchdog
import Rgbd.StreamMap
import Rgbd.Frame
import Rgbd.Syncer
import Rgbd.Error
import Rgbd.Arrival
import Rgbd.Settings.Basic
import Rgbd.Settings.Reader
import Rgbd.Imu
import Rgbd.Publish
import Rgbd.Encode
import Rgbd.Device
import Rgbd.Pipeline.Negotiate
import Rgbd.Pipeline.Basic
import Rgbd.Pipeline.Dispatch
import Rgbd.Node
import Rgbd.Node.Threads
import Rgbd.Node.Configuring
import Rgbd.Bench.World
import Rgbd.Bench.Scenario
import Rgbd.Bench.Report
import Rgbd.Synthetic
import Rgbd.Cli.Options
import Rgbd.Cli.Sandbox
import Rgbd.Main
import Rgbd.Proofs.Raster
import Rgbd.Proofs.Float.Unpacked
import Rgbd.Proofs.Float.Binary32
import Rgbd.Proofs.Float.Rounding
import Rgbd.Proofs.Float.Arith
import Rgbd.Proofs.Float.Binary64
import Rgbd.Proofs.Reproject
import Rgbd.Proofs.ParallelRows
import Rgbd.Proofs.Generations
import Rgbd.Proofs.Clock
import Rgbd.Proofs.ClockMap
import Rgbd.Proofs.Float.Sign
import Rgbd.Proofs.Dispatch
import Rgbd.Proofs.Framesets
import Rgbd.Proofs.StreamMap
import Rgbd.Proofs.Consistency
import Rgbd.Proofs.Products
import Rgbd.Proofs.Watchdog
import Rgbd.Proofs.Liveness
import Rgbd.Proofs.Recovery
import Rgbd.Proofs.Rejection
import Rgbd.Proofs.Profiles
import Rgbd.Proofs.Sequences
import Rgbd.Proofs.FilterUpdates
import Rgbd.Proofs.Clouds
import Rgbd.Proofs.Rediscovery
import Rgbd.Proofs.Toggles
import Rgbd.Proofs.Float.Accuracy
import Rgbd.Proofs.Float.Convert
import Rgbd.Proofs.Disparity
import Rgbd.Proofs.Smoothing
import Rgbd.Proofs.Holes
import Rgbd.Proofs.Sweeps
import Rgbd.Proofs.Temporal
import Rgbd.Proofs.Streaming
import Rgbd.Proofs.Negotiation
import Rgbd.Proofs.Scene
import Rgbd.Proofs.Deadlines
