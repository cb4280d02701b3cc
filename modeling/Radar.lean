import Radar.Base.StepMachine
import Radar.Base.Simulation
import Radar.Base.CArith
import Radar.Base.Sessions
import Radar.Base.Script
import Radar.Base.Ere
import Radar.Base.Regcomp
import Radar.Base.Printk
import Radar.Base.Scan
import Radar.Base.MsgQueue
import Radar.Sensor
import Radar.Display
import Radar.Processing
import Radar.Grade
import Radar.Speed
import Radar.Step
import Radar.Invariant
import Radar.Window
import Radar.Limits
import Radar.Finalize
import Radar.Interleaving
import Radar.Atomic
import Radar.Clock
import Radar.Traffic
import Radar.SensorSim
import Radar.Latency
import Radar.Measurement
import Radar.Verdict
import Radar.Show
import Radar.SensorQueue
import Radar.Elapsed
import Radar.Startup
import Radar.Plate
import Radar.Camera
import Radar.Exchange
import Radar.System
import Radar.Composition
import Radar.Outcomes
import Radar.Console
import Radar.PlateTables
