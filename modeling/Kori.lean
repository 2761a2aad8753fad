import Kori.Hardware.Staging
import Kori.Daemon.Cooling.Floor
import Kori.Daemon.Cooling.Readback
import Kori.Daemon.Config.Runs
import Kori.Daemon.State.Absence
import Kori.Daemon.State.Restart
import Kori.Daemon.Lighting.Runs
import Kori.Daemon.Display.Stopped
import Kori.Daemon.Display.Record
import Kori.Daemon.Server.Strangers
import Kori.Core.Client.Pairing
import Kori.App.Shell.Recorded
import Kori.Core.Lighting.Hex
import Kori.App.Link.Gate
import Kori.Daemon.Cooling.Counted
import Kori.Daemon.Cooling.Covered
import Kori.Daemon.Display.Schedule
import Kori.Hardware.Rgb.Wire
import Kori.Core.Telemetry.View
import Kori.Daemon.Telemetry.Sightings
import Kori.App.Desktop.Autosave
import Kori.Core.Curve.Rounding
import Kori.Core.Profile.Nodes
import Kori.Daemon.Config.Replayed
import Kori.Daemon.Cooling.Verified
import Kori.Daemon.Ownership.Holders
import Kori.Hardware.Lcd.Transfer
import Kori.Renderer.Packing
import Kori.Daemon.Telemetry.Health
import Kori.Daemon.Export
import Kori.Daemon.Cooling.Evidence
import Kori.App.Cooling.Revert
import Kori.App.Profiles.Saved
import Kori.App.Display.RoundTrip
import Kori.App.Display.Cache
import Kori.App.Chart
import Kori.Daemon.Server.Ticker
import Kori.Daemon.State.Access
import Kori.Daemon.Instance.Recovery
import Kori.Daemon.Probe
import Kori.Daemon.Probe.Rgb
import Kori.Daemon.Probe.Lcd
import Kori.Daemon.Probe.Wire
import Kori.Daemon.Startup
import Kori.Daemon.Startup.Matches
import Kori.Daemon.Config.PowerLoss
import Kori.Core.Telemetry.Sections
import Kori.Core.Text.Lines
import Kori.Faulty.Records
import Kori.Hardware.Sensors
import Kori.Hardware.Sensors.Tiling
import Kori.App.Metrics
import Kori.Hardware.Sensors.Proc
import Kori.Faulty.Sorting
import Kori.Hardware.Usb
import Kori.Hardware.Usb.Claim
import Kori.Hardware.Usb.Owner
import Kori.Faulty.Walk
import Kori.Daemon.Ownership.Nodes
