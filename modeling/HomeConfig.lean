import HomeConfig.Library.Machine
import HomeConfig.Library.BitField
import HomeConfig.Library.WrapClock
import HomeConfig.Library.Single
import HomeConfig.Arduino.CString
import HomeConfig.Arduino.AvrInt
import HomeConfig.MySensors.Message
import HomeConfig.Arduino.Pin
import HomeConfig.MySensors.Core
import HomeConfig.MySensors.Network
import HomeConfig.MySensors.Drain
import HomeConfig.MySensors.Transport
import HomeConfig.Dht.Channel
import HomeConfig.GarageStation.Sketch
import HomeConfig.GarageStation.Relay
import HomeConfig.GarageStation.Filter
import HomeConfig.HotTub.Sketch
import HomeConfig.HotTub.Lighting
import HomeConfig.HeatPumpNode.Sketch
import HomeConfig.HeatPumpNode.Command
import HomeConfig.HeatPumpNode.Vocabulary
import HomeConfig.HeatPumpNode.Asked
import HomeConfig.HeatPumpNode.Poll
import HomeConfig.HeatPumpNode.Repeat
import HomeConfig.HeatPumpMqtt.Callback
import HomeConfig.HeatPumpMqtt.Settings
import HomeConfig.HeatPumpMqtt.Rejection
import HomeConfig.HeatPumpMqtt.Timer
import HomeConfig.HeatPumpMqtt.Packet
import HomeConfig.Climate.Carrier
import HomeConfig.Climate.Nodes
import HomeConfig.Climate.Latest
import HomeConfig.Climate.Refresh
import HomeConfig.Climate.Attempts
import HomeConfig.HotTub.Reboot
import HomeConfig.Arduino.StringObject
import HomeConfig.Fireplace.Flame
import HomeConfig.HomeMonitor.Sketch
import HomeConfig.HomeReceiver.Sketch
import HomeConfig.HomeReceiver.Frames
import HomeConfig.HomeReceiver.Store
import HomeConfig.ParkingSensor.Display
import HomeConfig.HomeMonitor.GarageDoor
import HomeConfig.Library.Double
import HomeConfig.Python.Value
import HomeConfig.Library.Calendar
import HomeConfig.Python.DateTime
import HomeConfig.Metlink.Sensor
import HomeConfig.Tidespy.Sensor
import HomeConfig.Library.Search
import HomeConfig.Metlink.NextService
import HomeConfig.Python.Texts
import HomeConfig.Metlink.Timestamps
import HomeConfig.Library.Upcoming
import HomeConfig.Tidespy.NextTide
import HomeConfig.Metlink.Tolerance
import HomeConfig.Tidespy.Tolerance
import HomeConfig.Transport.Answers
import HomeConfig.Library.ShiftRegister
import HomeConfig.RadioHead.Crc
import HomeConfig.RadioHead.Driver
import HomeConfig.RadioHead.Pll
import HomeConfig.RadioHead.Framer
import HomeConfig.RadioHead.Receiver
import HomeConfig.RadioHead.Link
import HomeConfig.RadioHead.Trace
import HomeConfig.RadioHead.Transmitter
import HomeConfig.RadioHead.Integrity
import HomeConfig.Library.BitTrie
import HomeConfig.Dallas.Bus
import HomeConfig.Dallas.Search
import HomeConfig.Dallas.Crc
import HomeConfig.Dallas.Temperature
import HomeConfig.HotTub.Temperatures
import HomeConfig.MySensors.Requests
import HomeConfig.MySensors.Recovery
import HomeConfig.Library.TreeRouting
import HomeConfig.MySensors.Router
import HomeConfig.MySensors.Mesh
import HomeConfig.MySensors.Gateway
import HomeConfig.MySensors.Reports
import HomeConfig.HeatPumpNode.Infrared
import HomeConfig.HeatPumpNode.Commanded
