import LoRaTelemetry.Library.Machine
import LoRaTelemetry.Library.RunningMax
import LoRaTelemetry.Wire.Agreement
import LoRaTelemetry.Master.Freshness
import LoRaTelemetry.Master.Commands
import LoRaTelemetry.Wire.StaleBytes
import LoRaTelemetry.Master.Steps
import LoRaTelemetry.Receive.Integrity
import LoRaTelemetry.Slave.LedReport
import LoRaTelemetry.Slave.Interference
import LoRaTelemetry.Network.LedAuthority
import LoRaTelemetry.Network.Steering
import LoRaTelemetry.Master.RoundRobin
import LoRaTelemetry.Slave.Mailbox
import LoRaTelemetry.Master.ListenWindow
import LoRaTelemetry.Master.PostBody
import LoRaTelemetry.Network.Requests
import LoRaTelemetry.Network.Pairing
import LoRaTelemetry.Gps.CStrings
import LoRaTelemetry.Gps.TinyGps
import LoRaTelemetry.Gps.Scanner
import LoRaTelemetry.Gps.StaleMemory
import LoRaTelemetry.Gps.Commits
import LoRaTelemetry.Gps.Display
import LoRaTelemetry.Gps.Restarts
import LoRaTelemetry.Radio.Reading
import LoRaTelemetry.Radio.SlaveRefines
import LoRaTelemetry.Radio.MasterPosts
import LoRaTelemetry.Gps.Reports
import LoRaTelemetry.Network.Readings
import LoRaTelemetry.Network.Causality
import LoRaTelemetry.Network.Recovery
import LoRaTelemetry.Network.Commanding
