/-
  A model of the RDMA gateway and the properties proved of it.
-/
import RdmaGateway.Foundation.ByteMem
import RdmaGateway.Foundation.Circle
import RdmaGateway.Foundation.Component
import RdmaGateway.Foundation.Crc
import RdmaGateway.Foundation.Cursor
import RdmaGateway.Foundation.DirectMapped
import RdmaGateway.Foundation.FirstCome
import RdmaGateway.Foundation.Groups
import RdmaGateway.Foundation.Ledger
import RdmaGateway.Foundation.Lock
import RdmaGateway.Foundation.Overwrite
import RdmaGateway.Foundation.Pacing
import RdmaGateway.Foundation.Reads
import RdmaGateway.Foundation.Ring
import RdmaGateway.Foundation.Run
import RdmaGateway.Foundation.Scan
import RdmaGateway.Foundation.Word
import RdmaGateway.Dpdk.Io
import RdmaGateway.Wire.BitSerial
import RdmaGateway.Wire.Corruption
import RdmaGateway.Wire.Crc32
import RdmaGateway.Wire.Icrc
import RdmaGateway.Wire.Ipv4
import RdmaGateway.Wire.Mbuf
import RdmaGateway.Roce.Psn
import RdmaGateway.Roce.Stream
import RdmaGateway.Tunnel.PeerConfig
import RdmaGateway.Tunnel.WanTunnel
import RdmaGateway.Arq.Contexts
import RdmaGateway.Arq.Control
import RdmaGateway.Arq.Counters
import RdmaGateway.Arq.Drain
import RdmaGateway.Arq.Filling
import RdmaGateway.Arq.Held
import RdmaGateway.Arq.Locking
import RdmaGateway.Arq.Release
import RdmaGateway.Arq.Retransmit
import RdmaGateway.Arq.Retries
import RdmaGateway.Arq.RoundTrip
import RdmaGateway.Arq.Sequence
import RdmaGateway.Arq.Slots
import RdmaGateway.Arq.Ticks
import RdmaGateway.Arq.Window
import RdmaGateway.Reassembly.Agreement
import RdmaGateway.Reassembly.Buffer
import RdmaGateway.Reassembly.Context
import RdmaGateway.Reassembly.Flow
import RdmaGateway.Reassembly.Gaps
import RdmaGateway.Reassembly.InOrder
import RdmaGateway.Reassembly.Invariant
import RdmaGateway.Reassembly.JitterBuffer
import RdmaGateway.Reassembly.Locking
import RdmaGateway.Reassembly.Messages
import RdmaGateway.Reassembly.Placement
import RdmaGateway.Processor.Admission
import RdmaGateway.Processor.ArpRequests
import RdmaGateway.Processor.Clearing
import RdmaGateway.Processor.Congestion
import RdmaGateway.Processor.Delivery
import RdmaGateway.Processor.Duplicates
import RdmaGateway.Processor.Effects
import RdmaGateway.Processor.Emissions
import RdmaGateway.Processor.Frames
import RdmaGateway.Processor.Headers
import RdmaGateway.Processor.InOrder
import RdmaGateway.Processor.Isolation
import RdmaGateway.Processor.LanRun
import RdmaGateway.Processor.LanRx
import RdmaGateway.Processor.LanStep
import RdmaGateway.Processor.Leaks
import RdmaGateway.Processor.Locking
import RdmaGateway.Processor.Nacks
import RdmaGateway.Processor.Notifications
import RdmaGateway.Processor.Order
import RdmaGateway.Processor.Ownership
import RdmaGateway.Processor.Reassembler
import RdmaGateway.Processor.References
import RdmaGateway.Processor.Retention
import RdmaGateway.Processor.Saturation
import RdmaGateway.Processor.SpoofedAcks
import RdmaGateway.Processor.State
import RdmaGateway.Processor.Statistics
import RdmaGateway.Processor.WanRx
import RdmaGateway.Processor.WanStep
import RdmaGateway.Processor.Windows
import RdmaGateway.Gateway.ArpRequests
import RdmaGateway.Gateway.AsStarted
import RdmaGateway.Gateway.Built
import RdmaGateway.Gateway.Cores
import RdmaGateway.Gateway.Egress
import RdmaGateway.Gateway.EndToEnd
import RdmaGateway.Gateway.Frames
import RdmaGateway.Gateway.Icrc
import RdmaGateway.Gateway.InOrder
import RdmaGateway.Gateway.Launch
import RdmaGateway.Gateway.MainLoops
import RdmaGateway.Gateway.Network
import RdmaGateway.Gateway.NextHops
import RdmaGateway.Gateway.Reassembler
import RdmaGateway.Gateway.Replies
import RdmaGateway.Gateway.SourceAddress
import RdmaGateway.Gateway.SpoofedAcks
import RdmaGateway.Gateway.Startup
import RdmaGateway.Gateway.Statistics
import RdmaGateway.Gateway.Windows
