import UsbRepeater.Lib.Schedule
import UsbRepeater.Lib.Determ
import UsbRepeater.Lib.Bytes
import UsbRepeater.Protocol
import UsbRepeater.HostLibrary
import UsbRepeater.ClassDriver
import UsbRepeater.UsbipServer
import UsbRepeater.UsbHandler
import UsbRepeater.Server
import UsbRepeater.Lib.Flow
import UsbRepeater.Lib.Framing
import UsbRepeater.Effects
import UsbRepeater.SubmitPipeline
import UsbRepeater.Client
import UsbRepeater.Replies
import UsbRepeater.Connections
import UsbRepeater.UrbPhase
import UsbRepeater.LostRequests
import UsbRepeater.ImportContract
import UsbRepeater.DeviceBusy
import UsbRepeater.ImportHandOver
import UsbRepeater.Unlink
import UsbRepeater.OutputFraming
import UsbRepeater.Reader
import UsbRepeater.Segmentation
import UsbRepeater.Enumeration
import UsbRepeater.Session
import UsbRepeater.SessionFraming
import UsbRepeater.Lib.Watch
import UsbRepeater.ActionLoop
import UsbRepeater.DeviceList
import UsbRepeater.Carried
import UsbRepeater.PendingFlags
import UsbRepeater.Payload
import UsbRepeater.ImportedDevice
import UsbRepeater.Handshake
import UsbRepeater.Lib.Potential
import UsbRepeater.Termination
import UsbRepeater.BrokenConnection
import UsbRepeater.RejectedSubmit
import UsbRepeater.Lib.Table
import UsbRepeater.Transfers
import UsbRepeater.Completion
import UsbRepeater.InLengths
import UsbRepeater.EndpointWords
import UsbRepeater.PacketSizes
import UsbRepeater.TransferObjects
import UsbRepeater.Recovery
import UsbRepeater.InterfaceTable
import UsbRepeater.Lib.TwoRuns
import UsbRepeater.MemorySecrecy
import UsbRepeater.Lib.Packed
import UsbRepeater.DeviceRecords
import UsbRepeater.LogHandler
import UsbRepeater.LogStream
import UsbRepeater.LogRecords
import UsbRepeater.LogSnapshot
import UsbRepeater.Lib.Fifo
import UsbRepeater.SubmitOrder
import UsbRepeater.OutPipe
import UsbRepeater.ReplyOrder
import UsbRepeater.CommandOrder
import UsbRepeater.Halts
import UsbRepeater.Settling
import UsbRepeater.Lib.Relay
import UsbRepeater.Repeater
import UsbRepeater.InPipe
import UsbRepeater.Lib.Simulation
import UsbRepeater.HttpServer
import UsbRepeater.HttpResponses
import UsbRepeater.HttpRefinement
import UsbRepeater.HttpProgress
import UsbRepeater.LogLifetime
import UsbRepeater.Firmware
import UsbRepeater.Lib.Memory
import UsbRepeater.MemoryEvents
import UsbRepeater.RequestMemory
import UsbRepeater.MemorySafety
