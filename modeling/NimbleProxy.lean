import NimbleProxy.Theory.ActionSystem
import NimbleProxy.Theory.KeyValue
import NimbleProxy.Theory.Tally
import NimbleProxy.Theory.Streak
import NimbleProxy.Theory.Varint
import NimbleProxy.Theory.Bytes
import NimbleProxy.Theory.RingStream
import NimbleProxy.Theory.Protobuf
import NimbleProxy.Theory.LruTable
import NimbleProxy.Theory.TaggedObjects
import NimbleProxy.Theory.LittleEndian
import NimbleProxy.Theory.FixedArray
import NimbleProxy.Theory.Base64
import NimbleProxy.Theory.CString
import NimbleProxy.Theory.BoundedPrint
import NimbleProxy.Theory.Json
import NimbleProxy.Theory.Brackets
import NimbleProxy.Theory.PrintedJson
import NimbleProxy.Theory.OffsetPrint
import NimbleProxy.Theory.StoreSession
import NimbleProxy.Theory.FormText
import NimbleProxy.Theory.SeenArray
import NimbleProxy.Theory.FifoMap
import NimbleProxy.Theory.TaggedOptions
import NimbleProxy.Theory.LastValues
import NimbleProxy.Theory.ChunkedPrint
import NimbleProxy.Backend.Slots
import NimbleProxy.Backend.Connection
import NimbleProxy.Backend.SlotInvariant
import NimbleProxy.Backend.CallStages
import NimbleProxy.Backend.CallbackDiscipline
import NimbleProxy.Backend.DisconnectAnswer
import NimbleProxy.Backend.EventReports
import NimbleProxy.Backend.ScanControl
import NimbleProxy.Backend.GattDiscovery
import NimbleProxy.Backend.Radio
import NimbleProxy.Backend.AdvertisingGate
import NimbleProxy.Backend.PowerSupervisor
import NimbleProxy.Ota.Update
import NimbleProxy.Ota.Partitions
import NimbleProxy.Clone.Upstream
import NimbleProxy.Clone.ReadyInvariant
import NimbleProxy.Clone.Mirror
import NimbleProxy.Clone.Session
import NimbleProxy.Clone.MirrorBinding
import NimbleProxy.Clone.QueuedWrites
import NimbleProxy.Clone.MirrorRebuild
import NimbleProxy.Clone.Attempts
import NimbleProxy.Clone.FailedSessions
import NimbleProxy.Clone.Disabling
import NimbleProxy.Clone.Registration
import NimbleProxy.Clone.Rebinding
import NimbleProxy.Clone.Routing
import NimbleProxy.Api.Server
import NimbleProxy.Api.Registry
import NimbleProxy.Api.FrameCodec
import NimbleProxy.Api.FrameReading
import NimbleProxy.Api.Outgoing
import NimbleProxy.Api.StreamIntegrity
import NimbleProxy.Api.Reaping
import NimbleProxy.Api.Subscriptions
import NimbleProxy.Api.SubscriptionCounters
import NimbleProxy.Api.Forwarding
import NimbleProxy.Api.Devices
import NimbleProxy.Api.Responses
import NimbleProxy.Api.Orphans
import NimbleProxy.Api.FreeMessages
import NimbleProxy.Api.FreeCurrent
import NimbleProxy.Api.Settings
import NimbleProxy.Api.Reboot
import NimbleProxy.Api.Hostname
import NimbleProxy.Api.ReportedInterval
import NimbleProxy.Api.Rejection
import NimbleProxy.Api.LogRing
import NimbleProxy.Api.LogPolling
import NimbleProxy.Api.WsBridge
import NimbleProxy.Api.WsTeardown
import NimbleProxy.Dashboard.BleFetch
import NimbleProxy.Dashboard.ResponseMatching
import NimbleProxy.Main.BootGuard
import NimbleProxy.Liveness.Watchdog
import NimbleProxy.NatRouter.PortTable
import NimbleProxy.NatRouter.PortMap
import NimbleProxy.NatRouter.PortRequests
import NimbleProxy.NatRouter.SoftAp
import NimbleProxy.NatRouter.Credentials
import NimbleProxy.Backend.PowerOff
import NimbleProxy.Backend.UseAfterDeinit
import NimbleProxy.Backend.DeviceTable
import NimbleProxy.Backend.Bthome
import NimbleProxy.Backend.Eviction
import NimbleProxy.Backend.BthomeValues
import NimbleProxy.Backend.GattPacking
import NimbleProxy.Backend.AdvertBatching
import NimbleProxy.Backend.StaleBatch
import NimbleProxy.Provision.WebFlasher
import NimbleProxy.Provision.SerialProvision
import NimbleProxy.Provision.TokenRoundTrip
import NimbleProxy.Provision.EndToEnd
import NimbleProxy.Api.DevicesJson
import NimbleProxy.Api.DevicesRendering
import NimbleProxy.Api.DevicesCut
import NimbleProxy.Dashboard.JsonRepair
import NimbleProxy.Dashboard.DevicesRepair
import NimbleProxy.Dashboard.Fragmentation
import NimbleProxy.Dashboard.Transports
import NimbleProxy.Dashboard.Calls
import NimbleProxy.Api.SettingsBodies
import NimbleProxy.Clone.Config
import NimbleProxy.Clone.StatusJson
import NimbleProxy.NatRouter.NatJson
import NimbleProxy.Provision.SetupAp
import NimbleProxy.Provision.SetupForm
import NimbleProxy.Provision.LineAssembly
import NimbleProxy.Api.VarintLaws
import NimbleProxy.Clone.MacText
import NimbleProxy.Clone.SeenServices
import NimbleProxy.DhcpsHostname.Registry
import NimbleProxy.DhcpsHostname.Extraction
import NimbleProxy.Liveness.History
import NimbleProxy.Api.WifiHistory
import NimbleProxy.Theory.ProtoReader
import NimbleProxy.Api.Messages
import NimbleProxy.Api.Handshake
import NimbleProxy.Api.Sessions
import NimbleProxy.Api.DiscoveredTable
import NimbleProxy.Theory.Exchanges
import NimbleProxy.Api.GattRequests
import NimbleProxy.Api.GattPeers
import NimbleProxy.Theory.CutLines
import NimbleProxy.Provision.Resending
import NimbleProxy.Provision.Station
