import ZyAgf.Gtpu.Tunnel
import ZyAgf.Library.Blocks
import ZyAgf.Library.Chain
import ZyAgf.Library.Crc
import ZyAgf.Library.EndPoints
import ZyAgf.Library.Framing
import ZyAgf.Library.OnesComplement
import ZyAgf.Library.Prog
import ZyAgf.Library.Run
import ZyAgf.Library.Serial
import ZyAgf.Library.Store
import ZyAgf.Library.Total
import ZyAgf.Md5.Context
import ZyAgf.Md5.Digest
import ZyAgf.Md5.Transform
import ZyAgf.Pppoe.AddressPool
import ZyAgf.Pppoe.AsyncPpp
import ZyAgf.Pppoe.ClampMss
import ZyAgf.Pppoe.ClampResult
import ZyAgf.Pppoe.ClampSafety
import ZyAgf.Pppoe.Client
import ZyAgf.Pppoe.ClientDeadline
import ZyAgf.Pppoe.ClientDiscovery
import ZyAgf.Pppoe.ClientEcho
import ZyAgf.Pppoe.ClientPhases
import ZyAgf.Pppoe.ClientSession
import ZyAgf.Pppoe.ClientStale
import ZyAgf.Pppoe.ClientWait
import ZyAgf.Pppoe.ControlDispatch
import ZyAgf.Pppoe.ControlQuoting
import ZyAgf.Pppoe.ControlSocket
import ZyAgf.Pppoe.DiscoveryFrames
import ZyAgf.Pppoe.DiscoveryPadt
import ZyAgf.Pppoe.DiscoveryRequests
import ZyAgf.Pppoe.EventChildren
import ZyAgf.Pppoe.EventLists
import ZyAgf.Pppoe.EventLoop
import ZyAgf.Pppoe.EventReentry
import ZyAgf.Pppoe.EventRuns
import ZyAgf.Pppoe.EventSignals
import ZyAgf.Pppoe.EventTcp
import ZyAgf.Pppoe.EventTcpLink
import ZyAgf.Pppoe.Handshake
import ZyAgf.Pppoe.HashTable
import ZyAgf.Pppoe.Lan
import ZyAgf.Pppoe.LanAgreement
import ZyAgf.Pppoe.LanProgress
import ZyAgf.Pppoe.Packet
import ZyAgf.Pppoe.Relay
import ZyAgf.Pppoe.RelayAgreement
import ZyAgf.Pppoe.RelayClean
import ZyAgf.Pppoe.RelayEgress
import ZyAgf.Pppoe.RelayIngress
import ZyAgf.Pppoe.RelayLookup
import ZyAgf.Pppoe.RelayOps
import ZyAgf.Pppoe.RelayRouting
import ZyAgf.Pppoe.RelayRun
import ZyAgf.Pppoe.RelaySessions
import ZyAgf.Pppoe.RelayTable
import ZyAgf.Pppoe.Server
import ZyAgf.Pppoe.ServerAccept
import ZyAgf.Pppoe.ServerAnnounce
import ZyAgf.Pppoe.ServerDrain
import ZyAgf.Pppoe.ServerFrames
import ZyAgf.Pppoe.ServerGrants
import ZyAgf.Pppoe.ServerPadt
import ZyAgf.Pppoe.ServerReply
import ZyAgf.Pppoe.ServerSecrecy
import ZyAgf.Pppoe.ServerSlots
import ZyAgf.Pppoe.ServerStatics
import ZyAgf.Pppoe.ServerTable
import ZyAgf.Pppoe.ServerTurns
import ZyAgf.Pppoe.SessionLine
import ZyAgf.Pppoe.StatusFilter
import ZyAgf.Pppoe.StringCopy
import ZyAgf.Pppoe.TagEdit
import ZyAgf.Pppoe.TagInsertion
import ZyAgf.Pppoe.TagWalk
import ZyAgf.Pppoe.Tags
import ZyAgf.Xl2tpd.Aaa
import ZyAgf.Xl2tpd.AbsentLac
import ZyAgf.Xl2tpd.Acknowledged
import ZyAgf.Xl2tpd.Addresses
import ZyAgf.Xl2tpd.Answered
import ZyAgf.Xl2tpd.Authenticated
import ZyAgf.Xl2tpd.Authentication
import ZyAgf.Xl2tpd.Avp
import ZyAgf.Xl2tpd.AvpBounds
import ZyAgf.Xl2tpd.AvpOutcome
import ZyAgf.Xl2tpd.AvpTouches
import ZyAgf.Xl2tpd.AvpTrace
import ZyAgf.Xl2tpd.BufferBounds
import ZyAgf.Xl2tpd.CallDisconnect
import ZyAgf.Xl2tpd.Close
import ZyAgf.Xl2tpd.CloseEffects
import ZyAgf.Xl2tpd.ClosingHandshake
import ZyAgf.Xl2tpd.CommandAdd
import ZyAgf.Xl2tpd.ConfigEntries
import ZyAgf.Xl2tpd.ConfigFile
import ZyAgf.Xl2tpd.ControlBuild
import ZyAgf.Xl2tpd.ControlChannel
import ZyAgf.Xl2tpd.ControlMessage
import ZyAgf.Xl2tpd.ControlPipe
import ZyAgf.Xl2tpd.ControlRoundTrip
import ZyAgf.Xl2tpd.ControlStep
import ZyAgf.Xl2tpd.Daemon
import ZyAgf.Xl2tpd.DataPath
import ZyAgf.Xl2tpd.DataPathRun
import ZyAgf.Xl2tpd.DataSequencing
import ZyAgf.Xl2tpd.Duplicates
import ZyAgf.Xl2tpd.EventLedger
import ZyAgf.Xl2tpd.FdSet
import ZyAgf.Xl2tpd.Finish
import ZyAgf.Xl2tpd.FrameCheck
import ZyAgf.Xl2tpd.Growth
import ZyAgf.Xl2tpd.HandledCall
import ZyAgf.Xl2tpd.HeaderOrder
import ZyAgf.Xl2tpd.HiddenAvp
import ZyAgf.Xl2tpd.Identifiers
import ZyAgf.Xl2tpd.IncomingCall
import ZyAgf.Xl2tpd.Lasts
import ZyAgf.Xl2tpd.Layout
import ZyAgf.Xl2tpd.LedgerMirrors
import ZyAgf.Xl2tpd.Linked
import ZyAgf.Xl2tpd.Lists
import ZyAgf.Xl2tpd.Mandatory
import ZyAgf.Xl2tpd.Memory
import ZyAgf.Xl2tpd.Message
import ZyAgf.Xl2tpd.Operations
import ZyAgf.Xl2tpd.OptionLines
import ZyAgf.Xl2tpd.OptionTitles
import ZyAgf.Xl2tpd.Options
import ZyAgf.Xl2tpd.OwedAcks
import ZyAgf.Xl2tpd.Payload
import ZyAgf.Xl2tpd.PayloadRoundTrip
import ZyAgf.Xl2tpd.Performed
import ZyAgf.Xl2tpd.PerformedDaemon
import ZyAgf.Xl2tpd.PerformedFinish
import ZyAgf.Xl2tpd.PerformedReceive
import ZyAgf.Xl2tpd.PerformedRun
import ZyAgf.Xl2tpd.PerformedStep
import ZyAgf.Xl2tpd.PtyFraming
import ZyAgf.Xl2tpd.PtyPackets
import ZyAgf.Xl2tpd.Purge
import ZyAgf.Xl2tpd.PurgeRuns
import ZyAgf.Xl2tpd.RangeSyntax
import ZyAgf.Xl2tpd.Ranges
import ZyAgf.Xl2tpd.ReadResult
import ZyAgf.Xl2tpd.Receive
import ZyAgf.Xl2tpd.RecordTies
import ZyAgf.Xl2tpd.RejectedOptions
import ZyAgf.Xl2tpd.Retransmission
import ZyAgf.Xl2tpd.Scheduler
import ZyAgf.Xl2tpd.Secrets
import ZyAgf.Xl2tpd.SelfHeld
import ZyAgf.Xl2tpd.Sequencing
import ZyAgf.Xl2tpd.State
import ZyAgf.Xl2tpd.StateGuard
import ZyAgf.Xl2tpd.SyncToAsync
import ZyAgf.Xl2tpd.TieSteps
import ZyAgf.Xl2tpd.TiesOnly
import ZyAgf.Xl2tpd.TiesOnlyDaemon
import ZyAgf.Xl2tpd.TiesOnlyDial
import ZyAgf.Xl2tpd.TiesOnlyFinish
import ZyAgf.Xl2tpd.Undeliverable
import ZyAgf.Xl2tpd.Wire
