import IpxWrapper.Base.Loop
import IpxWrapper.Base.Chain
import IpxWrapper.Base.Bytes
import IpxWrapper.Base.Ledger
import IpxWrapper.Base.Run
import IpxWrapper.Base.Slots
import IpxWrapper.Base.LockProg
import IpxWrapper.Base.LockThreads
import IpxWrapper.Winsock
import IpxWrapper.Addr
import IpxWrapper.Interface
import IpxWrapper.Packet
import IpxWrapper.DosboxRecv
import IpxWrapper.Coalesce
import IpxWrapper.CoalesceLedger
import IpxWrapper.CoalesceDelivery
import IpxWrapper.CoalesceRun
import IpxWrapper.CoalesceCorrectness
import IpxWrapper.CoalescePending
import IpxWrapper.Router
import IpxWrapper.RouterRuns
import IpxWrapper.RecvQueue
import IpxWrapper.RecvQueueInv
import IpxWrapper.RecvQueueRuns
import IpxWrapper.RecvQueueLifetime
import IpxWrapper.SocketTable
import IpxWrapper.SocketTableInv
import IpxWrapper.SocketTableRuns
import IpxWrapper.LockedWrappers
import IpxWrapper.LockedConnect
import IpxWrapper.LockLevels
import IpxWrapper.ReadyWait
import IpxWrapper.SpxLookup
import IpxWrapper.SpxSetup
import IpxWrapper.SpxSetupRuns
import IpxWrapper.AddrCache
import IpxWrapper.SendPacket
import IpxWrapper.SendPacketReports
import IpxWrapper.Ethernet
import IpxWrapper.PcapRecv
import IpxWrapper.SocketNumbers
import IpxWrapper.SocketNumbersInv
import IpxWrapper.SocketNumbersCalls
import IpxWrapper.SocketNumbersRuns
import IpxWrapper.DeliverPacket
import IpxWrapper.UdpRecv
import IpxWrapper.DosboxSend
import IpxWrapper.PayloadFidelity
import IpxWrapper.SpxNetwork
import IpxWrapper.SpxProcess
import IpxWrapper.SpxNetworkSteps
import IpxWrapper.SpxLookupSafety
import IpxWrapper.SpxAgreement
import IpxWrapper.Base.Window
import IpxWrapper.Clock
import IpxWrapper.CoalesceRate
import IpxWrapper.CoalesceNodes
import IpxWrapper.RouterWait
import IpxWrapper.Broadcasts
import IpxWrapper.Adapters
import IpxWrapper.OwnPackets
import IpxWrapper.ImplicitBind
import IpxWrapper.SendLengths
import IpxWrapper.UnderlyingRecv
import IpxWrapper.UnderlyingRecvRuns
import IpxWrapper.TableRaces
import IpxWrapper.RecvQueueFull
import IpxWrapper.ClockAccuracy
import IpxWrapper.Base.Tally
import IpxWrapper.Ratelimit
import IpxWrapper.Select
import IpxWrapper.AddrString
import IpxWrapper.RouteMask
import IpxWrapper.ShownIfaces
import IpxWrapper.AddrCanonical
import IpxWrapper.Config
import IpxWrapper.PrimaryIface
import IpxWrapper.RatelimitGuarantee
import IpxWrapper.Base.Expiry
import IpxWrapper.AddrCacheRuns
import IpxWrapper.MainConfig
import IpxWrapper.AddrEdits
import IpxWrapper.DynamicBind
import IpxWrapper.DirectPlayRuns
import IpxWrapper.DirectPlayCalls
import IpxWrapper.DirectPlayLock
import IpxWrapper.Base.LockOwner
import IpxWrapper.DirectPlay
import IpxWrapper.DirectPlaySockets
import IpxWrapper.Base.DlList
import IpxWrapper.Base.DlWalk
import IpxWrapper.InterfaceCache
import IpxWrapper.InterfaceCacheCalls
import IpxWrapper.InterfaceCacheRuns
import IpxWrapper.Base.Region
import IpxWrapper.EnumProtocols
import IpxWrapper.EnumProtocolsLayout
import IpxWrapper.EnumProtocolsBuffer
import IpxWrapper.Base.Links
import IpxWrapper.UtHash
import IpxWrapper.UtHashInv
import IpxWrapper.UtHashRuns
import IpxWrapper.AddrCacheTable
import IpxWrapper.Base.Cut
import IpxWrapper.Ini
import IpxWrapper.IniGrammar
import IpxWrapper.IniRuns
import IpxWrapper.IniWritten
import IpxWrapper.IniConfig
import IpxWrapper.IniConfigWritten
import IpxWrapper.CoalesceArrival
import IpxWrapper.UdpNetwork
import IpxWrapper.Base.LockCalls
import IpxWrapper.CallRuns
