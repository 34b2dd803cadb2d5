import RavennaLkm.UnusedChannels
import RavennaLkm.PacketFit
import RavennaLkm.AddAtomicity
import RavennaLkm.SendOutgoing
import RavennaLkm.Redundancy
import RavennaLkm.Transport
import RavennaLkm.LockSoundness
import RavennaLkm.PeriodBound
import RavennaLkm.TICCount
import RavennaLkm.StreamTable
import RavennaLkm.LockDiscipline
import RavennaLkm.ReaderSafety
import RavennaLkm.SlotReuse
import RavennaLkm.InterfaceNames
import RavennaLkm.RateChange
import RavennaLkm.ChannelRings
import RavennaLkm.StatusEvents
import RavennaLkm.NetlinkPairing
import RavennaLkm.TruthfulReplies
import RavennaLkm.PlaybackFIFO
import RavennaLkm.PlaybackPointer
import RavennaLkm.DMAGeometry
import RavennaLkm.CaptureAlignment
import RavennaLkm.DaemonReplies
import RavennaLkm.PacketDispatch
import RavennaLkm.MuteDecision
import RavennaLkm.FalseAlarms
import RavennaLkm.MutedFlags
import RavennaLkm.FrameVerdict
import RavennaLkm.LegacyButler
import RavennaLkm.IPC
import RavennaLkm.IPCPairing
import RavennaLkm.MuteAction
import RavennaLkm.MessageBounds
import RavennaLkm.ZeroDivisors
import RavennaLkm.Packetisation
import RavennaLkm.SentOnce
import RavennaLkm.PacketBuffers
import RavennaLkm.PlaybackPaths
import RavennaLkm.FormatRoundTrip
import RavennaLkm.CodecRoundTrip
import RavennaLkm.TICRounding
import RavennaLkm.TimeAccumulation
import RavennaLkm.OriginTime
import RavennaLkm.Checksums
import RavennaLkm.SinkStatistics
import RavennaLkm.SourceDescription
import RavennaLkm.CurlPatchSpec
import RavennaLkm.CaptureStream
import RavennaLkm.HostToHost
import RavennaLkm.ChannelIsolation
import RavennaLkm.DriverRuns
import RavennaLkm.SendSafety
import RavennaLkm.StreamsSteps
import RavennaLkm.FaultFree
import RavennaLkm.Lib.Simulation
import RavennaLkm.ManagerClocks
import RavennaLkm.DriverSafety
import RavennaLkm.DriverClocks
