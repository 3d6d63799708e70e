import Anyserial.Kit.Transition
import Anyserial.Kit.FairLock
import Anyserial.Kit.Turns
import Anyserial.Kit.BitField
import Anyserial.Exceptions
import Anyserial.Config
import Anyserial.Posix.HostProperties
import Anyserial.Posix.BackendProperties
import Anyserial.Posix.TermiosApplyProperties
import Anyserial.Posix.IoctlProperties
import Anyserial.Posix.PipelineProperties
import Anyserial.Posix.CommitProperties
import Anyserial.Posix.UnsupportedProperties
import Anyserial.Darwin.BackendProperties
import Anyserial.CustomBaudProperties
import Anyserial.Bsd.Backend
import Anyserial.Linux.TermiosProperties
import Anyserial.Linux.CustomBaudProperties
import Anyserial.Linux.BackendProperties
import Anyserial.Linux.LifecycleProperties
import Anyserial.Linux.ReconfigurationProperties
import Anyserial.Linux.PathProperties
import Anyserial.Stream.TeardownProperties
import Anyserial.Stream.PortProperties
import Anyserial.Stream.SegmentProperties
import Anyserial.Stream.IntegrityProperties
import Anyserial.Stream.ClosedProperties
import Anyserial.SyncProperties
import Anyserial.Windows.Dcb
import Anyserial.Windows.Kernel32
import Anyserial.Windows.Backend
import Anyserial.Windows.BackendProperties
import Anyserial.UnsupportedPolicyProperties
import Anyserial.Windows.HotPath
import Anyserial.Windows.HotPathProperties
import Anyserial.BreakProperties
import Anyserial.Posix.Containment
import Anyserial.SyncPortalProperties
import Anyserial.Darwin.DiscoveryProperties
import Anyserial.Windows.DcbProperties
import Anyserial.Linux.RS485CodecProperties
import Anyserial.Linux.Termios2Properties
import Anyserial.BaudRejectionProperties
import Anyserial.Linux.DiscoveryProperties
import Anyserial.Linux.PathSpellingProperties
import Anyserial.Linux.PortSearchProperties
import Anyserial.Windows.DiscoveryProperties
import Anyserial.Windows.PortNameProperties
import Anyserial.Stream.BufferProperties
import Anyserial.Linux.SharedDeviceProperties
import Anyserial.EscapeProperties
import Anyserial.Kit.Conveyance
import Anyserial.Kit.Ownership
import Anyserial.Mock.DuplexProperties
import Anyserial.Mock.SignalProperties
import Anyserial.Mock.ProgressProperties
import Anyserial.Windows.CommEventProperties
import Anyserial.Kit.Lanes
import Anyserial.Kit.Queueing
import Anyserial.Stream.ConfigureLockProperties
import Anyserial.Windows.ConfigureLockProperties
import Anyserial.Windows.PortSettingsProperties
