import TapSwitch.Library.System
import TapSwitch.Library.Trace
import TapSwitch.Library.KeyedMap
import TapSwitch.AudioPath
import TapSwitch.Appliance
import TapSwitch.AudioPathSwitch
import TapSwitch.SwitchBehaviour
import TapSwitch.Session
import TapSwitch.AudioDevice
import TapSwitch.DBusHandlers
import TapSwitch.DBusBehaviour
import TapSwitch.Daemon
import TapSwitch.Queue
import TapSwitch.ReadyState
import TapSwitch.Notification
import TapSwitch.Signals
import TapSwitch.Proxies
import TapSwitch.Announcements
import TapSwitch.Replies
import TapSwitch.Deferred
import TapSwitch.Registry
import TapSwitch.Draining
import TapSwitch.GetPaths
import TapSwitch.Readiness
import TapSwitch.Reports
import TapSwitch.CreationOrder
import TapSwitch.PlayerInstances
import TapSwitch.RequestData
import TapSwitch.ApplianceMemory
import TapSwitch.Board
import TapSwitch.BoardRealization
import TapSwitch.Library.Lifetime
import TapSwitch.ProxyLifetimes
import TapSwitch.HandlerOrder
import TapSwitch.Invocations
import TapSwitch.CommandLine
import TapSwitch.CompletionOrder
import TapSwitch.References
import TapSwitch.Process
