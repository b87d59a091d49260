import UhdHost.Basic
import UhdHost.DboardRegistry
import UhdHost.DboardManager
import UhdHost.DboardRuns
import UhdHost.PropertyTree
import UhdHost.MultiUsrp
import UhdHost.Topology
import UhdHost.ChannelResolver
import UhdHost.OutOfRange
import UhdHost.FanOut
import UhdHost.RateReadBack
import UhdHost.BoardFanOut
import UhdHost.LiveSpec
import UhdHost.TimeSync
import UhdHost.PpsWait
import UhdHost.SyncCheck
import UhdHost.PrettyPrint
import UhdHost.PpString
import UhdHost.ChannelIsolation
import UhdHost.ChannelSettings
