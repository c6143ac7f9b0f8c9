import Umrp.Bridge
import Umrp.ClosedTests
import Umrp.Contest
import Umrp.Detection
import Umrp.Election
import Umrp.Framing
import Umrp.Heap.Runs
import Umrp.Inter.Frames
import Umrp.Inter.Isolation
import Umrp.Inter.LinkCheck
import Umrp.Interconnection
import Umrp.Intervals
import Umrp.LinkSafety
import Umrp.Links.Completion
import Umrp.Links.Repetition
import Umrp.Maid
import Umrp.Netlink.Driver
import Umrp.Netlink.Inside
import Umrp.Opening
import Umrp.Requests
import Umrp.Ring.Client
import Umrp.Ring.Isolation
import Umrp.Ring.Monitor
import Umrp.Ring.PortRole
import Umrp.Ring.Propagation
import Umrp.Roles
import Umrp.System.Capacity
import Umrp.System.NullPorts
import Umrp.System.Separation
import Umrp.Topology.Announcement
import Umrp.Topology.NoTc
import Umrp.Transitions
import Umrp.Truncation
