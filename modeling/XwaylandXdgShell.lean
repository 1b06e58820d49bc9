import XwaylandXdgShell.Basic
import XwaylandXdgShell.State
import XwaylandXdgShell.Commit
import XwaylandXdgShell.Output
import XwaylandXdgShell.EventLoop
import XwaylandXdgShell.Updates
import XwaylandXdgShell.Footprint
import XwaylandXdgShell.Pairing
import XwaylandXdgShell.Hierarchy
import XwaylandXdgShell.CommitLaws
import XwaylandXdgShell.Retry
import XwaylandXdgShell.Reliable
import XwaylandXdgShell.Compositor
import XwaylandXdgShell.Buffers
import XwaylandXdgShell.OutputNames
import XwaylandXdgShell.Isolation
import XwaylandXdgShell.Waiting
import XwaylandXdgShell.Remote
import XwaylandXdgShell.Frames
import XwaylandXdgShell.Cursors
