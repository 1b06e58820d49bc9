import Mathlib.Data.List.AList

/-!
# The objects the commit pipeline reads and writes

`xwayland_xdg_shell/compositor.rs` is the server half of a bridge: Xwayland is its only client,
and every surface that client commits is forwarded to a remote compositor over a second, client
connection. This module fixes the VALUES the pipeline handles — protocol ids, the parts of an
`X11Surface` the code reads, the roles and the registry entry (`XWaylandSurface`), buffer
assignments, output descriptors — and the three ways a handler can end: a value, an `Err` that
the caller logs and ignores, or a panic that ends the process.

Handles into other processes (an `X11Surface`, a remote `Window`) are VALUES here: what the code
reads of them is a field. A window is therefore the same window exactly when its fields agree,
and the window id is what the code compares when it means "the same window".

Fixed-width integers keep their width: X11 window ids and output ids are `UInt32`, coordinates,
sizes, refresh rates and scale factors are `i32`, i.e. `BitVec 32` with wrapping arithmetic.
-/

namespace XwaylandXdgShell

/-! ## Ids and geometry -/

/-- The protocol id (`ObjectId`) of a `wl_surface` of the Xwayland client. -/
abbrev SurfaceId := Nat

/-- An X11 window id (`X11Surface::window_id`, `is_transient_for`). -/
abbrev WindowId := UInt32

/-- An object of the remote connection: a `Window`, an `xdg_surface`, a pointer. -/
abbrev RemoteId := Nat

/-- A client `wl_buffer`, by id; a decoded buffer is named by the buffer it was read from. -/
abbrev BufferId := Nat

/-- A `Point<i32, _>`. -/
structure Point where
  x : BitVec 32
  y : BitVec 32
deriving DecidableEq, Repr

/-- A `Size<i32, _>`. -/
structure Size where
  w : BitVec 32
  h : BitVec 32
deriving DecidableEq, Repr

/-! ## X11 windows and buffers -/

/-- What the pipeline reads of an `X11Surface`: its id, the client surface Xwayland associated
with it (`wl_surface()`), the window it is transient for, its override-redirect flag, and the
origin of its geometry (`geometry().loc`; the size is never read). -/
structure X11Surface where
  windowId : WindowId
  wlSurface : Option SurfaceId
  transientFor : Option WindowId
  overrideRedirect : Bool
  loc : Point
deriving DecidableEq, Repr

/-- `BufferAssignment`: what a commit does to the surface's buffer. -/
inductive BufferAssignment where
  | newBuffer (buffer : BufferId)
  | removed
deriving DecidableEq, Repr

/-- `CursorImageStatus`, with a named cursor by its icon name. -/
inductive CursorImageStatus where
  | hidden
  | surface (surface : SurfaceId)
  | named (name : String)
deriving DecidableEq, Repr

/-! ## Roles and registry entries -/

/-- What the pipeline reads of an `XWaylandXdgToplevel`: its remote window and `xdg_surface`,
the offset of its server-drawn frame, whether the remote has configured it, and whether its
decoration frame is dirty (`window_frame.is_dirty()`). -/
structure XWaylandXdgToplevel where
  localWindow : RemoteId
  xdgSurface : RemoteId
  frameOffset : Point
  configured : Bool
  frameDirty : Bool
deriving DecidableEq, Repr

/-- What the pipeline reads of an `XWaylandXdgPopup`: its remote `xdg_surface`. -/
structure XWaylandXdgPopup where
  xdgSurface : RemoteId
deriving DecidableEq, Repr

/-- `client::Role`. -/
inductive Role where
  | xdgToplevel (toplevel : XWaylandXdgToplevel)
  | xdgPopup (popup : XWaylandXdgPopup)
  | cursor
deriving DecidableEq, Repr

/-- `matches!(role, Some(Role::Cursor))`. -/
def Role.isCursor : Option Role → Bool
  | some .cursor => true
  | _ => false

/-- A registry entry (`XWaylandSurface`): the X11 window it is paired with, its role, the
buffer last decoded into it, and the ids of its child surfaces (a `HashSet`). -/
structure XWaylandSurface where
  x11Surface : Option X11Surface
  role : Option Role
  buffer : Option BufferId
  children : List SurfaceId
deriving DecidableEq, Repr

/-- `X11ParentForPopup`: what a popup needs of its parent. -/
structure X11ParentForPopup where
  surfaceId : SurfaceId
  xdgSurface : RemoteId
  offset : Point
deriving DecidableEq, Repr

/-- `X11Parent`: the parent surface, its toplevel window when it has one, and the popup anchor. -/
structure X11Parent where
  surfaceId : SurfaceId
  forToplevel : Option RemoteId
  forPopup : X11ParentForPopup
deriving DecidableEq, Repr

/-! ## Outputs -/

/-- smithay's `Mode`: a size and a refresh rate. -/
structure Mode where
  size : Size
  refresh : BitVec 32
deriving DecidableEq, Repr

/-- `Subpixel`. -/
inductive Subpixel where
  | unknown
  | none
  | horizontalRgb
  | horizontalBgr
  | verticalRgb
  | verticalBgr
deriving DecidableEq, Repr

/-- `Transform`. -/
inductive Transform where
  | normal
  | _90
  | _180
  | _270
  | flipped
  | flipped90
  | flipped180
  | flipped270
deriving DecidableEq, Repr

/-- `Scale`, in the one form this crate produces. -/
inductive Scale where
  | integer (factor : BitVec 32)
deriving DecidableEq, Repr

/-- `PhysicalProperties`. -/
structure PhysicalProperties where
  size : Size
  subpixel : Subpixel
  make : String
  model : String
deriving DecidableEq, Repr

/-- smithay's `Output`, as the state behind its handle: the modes it advertises, the current
and the preferred one, and the rest of its current state. -/
structure Output where
  name : String
  physicalProperties : PhysicalProperties
  modes : List Mode
  currentMode : Option Mode
  preferredMode : Option Mode
  transform : Transform
  scale : Scale
  location : Point
deriving DecidableEq, Repr

/-- The protocol global created for an output (`GlobalId`). -/
abbrev GlobalId := Nat

/-- The mode part of an output descriptor. -/
structure ModeInfo where
  dimensions : Size
  refreshRate : BitVec 32
  preferred : Bool
deriving DecidableEq, Repr

/-- `serialization::wayland::OutputInfo`, the output descriptor the remote side sends. -/
structure OutputInfo where
  id : UInt32
  name : Option String
  physicalSize : Size
  subpixel : Subpixel
  make : String
  model : String
  mode : ModeInfo
  transform : Transform
  scaleFactor : BitVec 32
  location : Point
deriving DecidableEq, Repr

/-! ## How a handler ends -/

/-- A request the bridge sends on the remote connection. -/
inductive Request where
  /-- `wl_surface().attach(None, 0, 0)`. -/
  | attach (surface : SurfaceId)
  /-- `window_frame.draw()`. -/
  | drawFrame (surface : SurfaceId)
  /-- `XWaylandSurface::frame`. -/
  | frame (surface : SurfaceId)
  /-- `XWaylandSurface::commit`. -/
  | commit (surface : SurfaceId)
  /-- `ThemedPointer::hide_cursor`. -/
  | hideCursor
  /-- `pointer.set_cursor(serial, Some(surface), hotspot.x, hotspot.y)`. -/
  | setCursor (serial : UInt32) (surface : SurfaceId) (hotspot : Point)
  /-- `ThemedPointer::set_cursor(conn, name)`. -/
  | setNamedCursor (name : String)
deriving DecidableEq, Repr

/-- The `?` a handler returned through: which fallible call produced its `Err`. -/
inductive Error where
  /-- `XWaylandSurface::new`, inside `or_insert_with_result` (line 409). -/
  | surfaceNew
  /-- `update_x11_surface` (line 423). -/
  | updateX11Surface
  /-- `with_buffer_contents` could not read the buffer (line 436). -/
  | bufferContents
  /-- `state.client_state.pool` is `None` (line 433). -/
  | noPool
  /-- `update_buffer` (line 437). -/
  | updateBuffer
  /-- `compositor_utils::send_frames` (line 464). -/
  | sendFrames
deriving DecidableEq, Repr

/-- A panic, which ends the process: an `unwrap` on `None` at a line of `compositor.rs`, an
`unreachable!`, a failed `assert!` or an `expect`, each with its message. -/
inductive Panic where
  | unwrapNone (line : Nat)
  | unreachable (message : String)
  | assertion (message : String)
  | expect (message : String)
deriving DecidableEq, Repr

/-- The answers of the collaborators outside this file during one commit: whether
`XWaylandSurface::new`, `update_x11_surface`, `with_buffer_contents`, `update_buffer` and
`send_frames` succeed when called. -/
structure Collaborators where
  surfaceNew : Bool
  updateX11Surface : Bool
  bufferContents : Bool
  updateBuffer : Bool
  sendFrames : Bool
deriving DecidableEq, Repr

end XwaylandXdgShell
