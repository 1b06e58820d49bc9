import XwaylandXdgShell.Basic

/-!
# The bridge's state, and what a handler does to it

`WprsState` holds, of the real `WprsState`, what the handlers of `compositor.rs` read or write:
the registry `surfaces`, the compositor half (`compositor_state`: the unpaired X11 windows,
the outputs and the display's globals, the window-manager session), the client half
(`client_state`: the pixel pool, the last pointer-enter serial, the seat's pointer), the event
loop's queue of idle callbacks, and two logs — the requests sent on the remote connection and
the surfaces whose frame callbacks were fired locally.

A handler takes `&mut WprsState` and returns a `Result`: its `Err` comes back WITH every change
made before the `?` that produced it, and a panic ends the process. `Handler` is that shape
(`Outcome.ok`, `Outcome.err`, `Outcome.panic`), and its monad is the sequencing of Rust's `?`.

The registry is an association list: a `HashMap` has no iteration order a program may rely on,
and the one `find` over it (`find_x11_parent`) has at most one match in every state the event
loop reaches (`Pairing.lean`), so the order of the list decides nothing. `get_mut` is
`AList.replace` (in place), `entry(..).or_insert_with_result` an `AList.insert` of a new key.
-/

namespace XwaylandXdgShell

/-! ## The registry -/

/-- `WprsState::surfaces`, a `HashMap<ObjectId, XWaylandSurface>`. -/
abbrev Surfaces := AList (fun _ : SurfaceId => XWaylandSurface)

/-- `kreplace` changes the value at the first occurrence of its key, and nothing else. -/
theorem dlookup_kreplace {α V : Type} [DecidableEq α] (l : List ((_ : α) × V)) (a k : α)
    (b : V) : (l.kreplace a b).dlookup k =
      if k = a then (l.dlookup a).map (fun _ => b) else l.dlookup k := by
  induction l with
  | nil => split <;> rfl
  | cons e l ih =>
    obtain ⟨a', v⟩ := e
    by_cases ha : a = a'
    · subst ha
      have : (⟨a, v⟩ :: l : List ((_ : α) × V)).kreplace a b = ⟨a, b⟩ :: l :=
        List.lookmap_cons_some _ _ (by simp)
      rw [this]
      by_cases hk : k = a
      · subst hk; simp
      · simp [hk, List.dlookup_cons_ne l ⟨a, b⟩ hk, List.dlookup_cons_ne l ⟨a, v⟩ hk]
    · have : (⟨a', v⟩ :: l : List ((_ : α) × V)).kreplace a b = ⟨a', v⟩ :: l.kreplace a b :=
        List.lookmap_cons_none _ _ (by simpa using ha)
      rw [this]
      by_cases hk : k = a'
      · subst hk
        simp [Ne.symm ha]
      · rw [List.dlookup_cons_ne _ _ hk, ih]
        split <;> simp_all [List.dlookup_cons_ne]

/-- `replace` (`get_mut`) changes the value at its key, if the key is present, and nothing
else. -/
theorem lookup_replace {α V : Type} [DecidableEq α] (s : AList (fun _ : α => V)) (a k : α)
    (b : V) : (s.replace a b).lookup k =
      if k = a then (s.lookup a).map (fun _ => b) else s.lookup k :=
  dlookup_kreplace s.entries a k b

/-! ## The state -/

/-- The display's globals, in creation order (`DisplayHandle::create_global`). -/
structure DisplayHandle where
  globals : List GlobalId
deriving DecidableEq

/-- The window-manager session (`X11Wm`), bound to the nested X server's display. -/
structure X11Wm where
  display : Nat
deriving DecidableEq

/-- `WprsCompositorState`, the fields the handlers use. -/
structure WprsCompositorState where
  dh : DisplayHandle
  outputs : AList (fun _ : UInt32 => Output × GlobalId)
  xwm : Option X11Wm
  /-- Unpaired X11 windows, a `Vec`. -/
  x11Surfaces : List X11Surface
deriving DecidableEq

/-- `WprsCompositorState::new`: no output, no window-manager session, no unpaired window. -/
def WprsCompositorState.new : WprsCompositorState :=
  { dh := ⟨[]⟩, outputs := ∅, xwm := none, x11Surfaces := [] }

/-- A seat of the client connection, by its themed pointer (if it has one). -/
structure SeatObject where
  pointer : Option RemoteId
deriving DecidableEq

/-- The client half: whether `pool` holds a pixel pool, the serial of the last pointer enter,
and the seats (`seat_objects`). -/
structure ClientState where
  pool : Bool
  lastEnterSerial : UInt32
  seatObjects : List SeatObject
deriving DecidableEq

/-- The state the handlers of `compositor.rs` share. -/
structure WprsState where
  surfaces : Surfaces
  compositorState : WprsCompositorState
  clientState : ClientState
  /-- Surfaces whose deferred commit is queued on the event loop (`insert_idle`). -/
  idle : List SurfaceId
  /-- Requests sent on the remote connection, oldest first. -/
  remote : List Request
  /-- Surfaces whose frame callbacks were fired locally (`send_frames`), oldest first. -/
  framesSent : List SurfaceId
deriving DecidableEq

/-- The state at start-up: an empty registry and a fresh compositor half. -/
def WprsState.new (clientState : ClientState) : WprsState :=
  { surfaces := ∅, compositorState := .new, clientState, idle := [], remote := [],
    framesSent := [] }

/-- The state with its unpaired windows replaced. -/
def WprsState.withX11Surfaces (st : WprsState) (l : List X11Surface) : WprsState :=
  { st with compositorState := { st.compositorState with x11Surfaces := l } }

/-- The state with the entry at `surface` changed by `f`, in place (`get_mut`). -/
def WprsState.modifyEntry (st : WprsState) (surface : SurfaceId)
    (f : XWaylandSurface → XWaylandSurface) : WprsState :=
  match st.surfaces.lookup surface with
  | some x => { st with surfaces := st.surfaces.replace surface (f x) }
  | none => st

/-- The state after sending requests on the remote connection. -/
def WprsState.send (st : WprsState) (rs : List Request) : WprsState :=
  { st with remote := st.remote ++ rs }

@[simp] theorem withX11Surfaces_x11Surfaces (st : WprsState) (l : List X11Surface) :
    (st.withX11Surfaces l).compositorState.x11Surfaces = l := rfl

@[simp] theorem withX11Surfaces_surfaces (st : WprsState) (l : List X11Surface) :
    (st.withX11Surfaces l).surfaces = st.surfaces := rfl

@[simp] theorem send_surfaces (st : WprsState) (rs : List Request) :
    (st.send rs).surfaces = st.surfaces := rfl

@[simp] theorem send_x11Surfaces (st : WprsState) (rs : List Request) :
    (st.send rs).compositorState.x11Surfaces = st.compositorState.x11Surfaces := rfl

@[simp] theorem modifyEntry_compositorState (st : WprsState) (s : SurfaceId) (f) :
    (st.modifyEntry s f).compositorState = st.compositorState := by
  unfold WprsState.modifyEntry; split <;> rfl

@[simp] theorem modifyEntry_idle (st : WprsState) (s : SurfaceId) (f) :
    (st.modifyEntry s f).idle = st.idle := by
  unfold WprsState.modifyEntry; split <;> rfl

/-- What `modifyEntry` does to a lookup. -/
theorem lookup_modifyEntry (st : WprsState) (s k : SurfaceId) (f) :
    (st.modifyEntry s f).surfaces.lookup k =
      if k = s then (st.surfaces.lookup s).map f else st.surfaces.lookup k := by
  unfold WprsState.modifyEntry
  split
  next x hx => simp only [lookup_replace, hx, Option.map_some']
  next hx =>
    by_cases h : k = s
    · subst h; simp [hx]
    · simp [h]

/-! ## Handlers -/

/-- How a call that takes `&mut WprsState` and returns `Result<α>` ends. -/
inductive Outcome (α : Type) where
  | ok (value : α) (state : WprsState)
  | err (error : Error) (state : WprsState)
  | panic (panic : Panic)

/-- The state a call leaves behind, if it returns at all. -/
def Outcome.after : Outcome α → Option WprsState
  | .ok _ st => some st
  | .err _ st => some st
  | .panic _ => none

/-- A Rust function over `&mut WprsState` returning `Result<α>`. -/
def Handler (α : Type) : Type := WprsState → Outcome α

instance : Monad Handler where
  pure a st := .ok a st
  bind x f st := match x st with
    | .ok a st' => f a st'
    | .err e st' => .err e st'
    | .panic p => .panic p

/-- Change the state and return. -/
def Handler.modify (f : WprsState → WprsState) : Handler Unit := fun st => .ok () (f st)

/-- Return `Err` through a `?`. -/
def Handler.throw (e : Error) : Handler α := fun st => .err e st

/-- Panic. -/
def Handler.panic (p : Panic) : Handler α := fun _ => .panic p

@[simp] theorem Handler.pure_apply (a : α) (st : WprsState) :
    (pure a : Handler α) st = .ok a st := rfl

@[simp] theorem Handler.bind_apply (x : Handler α) (f : α → Handler β) (st : WprsState) :
    (x >>= f) st = match x st with
      | .ok a st' => f a st'
      | .err e st' => .err e st'
      | .panic p => .panic p := rfl

@[simp] theorem Handler.modify_apply (f : WprsState → WprsState) (st : WprsState) :
    Handler.modify f st = .ok () (f st) := rfl

@[simp] theorem Handler.throw_apply (e : Error) (st : WprsState) :
    (Handler.throw e : Handler α) st = .err e st := rfl

@[simp] theorem Handler.panic_apply (p : Panic) (st : WprsState) :
    (Handler.panic p : Handler α) st = .panic p := rfl

/-- A sequence that returns a state returned it from its first part, or ran its second part
from the state its first part returned. -/
theorem Handler.after_bind {x : Handler α} {f : α → Handler β} {st st'' : WprsState}
    (h : ((x >>= f) st).after = some st'') :
    (∃ e, x st = .err e st'') ∨ ∃ a st', x st = .ok a st' ∧ ((f a) st').after = some st'' := by
  rw [Handler.bind_apply] at h
  cases hx : x st with
  | ok a st' => exact .inr ⟨a, st', rfl, by rwa [hx] at h⟩
  | err e st' => rw [hx] at h; cases h; exact .inl ⟨e, rfl⟩
  | panic p => rw [hx] at h; cases h

/-- A sequence that returned `Err` returned it from its first part, or from its second. -/
theorem Handler.bind_eq_err {x : Handler α} {f : α → Handler β} {st st'' : WprsState}
    {e : Error} (h : (x >>= f) st = .err e st'') :
    x st = .err e st'' ∨ ∃ a st', x st = .ok a st' ∧ f a st' = .err e st'' := by
  rw [Handler.bind_apply] at h
  cases hx : x st <;> simp only [hx] at h
  · exact .inr ⟨_, _, rfl, h⟩
  · cases h; exact .inl rfl
  · cases h

/-! ## `Vec::swap_remove` -/

/-- `Vec::swap_remove`: the element at `index`, and the vector with the last element moved into
its place; `None` where the Rust call panics (an index out of range). -/
def swapRemove (v : List α) (index : Nat) : Option (α × List α) :=
  v[index]?.map fun x => (x, v.dropLast.set index (v.getLastD x))

/-- Taking an element out and putting another in its place reorders the list. -/
theorem getElem_cons_set_perm (v : List α) (i : Nat) (hi : i < v.length) (y : α) :
    (v[i] :: v.set i y).Perm (y :: v) := by
  induction v generalizing i with
  | nil => cases hi
  | cons a t ih =>
    cases i with
    | zero => exact List.Perm.swap y a t
    | succ j =>
      have hj : j < t.length := Nat.lt_of_succ_lt_succ hi
      have := ih j hj
      calc List.Perm (t[j] :: a :: t.set j y) (a :: t[j] :: t.set j y) := .swap a t[j] _
        List.Perm _ (a :: y :: t) := this.cons a
        List.Perm _ (y :: a :: t) := .swap y a t

/-- `swap_remove` loses nothing: the element it returns and the vector it leaves are the
vector it started from, up to order. -/
theorem swapRemove_perm {v rest : List α} {index : Nat} {x : α}
    (h : swapRemove v index = some (x, rest)) : (x :: rest).Perm v := by
  unfold swapRemove at h
  obtain ⟨x', hx', hxr⟩ := Option.map_eq_some'.mp h
  cases hxr
  obtain ⟨hi, rfl⟩ := List.getElem?_eq_some_iff.mp hx'
  have hne : v ≠ [] := List.ne_nil_of_length_pos (by omega)
  have hsplit := List.dropLast_append_getLast hne
  rw [List.getLastD_eq_getLast? , List.getLast?_eq_getLast v hne, Option.getD_some]
  by_cases hd : index < v.dropLast.length
  · have hget : v[index] = v.dropLast[index] := by
      simp only [List.getElem_dropLast]
    rw [hget]
    calc List.Perm (v.dropLast[index] :: v.dropLast.set index (v.getLast hne))
          (v.getLast hne :: v.dropLast) := getElem_cons_set_perm _ _ hd _
      List.Perm _ (v.dropLast ++ [v.getLast hne]) := (List.perm_append_singleton _ _).symm
      _ = v := hsplit
  · have hlen : index = v.dropLast.length := by simp at hd ⊢; omega
    have hlast : v[index] = v.getLast hne := by
      simp only [hlen, List.length_dropLast, List.getLast_eq_getElem]
    rw [List.set_eq_of_length_le (by omega), hlast]
    calc List.Perm (v.getLast hne :: v.dropLast) (v.dropLast ++ [v.getLast hne]) :=
          (List.perm_append_singleton _ _).symm
      _ = v := hsplit

end XwaylandXdgShell
