import XwaylandXdgShell.State

/-!
# The commit pipeline

`commit_inner` runs on every commit of an Xwayland surface. It claims the first unpaired X11
window associated with the surface, looks up that window's parent (`find_x11_parent`),
registers the surface among the parent's children, gets or creates the surface's registry
entry, pairs it with the window, applies the buffer assignment, redraws a dirty decoration
frame, asks the remote for a frame callback and commits, and fires the local frame callbacks
of a surface that has no window or is a cursor. `execute_or_defer_commit` runs it and, when
the surface is still neither paired nor a cursor afterwards, queues itself again on the event
loop's idle queue.

Every step is a `Handler` of its own, named after what the source does at those lines, and
`commitInner` is their sequence: the `?`s of the source are the binds. The two functions of
the entry that live outside `compositor.rs` (`XWaylandSurface::new`, `update_x11_surface`) are
modelled from the spec, and whether a collaborator fails is the `Collaborators` argument.

The small lemmas here read single steps: which window the claim takes (`claimFirst_eq_none_iff`,
`claimFirst_spec`), and when the parent lookup panics at its `unwrap` (`findX11Parent_unwrap`),
where else it can panic (`findX11Parent_error`), and what a parent it finds is
(`findX11Parent_eq_some`).
-/

namespace XwaylandXdgShell

/-! ## The entry's own functions -/

/-- Modelled from the spec: `XWaylandSurface::new` (with the entry, outside `compositor.rs`).
§4.1: an entry is created with no role, no buffer and no children, and §4.3 pairs it with a
window only later. -/
def XWaylandSurface.new : XWaylandSurface :=
  { x11Surface := none, role := none, buffer := none, children := [] }

/-- The role an entry takes when it is first paired: a popup for an override-redirect window,
a toplevel otherwise, with its remote objects named by the surface; a new toplevel is not yet
configured and its frame is clean. -/
def roleFor (surface : SurfaceId) (x11Surface : X11Surface) : Role :=
  if x11Surface.overrideRedirect then .xdgPopup ⟨surface⟩
  else .xdgToplevel ⟨surface, surface, ⟨0, 0⟩, false, false⟩

/-- Modelled from the spec: `XWaylandSurface::update_x11_surface` (outside `compositor.rs`).
§4.3 step 2: the claimed window is associated with the surface's entry. The role it leaves is in
neither the spec nor this file; the model keeps a role once given and gives an entry without one
a toplevel or popup role (`roleFor`). No law rests on that choice beyond pairing never making an
entry a cursor. The parent it is passed positions the remote popup, which is not modelled. -/
def XWaylandSurface.updateX11Surface (x : XWaylandSurface) (surface : SurfaceId)
    (x11Surface : X11Surface) : XWaylandSurface :=
  { x with x11Surface := some x11Surface, role := x.role <|> some (roleFor surface x11Surface) }

/-- `XWaylandSurface::get_x11_surface`: the window attached to the entry; `find_x11_parent`
reports its absence as "has no attached x11 surface". -/
def XWaylandSurface.getX11Surface (x : XWaylandSurface) : Option X11Surface := x.x11Surface

/-- The decoration test of lines 446-447: a configured toplevel whose frame is dirty. -/
def XWaylandSurface.frameDirty (x : XWaylandSurface) : Bool :=
  match x.role with
  | some (.xdgToplevel toplevel) => toplevel.configured && toplevel.frameDirty
  | _ => false

/-- The entry after `toplevel.window_frame.draw()` (line 448): its frame is clean. -/
def XWaylandSurface.drawFrame (x : XWaylandSurface) : XWaylandSurface :=
  match x.role with
  | some (.xdgToplevel toplevel) =>
    { x with role := some (.xdgToplevel { toplevel with frameDirty := false }) }
  | _ => x

theorem drawFrame_x11Surface (x : XWaylandSurface) : x.drawFrame.x11Surface = x.x11Surface := by
  unfold XWaylandSurface.drawFrame; split <;> rfl

theorem drawFrame_children (x : XWaylandSurface) : x.drawFrame.children = x.children := by
  unfold XWaylandSurface.drawFrame; split <;> rfl

theorem drawFrame_isCursor (x : XWaylandSurface) :
    Role.isCursor x.drawFrame.role = Role.isCursor x.role := by
  unfold XWaylandSurface.drawFrame; split <;> simp_all [Role.isCursor]

/-! ## `find_x11_parent` -/

/-- Whether an entry is paired with the window `windowId`: `xwls.x11_surface.as_ref()
.map_or(false, |s| s.window_id() == parent_id)`. -/
def XWaylandSurface.pairedWith (x : XWaylandSurface) (windowId : WindowId) : Bool :=
  x.x11Surface.any (·.windowId == windowId)

/-- `find_x11_parent` (lines 307-363): for a window transient for another, the entry paired
with that other window, as a toplevel parent (its window and the offset of the child in its
frame) or a popup parent. The search over the registry `unwrap`s: no paired entry panics at
line 321, a cursor or a roleless parent at the `unreachable!`s. -/
def findX11Parent (state : WprsState) (x11Surface : Option X11Surface) :
    Except Panic (Option X11Parent) :=
  match x11Surface with
  | none => .ok none
  | some x11Surface =>
    match x11Surface.transientFor with
    | none => .ok none
    | some parentId =>
      match state.surfaces.entries.find? (fun e => e.2.pairedWith parentId) with
      | none => .error (.unwrapNone 321)
      | some ⟨parentId, parent⟩ =>
        match parent.getX11Surface with
        | none => .ok none
        | some parentX11Surface =>
          let geo := parentX11Surface.loc
          match parent.role with
          | some (.xdgToplevel toplevel) =>
            .ok (some { surfaceId := parentId, forToplevel := some toplevel.localWindow,
                        forPopup := { surfaceId := parentId, xdgSurface := toplevel.xdgSurface,
                                      offset := ⟨-geo.x + toplevel.frameOffset.x,
                                                 -geo.y + toplevel.frameOffset.y⟩ } })
          | some (.xdgPopup popup) =>
            .ok (some { surfaceId := parentId, forToplevel := none,
                        forPopup := { surfaceId := parentId, xdgSurface := popup.xdgSurface,
                                      offset := ⟨-geo.x, -geo.y⟩ } })
          | some .cursor => .error (.unreachable "Cursors cannot have child surfaces.")
          | none => .error
              (.unreachable "Parent doesn't yet have a role assigned. This is a race condition.")

/-- The lookup panics at its `unwrap` exactly when the window is transient for a window that
no entry is paired with. -/
theorem findX11Parent_unwrap (state : WprsState) (x11Surface : X11Surface) :
    findX11Parent state (some x11Surface) = .error (.unwrapNone 321) ↔
      ∃ parentId, x11Surface.transientFor = some parentId ∧
        ∀ e ∈ state.surfaces.entries, e.2.pairedWith parentId = false := by
  simp only [findX11Parent]
  split
  next => simp_all
  next parentId hp =>
    split
    next hf => simpa [hp] using hf
    next e hf =>
      have hfound := List.find?_some hf
      simp only [hp, Option.some.injEq, exists_eq_left']
      constructor
      · intro h
        split at h <;> (try split at h) <;> simp_all
      · intro h
        exact absurd (h _ (List.mem_of_find?_eq_some hf)) (by simp [hfound])

/-- The lookup panics at its `unwrap` or at one of its two `unreachable!`s. -/
theorem findX11Parent_error {state : WprsState} {x11Surface : Option X11Surface} {p : Panic}
    (h : findX11Parent state x11Surface = .error p) :
    p = .unwrapNone 321 ∨ p = .unreachable "Cursors cannot have child surfaces." ∨
      p = .unreachable "Parent doesn't yet have a role assigned. This is a race condition." := by
  simp only [findX11Parent] at h
  repeat' split at h
  all_goals cases h
  all_goals simp

/-- A parent the lookup returns is an entry of the registry paired with the window the claimed
window is transient for. -/
theorem findX11Parent_eq_some {state : WprsState} {x11Surface : Option X11Surface}
    {parent : X11Parent} (h : findX11Parent state x11Surface = .ok (some parent)) :
    ∃ w parentId p, x11Surface = some w ∧ w.transientFor = some parentId ∧
      state.surfaces.lookup parent.surfaceId = some p ∧ p.pairedWith parentId = true := by
  simp only [findX11Parent] at h
  split at h
  · cases h
  next w =>
    split at h
    · cases h
    next parentId hp =>
      split at h
      · cases h
      next k p hf =>
        have hmem := AList.mem_lookup_iff.mpr (List.mem_of_find?_eq_some hf)
        have hpaired : p.pairedWith parentId = true := by simpa using List.find?_some hf
        split at h
        · cases h
        · split at h <;> cases h <;> exact ⟨w, parentId, p, rfl, hp, hmem, hpaired⟩

/-! ## The steps of `commit_inner` -/

/-- Lines 372-377: `position` finds the first unpaired window whose `wl_surface` is `surface`,
and `swap_remove` takes it out of `x11_surfaces`. -/
def claimFirst (surface : SurfaceId) (x11Surfaces : List X11Surface) :
    Option (X11Surface × List X11Surface) :=
  (x11Surfaces.findIdx? fun x11s => (x11s.wlSurface.map (· == surface)).getD false).bind
    (swapRemove x11Surfaces)

/-- The claim of lines 372-377, on the state. -/
def claimX11Surface (surface : SurfaceId) : Handler (Option X11Surface) := fun st =>
  match claimFirst surface st.compositorState.x11Surfaces with
  | some (x11Surface, rest) => .ok (some x11Surface) (st.withX11Surfaces rest)
  | none => .ok none st

/-- Line 380: `find_x11_parent`, whose panics end the commit. -/
def resolveParent (x11Surface : Option X11Surface) : Handler (Option X11Parent) := fun st =>
  match findX11Parent st x11Surface with
  | .ok parent => .ok parent st
  | .error p => .panic p

/-- Lines 382-396: a freshly claimed window with a parent registers the surface among the
parent's children, once the surface is shown not to be its own parent. -/
def registerChild (surface : SurfaceId) (parent : Option X11Parent)
    (x11Surface : Option X11Surface) : Handler Unit :=
  match parent, x11Surface with
  | some parent, some _ =>
    if surface = parent.surfaceId then
      .panic (.assertion "tried to register a surface as a child of itself")
    else fun st =>
      match st.surfaces.lookup parent.surfaceId with
      | some _ => .ok () (st.modifyEntry parent.surfaceId
          fun p => { p with children := p.children.insert surface })
      | none => .panic (.unwrapNone 394)
  | _, _ => pure ()

/-- Lines 398-409: the surface's entry, created by `XWaylandSurface::new` when there is none;
a failure of `new` returns before anything is inserted. -/
def entryOrInsert (co : Collaborators) (surface : SurfaceId) : Handler Unit := fun st =>
  match st.surfaces.lookup surface with
  | some _ => .ok () st
  | none =>
    if co.surfaceNew then .ok () { st with surfaces := st.surfaces.insert surface .new }
    else .err .surfaceNew st

/-- Lines 411-424: the claimed window is handed to `update_x11_surface`. -/
def pairX11Surface (co : Collaborators) (surface : SurfaceId)
    (x11Surface : Option X11Surface) : Handler Unit :=
  match x11Surface with
  | some x11Surface =>
    if co.updateX11Surface then
      .modify (·.modifyEntry surface (·.updateX11Surface surface x11Surface))
    else .throw .updateX11Surface
  | none => pure ()

/-- Lines 426-444: a new buffer is read (`with_buffer_contents`) and decoded into the pool
(`update_buffer`); a removed one is cleared and the remote surface detached. -/
def applyBuffer (co : Collaborators) (surface : SurfaceId)
    (buffer : Option BufferAssignment) : Handler Unit :=
  match buffer with
  | some (.newBuffer b) => fun st =>
    if !co.bufferContents then .err .bufferContents st
    else if !st.clientState.pool then .err .noPool st
    else if !co.updateBuffer then .err .updateBuffer st
    else .ok () (st.modifyEntry surface fun x => { x with buffer := some b })
  | some .removed => .modify fun st =>
    (st.modifyEntry surface fun x => { x with buffer := none }).send [.attach surface]
  | none => pure ()

/-- Lines 446-450: a configured toplevel with a dirty frame has its frame redrawn. -/
def drawWindowFrame (surface : SurfaceId) : Handler Unit := fun st =>
  match st.surfaces.lookup surface with
  | some x =>
    if x.frameDirty then
      .ok () ((st.modifyEntry surface XWaylandSurface.drawFrame).send [.drawFrame surface])
    else .ok () st
  | none => .ok () st

/-- Lines 452-453: a frame request, then the commit, on the remote surface. -/
def frameAndCommit (surface : SurfaceId) : Handler Unit :=
  .modify (·.send [.frame surface, .commit surface])

/-- Lines 455-465: a surface with no X11 window, or a cursor, has nothing remote to wait for,
so its frame callbacks fire now. -/
def sendFramesIfLocal (co : Collaborators) (surface : SurfaceId) : Handler Unit := fun st =>
  match st.surfaces.lookup surface with
  | some x =>
    if x.x11Surface.isNone || Role.isCursor x.role then
      if co.sendFrames then .ok () { st with framesSent := st.framesSent ++ [surface] }
      else .err .sendFrames st
    else .ok () st
  | none => .ok () st

/-- Lines 426-467: the buffer, the decoration, the remote commit and the local callbacks. -/
def presentEntry (co : Collaborators) (surface : SurfaceId) (buffer : Option BufferAssignment) :
    Handler Unit := do
  applyBuffer co surface buffer
  drawWindowFrame surface
  frameAndCommit surface
  sendFramesIfLocal co surface

/-- Lines 398-467: everything `commit_inner` does on the surface's own entry once the parent is
registered. -/
def updateEntry (co : Collaborators) (surface : SurfaceId) (x11Surface : Option X11Surface)
    (buffer : Option BufferAssignment) : Handler Unit := do
  entryOrInsert co surface
  pairX11Surface co surface x11Surface
  presentEntry co surface buffer

/-- `commit_inner` (lines 366-467), reading `buffer` from the surface's current cached state. -/
def commitInner (co : Collaborators) (surface : SurfaceId) (buffer : Option BufferAssignment) :
    Handler Unit := do
  let x11Surface ← claimX11Surface surface
  let parent ← resolveParent x11Surface
  registerChild surface parent x11Surface
  updateEntry co surface x11Surface buffer

/-- `commit` (lines 283-291): `commit_inner` on the surface's state; the buffer handler run after
it belongs to the protocol substrate. -/
def commit (co : Collaborators) (surface : SurfaceId) (buffer : Option BufferAssignment) :
    Handler Unit :=
  commitInner co surface buffer

/-- Lines 241-260: a surface that is neither paired nor a cursor queues its commit again. -/
def deferUnlessPaired (surface : SurfaceId) : Handler Unit := fun st =>
  let xwaylandSurface := st.surfaces.lookup surface
  let isCursor := xwaylandSurface.any (Role.isCursor ·.role)
  if !(xwaylandSurface.any (·.x11Surface.isSome) || isCursor) then
    .ok () { st with idle := st.idle ++ [surface] }
  else .ok () st

/-- `execute_or_defer_commit` (lines 238-262): the commit, and its retry when it could not pair.
An `Err` of the commit returns before the retry is queued. -/
def executeOrDeferCommit (co : Collaborators) (surface : SurfaceId)
    (buffer : Option BufferAssignment) : Handler Unit := do
  commit co surface buffer
  deferUnlessPaired surface

/-! ## The claim -/

@[simp] theorem wlSurface_matches (x11s : X11Surface) (surface : SurfaceId) :
    ((x11s.wlSurface.map (· == surface)).getD false = true) ↔ x11s.wlSurface = some surface := by
  cases x11s.wlSurface <;> simp

/-- A swap-remove at a valid index returns. -/
theorem swapRemove_isSome (v : List α) {i : Nat} (h : i < v.length) :
    (swapRemove v i).isSome := by
  simp [swapRemove, List.getElem?_eq_getElem h]

/-- No window is claimed exactly when no unpaired window is associated with the surface. -/
theorem claimFirst_eq_none_iff (surface : SurfaceId) (l : List X11Surface) :
    claimFirst surface l = none ↔ ∀ w ∈ l, w.wlSurface ≠ some surface := by
  unfold claimFirst
  cases hi : l.findIdx? fun x11s => (x11s.wlSurface.map (· == surface)).getD false with
  | none =>
    simp only [Option.none_bind, true_iff]
    intro w hw he
    simpa [he] using List.findIdx?_eq_none_iff.mp hi w hw
  | some i =>
    obtain ⟨hlt, hp, -⟩ := List.findIdx?_eq_some_iff_getElem.mp hi
    have hs := swapRemove_isSome l hlt
    constructor
    · intro h
      simp_all
    · intro h
      exact absurd (by simpa using hp) (h _ (List.getElem_mem hlt))

/-- A claimed window is associated with the surface, and the claim only takes it out. -/
theorem claimFirst_spec {surface : SurfaceId} {l rest : List X11Surface} {w : X11Surface}
    (h : claimFirst surface l = some (w, rest)) :
    w.wlSurface = some surface ∧ (w :: rest).Perm l := by
  unfold claimFirst at h
  obtain ⟨i, hi, hs⟩ := Option.bind_eq_some.mp h
  obtain ⟨hlt, hp, -⟩ := List.findIdx?_eq_some_iff_getElem.mp hi
  have hw : l[i] = w := by
    simp only [swapRemove, List.getElem?_eq_getElem hlt, Option.map_some',
      Option.some.injEq, Prod.mk.injEq] at hs
    exact hs.1
  exact ⟨by simpa [← hw] using hp, swapRemove_perm hs⟩

end XwaylandXdgShell
