import XwaylandXdgShell.Commit
import XwaylandXdgShell.Output

/-!
# The event loop

One thread runs every handler, one event at a time: a client commit, a queued retry of a
deferred commit, a window the window manager lists as unpaired, a new cursor image, an output
descriptor, the nested X server becoming ready or exiting. An `Err` a handler returns is logged
and ignored (`log_and_ignore`) — the state it leaves stays — and a panic ends the process.

`Run` is a run of that loop: every order of events the loop may see, each retry running any
time after it was queued, each window added in a state chosen by an admission rule (`Admit`).
The rule stands for what the window manager guarantees about the windows it lists (fresh ids, a
parent listed first), so that a property can be stated for the window managers that keep such a
guarantee. A property of every state a `Run` reaches is a property of every interleaving;
`Run.inv` packages "holds at the start and is kept by every event" once. `run_eq_iff_Run` says
that the runs admitting every window are what the loop itself (`run`) computes.

The window manager's own handlers (which push to `x11_surfaces`) are outside this file: adding
a window is an event of the loop, with the window's fields as Xwayland reports them.
-/

namespace XwaylandXdgShell

/-! ## The other handlers -/

/-- `SeatHandler::cursor_image` (lines 485-542) on the last seat's pointer. The hotspot is what
the surface's `CursorImageSurfaceData` holds (`None`: there is none, and the `unwrap` at line 507
panics); `shown` is whether the pointer could change its image (`hide_cursor` and a themed
`set_cursor` fail without an enter serial, which is logged and ignored). A surface-backed
cursor gets its entry, becomes a `Cursor`, and is shown at its hotspot under the last enter
serial; when its entry cannot be created the handler logs and returns. -/
def cursorImage (co : Collaborators) (image : CursorImageStatus) (hotspot : Option Point)
    (shown : Bool) : Handler Unit := fun st =>
  match st.clientState.seatObjects.getLast? with
  | none => .panic (.unwrapNone 491)
  | some seat =>
    match seat.pointer with
    | none => .panic (.unwrapNone 494)
    | some _ =>
      match image with
      | .hidden => .ok () (if shown then st.send [.hideCursor] else st)
      | .surface surface =>
        match hotspot with
        | none => .panic (.unwrapNone 507)
        | some hotspot =>
          match entryOrInsert co surface st with
          | .ok () st' => .ok () ((st'.modifyEntry surface fun x => { x with role := some .cursor }).send
              [.setCursor st'.clientState.lastEnterSerial surface hotspot])
          | _ => .ok () st
      | .named name => .ok () (if shown then st.send [.setNamedCursor name] else st)

/-- The XWayland source's callback (lines 130-154) on a readiness signal for `display`:
the window manager is started and the WM name set, each `expect`ed (`wmStarted`, `wmNamed`:
whether they succeed), and the session is kept. -/
def xwaylandReady (display : Nat) (wmStarted wmNamed : Bool) : Handler Unit := fun st =>
  if !wmStarted then .panic (.expect "Failed to attach X11 Window Manager.")
  else if !wmNamed then .panic (.expect "Failed to set WM name.")
  else .ok () { st with compositorState := { st.compositorState with xwm := some ⟨display⟩ } }

/-- A readiness signal that does not abort leaves the session on its display and changes nothing
else. -/
theorem xwaylandReady_after {display : Nat} {wmStarted wmNamed : Bool} {st st' : WprsState}
    (h : (xwaylandReady display wmStarted wmNamed st).after = some st') :
    st' = { st with compositorState := { st.compositorState with xwm := some ⟨display⟩ } } := by
  unfold xwaylandReady at h
  split_ifs at h <;> cases h
  rfl

/-- The XWayland source's callback on the exit signal: the session is dropped. -/
def xwaylandExited : Handler Unit := fun st =>
  .ok () { st with compositorState := { st.compositorState with xwm := none } }

/-! ## Events -/

/-- What the event loop may run next. -/
inductive Event where
  /-- A client commit (`CompositorHandler::commit`), with its buffer assignment. -/
  | commit (surface : SurfaceId) (buffer : Option BufferAssignment) (co : Collaborators)
  /-- A queued retry of a deferred commit, reading the buffer assignment then current. -/
  | idle (surface : SurfaceId) (buffer : Option BufferAssignment) (co : Collaborators)
  /-- The window manager lists an unpaired window (`x11_surfaces.push`). -/
  | newX11Surface (x11Surface : X11Surface)
  /-- The seat asks for a cursor image. -/
  | cursorImage (image : CursorImageStatus) (hotspot : Option Point) (co : Collaborators)
      (shown : Bool)
  /-- An output descriptor arrives (`handle_output`). -/
  | output (info : OutputInfo)
  /-- The nested X server is ready. -/
  | xwaylandReady (display : Nat) (wmStarted wmNamed : Bool)
  /-- The nested X server exits. -/
  | xwaylandExited

/-- The handler an event runs. A retry runs only if one is queued for its surface, and takes
itself off the queue first. -/
def Event.handler : Event → Handler Unit
  | .commit surface buffer co => executeOrDeferCommit co surface buffer
  | .idle surface buffer co => fun st =>
    if surface ∈ st.idle then
      executeOrDeferCommit co surface buffer { st with idle := st.idle.erase surface }
    else .ok () st
  | .newX11Surface w => .modify fun st => st.withX11Surfaces (st.compositorState.x11Surfaces ++ [w])
  | .cursorImage image hotspot co shown => XwaylandXdgShell.cursorImage co image hotspot shown
  | .output info => .modify (handleOutput · info)
  | .xwaylandReady display wmStarted wmNamed =>
    XwaylandXdgShell.xwaylandReady display wmStarted wmNamed
  | .xwaylandExited => XwaylandXdgShell.xwaylandExited

/-- One turn of the loop: an `Err` is logged and ignored, a panic ends the process. -/
def dispatch (ev : Event) (st : WprsState) : Except Panic WprsState :=
  match ev.handler st with
  | .ok () st' => .ok st'
  | .err _ st' => .ok st'
  | .panic p => .error p

/-- The events in the order they were dispatched, from `st`. -/
def run : List Event → WprsState → Except Panic WprsState
  | [], st => .ok st
  | ev :: evs, st => (dispatch ev st).bind (run evs)

/-! ## Runs -/

/-- An event is admitted in a state when it adds no window, or adds one `Admit` accepts. -/
def Event.Admitted (Admit : WprsState → X11Surface → Prop) (st : WprsState) : Event → Prop
  | .newX11Surface w => Admit st w
  | _ => True

/-- A run of the loop from `st₀`: the events dispatched so far, oldest first, and the state
they reached; every added window was admitted in the state it was added to. -/
inductive Run (Admit : WprsState → X11Surface → Prop) (st₀ : WprsState) :
    List Event → WprsState → Prop where
  | nil : Run Admit st₀ [] st₀
  | step {evs : List Event} {st st' : WprsState} {ev : Event} :
      Run Admit st₀ evs st → ev.Admitted Admit st → dispatch ev st = .ok st' →
      Run Admit st₀ (evs ++ [ev]) st'

/-- Whatever holds at the start and is kept by every admitted event holds all along a run. -/
theorem Run.inv {Admit : WprsState → X11Surface → Prop} {st₀ : WprsState}
    (I : WprsState → Prop) (h₀ : I st₀)
    (hstep : ∀ st ev st', I st → ev.Admitted Admit st → dispatch ev st = .ok st' → I st')
    {evs : List Event} {st : WprsState} (h : Run Admit st₀ evs st) : I st := by
  induction h with
  | nil => exact h₀
  | step _ hadm hd ih => exact hstep _ _ _ ih hadm hd

/-- A run under a stricter admission rule is a run under a looser one. -/
theorem Run.mono {Admit Admit' : WprsState → X11Surface → Prop}
    (hA : ∀ st w, Admit st w → Admit' st w) {st₀ : WprsState} {evs : List Event}
    {st : WprsState} (h : Run Admit st₀ evs st) : Run Admit' st₀ evs st := by
  induction h with
  | nil => exact .nil
  | @step evs st st' ev _ hadm hd ih =>
    refine .step ih ?_ hd
    cases ev <;> first | exact trivial | exact hA _ _ hadm

/-! ## The loop and its runs

The properties of this development are stated over `Run`, a relation. The loop itself is `run`:
what follows says they are the same, so that each property along runs holds of what the loop
does. -/

/-- The loop over two lists of events is the loop over the first, then over the second from where
it ended. -/
theorem run_append (evs evs' : List Event) (st : WprsState) :
    run (evs ++ evs') st = (run evs st).bind (run evs') := by
  induction evs generalizing st with
  | nil => rfl
  | cons ev evs ih =>
    simp only [List.cons_append, run]
    cases dispatch ev st with
    | error p => rfl
    | ok st' => exact ih st'

/-- The loop over a run's events and one more is the loop over the run, then that event. -/
theorem run_snoc (evs : List Event) (ev : Event) (st : WprsState) :
    run (evs ++ [ev]) st = (run evs st).bind (dispatch ev) := by
  rw [run_append]
  congr 1
  funext st'
  simp only [run]
  cases dispatch ev st' <;> rfl

/-- Every event is admitted when every window is. -/
theorem Event.admitted_true (st : WprsState) (ev : Event) : ev.Admitted (fun _ _ => True) st := by
  cases ev <;> trivial

/-- The loop ends in a state exactly when the events are a run to it, every window admitted. -/
theorem run_eq_ok_iff {st₀ st : WprsState} {evs : List Event} :
    run evs st₀ = .ok st ↔ Run (fun _ _ => True) st₀ evs st := by
  constructor
  · induction evs using List.reverseRecOn generalizing st with
    | nil => rintro ⟨⟩; exact .nil
    | append_singleton evs ev ih =>
      intro h
      rw [run_snoc] at h
      cases h₁ : run evs st₀ with
      | error p => rw [h₁] at h; cases h
      | ok st₁ => rw [h₁] at h; exact .step (ih h₁) (ev.admitted_true st₁) h
  · intro h
    induction h with
    | nil => rfl
    | step _ _ hd ih => rw [run_snoc, ih]; exact hd

/-- The loop panics where the first event that panics does, from the state the events before it
reached. -/
theorem run_eq_error_iff {st₀ : WprsState} {evs : List Event} {p : Panic} :
    run evs st₀ = .error p ↔ ∃ pre ev post st, evs = pre ++ ev :: post ∧
      run pre st₀ = .ok st ∧ dispatch ev st = .error p := by
  constructor
  · induction evs generalizing st₀ with
    | nil => intro h; cases h
    | cons ev evs ih =>
      intro h
      simp only [run] at h
      cases hd : dispatch ev st₀ with
      | error p' =>
        rw [hd] at h
        cases h
        exact ⟨[], ev, evs, st₀, rfl, rfl, hd⟩
      | ok st₁ =>
        rw [hd] at h
        obtain ⟨pre, ev', post, st, rfl, hpre, hd'⟩ := ih h
        exact ⟨ev :: pre, ev', post, st, rfl, by simp [run, hd, hpre, Except.bind], hd'⟩
  · rintro ⟨pre, ev, post, st, rfl, hpre, hd⟩
    rw [run_append, hpre]
    simp [run, hd, Except.bind]

/-- **The loop and its runs agree.** From any state, the loop over a list of events ends in a
state exactly when the events are a run to that state (every added window admitted), and it
panics exactly at an event that panics from the state a run of the events before it reached. -/
theorem run_eq_iff_Run (st₀ : WprsState) (evs : List Event) :
    (∀ st, run evs st₀ = .ok st ↔ Run (fun _ _ => True) st₀ evs st) ∧
      ∀ p, run evs st₀ = .error p ↔ ∃ pre ev post st, evs = pre ++ ev :: post ∧
        Run (fun _ _ => True) st₀ pre st ∧ dispatch ev st = .error p :=
  ⟨fun _ => run_eq_ok_iff, fun _ => by simp only [run_eq_error_iff, run_eq_ok_iff]⟩

end XwaylandXdgShell
