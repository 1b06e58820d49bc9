import XwaylandXdgShell.Retry

/-!
# The registry mirrors the client's buffers

The bridge exists to show on the remote compositor what the Xwayland client draws. A commit's
buffer assignment says what the client shows: a new buffer replaces the old one, a removal leaves
none, and a commit without an assignment keeps what was there. `commit_inner` decodes a new
buffer into the surface's entry, or clears the entry's buffer on a removal (lines 426-444).

**The law** (`buffers_mirror_client`): along every run in which the pixel pool is present and
every client commit's `XWaylandSurface::new`, `update_x11_surface`, `with_buffer_contents` and
`update_buffer` succeed, each surface's entry holds exactly the buffer the client's commits of it
have attached (`Event.clientBuffer`, the client's side as a fold over the events), whatever other
surfaces' commits, retries, windows, cursor images, outputs and X server signals come between.
Retries are taken to read no new buffer assignment: smithay's buffer handler, run after
`commit_inner` (line 289), takes the assignment out of the surface's current state.

It rests on what each step does to the buffers (`bufferOf`). Only a commit's buffer step changes
one, and only its own surface's (`applyBuffer_attached`). Every other in-place change keeps it
(`KeepsBuffer`), and a created entry has none. The pool is never taken away
(`dispatch_clientState`).

**What it does not establish.** A step that fails breaks the mirror: when `update_x11_surface`
fails, the commit returns before its buffer is read, and the entry keeps the old buffer.
-/

namespace XwaylandXdgShell

/-- The buffer decoded into the entry of `surface`, if it has an entry. -/
def bufferOf (st : WprsState) (surface : SurfaceId) : Option BufferId :=
  (st.surfaces.lookup surface).bind (·.buffer)

/-! ## The client's side -/

/-- What a commit's buffer assignment leaves attached: a new buffer replaces the old one, a
removal leaves none, and no assignment keeps the current one. -/
def BufferAssignment.attached : Option BufferAssignment → Option BufferId → Option BufferId
  | some (.newBuffer buffer), _ => some buffer
  | some .removed, _ => none
  | none, current => current

/-- The buffer the client has attached to `surface` after an event: a client commit of `surface`
attaches what its assignment says. -/
def Event.clientBuffer (surface : SurfaceId) (current : Option BufferId) : Event → Option BufferId
  | .commit s buffer _ => if surface = s then BufferAssignment.attached buffer current else current
  | _ => current

/-- The events under which the registry can follow the client: every client commit creates,
pairs, reads and decodes without failing, and every retry reads no new buffer assignment. -/
def Event.Forwards : Event → Prop
  | .commit _ _ co => co.surfaceNew = true ∧ co.updateX11Surface = true ∧
      co.bufferContents = true ∧ co.updateBuffer = true
  | .idle _ buffer _ => buffer = none
  | _ => True

instance (ev : Event) : Decidable ev.Forwards :=
  match ev with
  | .commit _ _ _ => inferInstanceAs (Decidable (_ ∧ _ ∧ _ ∧ _))
  | .idle _ _ _ => inferInstanceAs (Decidable (_ = none))
  | .newX11Surface _ | .cursorImage _ _ _ _ | .output _ | .xwaylandReady _ _ _
  | .xwaylandExited => isTrue trivial

/-! ## What each step does to the buffers -/

/-- The in-place changes that keep the entry's buffer. -/
def KeepsBuffer (_ : SurfaceId) (f : XWaylandSurface → XWaylandSurface) : Prop :=
  ∀ x, (f x).buffer = x.buffer

theorem drawFrame_buffer (x : XWaylandSurface) : x.drawFrame.buffer = x.buffer := by
  unfold XWaylandSurface.drawFrame; split <;> rfl

theorem bufferOf_modifyEntry (st : WprsState) (s k : SurfaceId) (f) :
    bufferOf (st.modifyEntry s f) k =
      if k = s then ((st.surfaces.lookup s).map f).bind (·.buffer) else bufferOf st k := by
  simp only [bufferOf, lookup_modifyEntry]
  split_ifs <;> rfl

/-- A registry change whose in-place changes keep buffers keeps every surface's buffer: a created
entry has none, as the absent entry had. -/
theorem EntryUpdates.buffers {st st' : WprsState} (h : EntryUpdates KeepsBuffer st st')
    (k : SurfaceId) : bufferOf st' k = bufferOf st k := by
  induction h with
  | same hs _ _ => simp only [bufferOf, hs]
  | @modify st s f hf =>
    rw [bufferOf_modifyEntry]
    split_ifs with hk
    · subst hk
      cases hl : st.surfaces.lookup k with
      | none => simp [bufferOf, hl]
      | some x => simp [bufferOf, hl, hf x]
    · rfl
  | @create st s hs =>
    rcases eq_or_ne k s with rfl | hne
    · simp [bufferOf, hs, XWaylandSurface.new]
    · simp [bufferOf, AList.lookup_insert_ne hne]
  | trans _ _ ih ih' => exact ih'.trans ih

/-! ## The pool stays -/

/-- `st'` has the client half of `st`: the pool, the enter serial and the seats. -/
def SameClient (st st' : WprsState) : Prop :=
  st'.clientState = st.clientState

instance : IsPreorder WprsState SameClient where
  refl _ := rfl
  trans _ _ _ h h' := h'.trans h

@[simp] theorem modifyEntry_clientState (st : WprsState) (s : SurfaceId) (f) :
    (st.modifyEntry s f).clientState = st.clientState := by
  unfold WprsState.modifyEntry; split <;> rfl

theorem entryOrInsert_sameClient (co : Collaborators) (s : SurfaceId) :
    (entryOrInsert co s).Keeps SameClient := by
  intro st st' h
  simp only [entryOrInsert] at h
  repeat' split at h
  all_goals cases h; rfl

theorem pairX11Surface_sameClient (co : Collaborators) (s : SurfaceId) (x : Option X11Surface) :
    (pairX11Surface co s x).Keeps SameClient := by
  intro st st' h
  simp only [pairX11Surface] at h
  repeat' split at h
  all_goals cases h; simp [SameClient]

/-- The steps on a commit's entry leave the client half alone. -/
theorem updateEntry_sameClient (co : Collaborators) (s : SurfaceId) (x : Option X11Surface)
    (b : Option BufferAssignment) : (updateEntry co s x b).Keeps SameClient := by
  refine .bind (entryOrInsert_sameClient co s) fun _ => .bind (pairX11Surface_sameClient co s x)
    fun _ => .bind ?_ fun _ => .bind ?_ fun _ => .bind ?_ fun _ => ?_ <;> intro st st' h <;>
    simp only [applyBuffer, drawWindowFrame, frameAndCommit, sendFramesIfLocal] at h <;>
    repeat' split at h
  all_goals cases h; simp [SameClient, WprsState.send]

/-- A commit returns from the state the claim and the registration leave, which has the buffers
and the client half it started with. -/
theorem commitInner_after {co : Collaborators} {s : SurfaceId} {b : Option BufferAssignment}
    {st st' : WprsState} (h : (commitInner co s b st).after = some st') :
    ∃ st₃, (∀ k, bufferOf st₃ k = bufferOf st k) ∧ SameClient st st₃ ∧
      (updateEntry co s (claimedBy s st) b st₃).after = some st' := by
  rcases commitInner_cases co s b st with ⟨_, _, _, _, hc⟩ | ⟨_, st₃, -, hr, hc⟩ <;> rw [hc] at h
  · cases h
  refine ⟨st₃, fun k => ?_, ?_, h⟩ <;> rcases hr with rfl | ⟨q, -, -, rfl⟩
  · rfl
  · show _ = bufferOf (st.withX11Surfaces (unclaimed s st)) k
    exact EntryUpdates.buffers (.modify (f := fun p => { p with children := p.children.insert s })
      fun _ => rfl) k
  · rfl
  · simp [SameClient, WprsState.withX11Surfaces]

/-- A commit and its retry leave the buffers the commit leaves. -/
theorem executeOrDeferCommit_buffers {co : Collaborators} {s : SurfaceId}
    {b : Option BufferAssignment} {st st' : WprsState}
    (h : (executeOrDeferCommit co s b st).after = some st') :
    ∃ st₁, (commitInner co s b st).after = some st₁ ∧ bufferOf st' = bufferOf st₁ ∧
      SameClient st₁ st' := by
  obtain ⟨st₁, h₁, rfl | ⟨-, rfl⟩⟩ := executeOrDeferCommit_after h <;>
    exact ⟨_, h₁, rfl, rfl⟩

/-- What a turn of the loop does to the client half: nothing. -/
theorem dispatch_clientState {ev : Event} {st st' : WprsState} (h : dispatch ev st = .ok st') :
    st'.clientState = st.clientState := by
  have h := dispatch_after h
  have hcommit {co : Collaborators} {k : SurfaceId} {b : Option BufferAssignment}
      {st₀ : WprsState} (h : (executeOrDeferCommit co k b st₀).after = some st') :
      st'.clientState = st₀.clientState := by
    obtain ⟨st₁, h₁, -, h'⟩ := executeOrDeferCommit_buffers h
    obtain ⟨st₃, -, h₃, h⟩ := commitInner_after h₁
    exact trans_of SameClient (trans_of SameClient h₃ (updateEntry_sameClient co k _ b st₃ st₁ h))
      h'
  cases ev with
  | commit k b co => exact hcommit h
  | idle k b co =>
    simp only [Event.handler] at h
    split at h
    · exact (hcommit h :)
    · cases h; rfl
  | cursorImage image hotspot co shown =>
    simp only [XwaylandXdgShell.cursorImage, Event.handler] at h
    repeat' split at h
    all_goals cases h
    all_goals try rfl
    next st₁ he => simpa [WprsState.send] using entryOrInsert_sameClient co _ st st₁ (by rw [he]; rfl)
  | xwaylandReady display wmStarted wmNamed => obtain rfl := xwaylandReady_after h; rfl
  | _ => cases h; rfl

/-- Along every run the client half stays as it was. -/
theorem Run.clientState {Admit : WprsState → X11Surface → Prop} {st₀ st : WprsState}
    {evs : List Event} (h : Run Admit st₀ evs st) : st.clientState = st₀.clientState :=
  Run.inv (fun st => st.clientState = st₀.clientState) rfl
    (fun _ _ _ hi _ hd => (dispatch_clientState hd).trans hi) h

/-- The steps after the buffer step keep every buffer. -/
theorem presentTail_buffers (co : Collaborators) (s : SurfaceId) :
    (do drawWindowFrame s; frameAndCommit s; sendFramesIfLocal co s : Handler Unit).Keeps
      (EntryUpdates KeepsBuffer) :=
  .bind (drawWindowFrame_updates s drawFrame_buffer) fun _ =>
  .bind (fun _ _ h => by cases h; exact .send _ _) fun _ => sendFramesIfLocal_updates co s

/-- Without a buffer assignment, the steps on the entry keep every buffer, whatever fails. -/
theorem updateEntry_unassigned (co : Collaborators) (s : SurfaceId) (x : Option X11Surface) :
    (updateEntry co s x none).Keeps (EntryUpdates KeepsBuffer) :=
  .bind (entryOrInsert_updates co s) fun _ =>
  .bind (pairX11Surface_updates co s x fun _ _ _ => rfl) fun _ =>
  .bind (fun st _ h => by cases h; exact refl_of _ st) fun _ => presentTail_buffers co s

/-- The buffer step, when the buffer is read and decoded and the pool is present, attaches to
the entry of its surface what the assignment says, and changes no other entry's buffer. -/
theorem applyBuffer_attached {co : Collaborators} {s : SurfaceId} {b : Option BufferAssignment}
    {st : WprsState} (hc : co.bufferContents = true) (hu : co.updateBuffer = true)
    (hp : st.clientState.pool = true) (hs : (st.surfaces.lookup s).isSome) :
    ∃ st', applyBuffer co s b st = .ok () st' ∧ ∀ k, bufferOf st' k =
      if k = s then BufferAssignment.attached b (bufferOf st k) else bufferOf st k := by
  obtain ⟨x, hx⟩ := Option.isSome_iff_exists.mp hs
  rcases b with _ | (buffer | _)
  · exact ⟨st, rfl, fun k => by split_ifs with hk <;> simp [BufferAssignment.attached, hk]⟩
  · refine ⟨st.modifyEntry s fun x => { x with buffer := some buffer },
      by simp [applyBuffer, hc, hp, hu], fun k => ?_⟩
    rw [bufferOf_modifyEntry]
    split_ifs <;> simp [hx, BufferAssignment.attached]
  · refine ⟨_, rfl, fun k => ?_⟩
    simp only [WprsState.send, bufferOf, lookup_modifyEntry]
    split_ifs <;> simp [hx, BufferAssignment.attached, bufferOf]

/-- With `XWaylandSurface::new` and `update_x11_surface` succeeding, the first two steps on the
entry return, leave the entry there, and leave the client half as it was. -/
theorem entryAndPair_ok {co : Collaborators} (hn : co.surfaceNew = true)
    (hu : co.updateX11Surface = true) (s : SurfaceId) (x : Option X11Surface) (st : WprsState) :
    ∃ st₁ st₂, entryOrInsert co s st = .ok () st₁ ∧ pairX11Surface co s x st₁ = .ok () st₂ ∧
      (st₂.surfaces.lookup s).isSome ∧ SameClient st st₂ := by
  obtain ⟨st₁, h₁⟩ : ∃ st₁, entryOrInsert co s st = .ok () st₁ := by
    unfold entryOrInsert
    split
    · exact ⟨_, rfl⟩
    · exact ⟨_, by rw [if_pos hn]⟩
  obtain ⟨st₂, h₂, hs₂⟩ : ∃ st₂, pairX11Surface co s x st₁ = .ok () st₂ ∧
      (st₂.surfaces.lookup s).isSome := by
    have hs₁ := entryOrInsert_ok h₁
    rcases x with _ | w
    · exact ⟨st₁, rfl, hs₁⟩
    · refine ⟨st₁.modifyEntry s (·.updateX11Surface s w), by simp [pairX11Surface, hu], ?_⟩
      simpa [lookup_modifyEntry] using hs₁
  exact ⟨st₁, st₂, h₁, h₂, hs₂, trans_of SameClient
    (entryOrInsert_sameClient co s st st₁ (by rw [h₁]; rfl))
    (pairX11Surface_sameClient co s x st₁ st₂ (by rw [h₂]; rfl))⟩

/-- The steps on a commit's entry, when creating, pairing, reading and decoding succeed and the
pool is present, attach the assignment to the surface's entry and change no other buffer,
whatever fails after. -/
theorem updateEntry_attached {co : Collaborators} {s : SurfaceId} {x : Option X11Surface}
    {b : Option BufferAssignment} {st st' : WprsState} (hn : co.surfaceNew = true)
    (hu : co.updateX11Surface = true) (hc : co.bufferContents = true)
    (hd : co.updateBuffer = true) (hp : st.clientState.pool = true)
    (h : (updateEntry co s x b st).after = some st') (k : SurfaceId) :
    bufferOf st' k = if k = s then BufferAssignment.attached b (bufferOf st k) else bufferOf st k := by
  obtain ⟨st₁, st₂, h₁, h₂, hs₂, hc₂⟩ := entryAndPair_ok hn hu s x st
  have hb₁ := EntryUpdates.buffers (entryOrInsert_updates co s st st₁ (by rw [h₁]; rfl))
  have hb₂ := EntryUpdates.buffers
    (pairX11Surface_updates co s x (fun _ _ _ => rfl) st₁ st₂ (by rw [h₂]; rfl))
  obtain ⟨st₃, h₃, hb₃⟩ := applyBuffer_attached (b := b) hc hd (hc₂ ▸ hp) hs₂
  simp only [updateEntry, presentEntry, Handler.bind_apply, h₁, h₂, h₃] at h
  rw [EntryUpdates.buffers (presentTail_buffers co s st₃ st' h), hb₃, hb₂, hb₁]

/-! ## Along runs -/

/-- What a turn of the loop does to the buffers: a client commit attaches its assignment to its
own surface's entry, and nothing else changes a buffer. -/
theorem dispatch_buffers {ev : Event} {st st' : WprsState} (hev : ev.Forwards)
    (hp : st.clientState.pool = true) (h : dispatch ev st = .ok st') (k : SurfaceId) :
    bufferOf st' k = ev.clientBuffer k (bufferOf st k) := by
  have h := dispatch_after h
  cases ev with
  | commit s b co =>
    obtain ⟨hn, hu, hc, hd⟩ := hev
    obtain ⟨st₁, h₁, he, -⟩ := executeOrDeferCommit_buffers h
    obtain ⟨st₃, hb₃, hc₃, h₃⟩ := commitInner_after h₁
    rw [he, updateEntry_attached hn hu hc hd (hc₃ ▸ hp) h₃, hb₃]
    rfl
  | idle s b co =>
    cases (hev : b = none)
    simp only [Event.handler] at h
    split at h
    · obtain ⟨st₁, h₁, he, -⟩ := executeOrDeferCommit_buffers h
      obtain ⟨st₃, hb₃, -, h₃⟩ := commitInner_after h₁
      rw [he, EntryUpdates.buffers (updateEntry_unassigned co s _ st₃ st₁ h₃), hb₃]
      rfl
    · cases h; rfl
  | cursorImage image hotspot co shown =>
    exact EntryUpdates.buffers (cursorImage_updates co image hotspot shown
      (fun _ _ _ => rfl) st st' h) k
  | output info => cases h; simp only [bufferOf, handleOutput_surfaces]; rfl
  | xwaylandReady display wmStarted wmNamed => obtain rfl := xwaylandReady_after h; rfl
  | _ => cases h; rfl

/-- **The registry mirrors the client's buffers.** Along every run with the pixel pool present,
in which every client commit creates, pairs, reads and decodes without failing and no retry reads
a new assignment, each surface's entry holds the buffer the client's commits of it have attached,
starting from the one it held. -/
theorem buffers_mirror_client {Admit : WprsState → X11Surface → Prop} {st₀ st : WprsState}
    {evs : List Event} (hp : st₀.clientState.pool = true) (hev : ∀ ev ∈ evs, ev.Forwards)
    (h : Run Admit st₀ evs st) (s : SurfaceId) :
    bufferOf st s = evs.foldl (Event.clientBuffer s) (bufferOf st₀ s) := by
  induction h with
  | nil => rfl
  | @step evs st st' ev hr _ hd ih =>
    rw [List.foldl_append, List.foldl_cons, List.foldl_nil,
      ← ih fun e he => hev e (List.mem_append_left _ he)]
    exact dispatch_buffers (hev ev (by simp)) (hr.clientState ▸ hp) hd s

/-- Two surfaces commit new buffers, then the first commits without an assignment and has a
retry run: the first still shows the buffer it attached. -/
def twoSurfaceBuffers : List Event :=
  [.commit 10 (some (.newBuffer 7)) ⟨true, true, true, true, true⟩,
    .commit 11 (some (.newBuffer 8)) ⟨true, true, true, true, true⟩,
    .commit 10 none ⟨true, true, true, true, true⟩,
    .idle 10 none ⟨true, true, true, true, true⟩]

theorem buffers_mirror_client_twoSurfaces :
    ∃ st, Run (fun _ _ => True) (WprsState.new ⟨true, 0, []⟩) twoSurfaceBuffers st ∧
      bufferOf st 10 = twoSurfaceBuffers.foldl (Event.clientBuffer 10)
        (bufferOf (WprsState.new ⟨true, 0, []⟩) 10) ∧ bufferOf st 10 = some 7 := by
  have h : Run (fun _ _ => True) (WprsState.new ⟨true, 0, []⟩)
      ([] ++ [.commit 10 (some (.newBuffer 7)) ⟨true, true, true, true, true⟩] ++
        [.commit 11 (some (.newBuffer 8)) ⟨true, true, true, true, true⟩] ++
        [.commit 10 none ⟨true, true, true, true, true⟩] ++
        [.idle 10 none ⟨true, true, true, true, true⟩]) _ :=
    .step (.step (.step (.step .nil trivial rfl) trivial rfl) trivial rfl) trivial rfl
  exact ⟨_, h, buffers_mirror_client rfl (by decide) h 10, rfl⟩

end XwaylandXdgShell
