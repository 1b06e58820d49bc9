import XwaylandXdgShell.Pairing

/-!
# A window's frame callbacks come from the remote compositor

A client paces its drawing by frame callbacks. `commit_inner` fires a surface's callbacks on the
spot only when the surface has no X11 window or is a cursor (lines 455-465). For those nothing
on the remote side will ever answer. A surface paired with a window is left to get its
callbacks from the remote compositor, through the frame request a commit sends at line 452.

**The law** (`windowed_frames_remote`): along every run, from any state in which surface `s` is
paired with a window and is not a cursor (`windowed`), in which no cursor image shows `s`: `s`
stays paired and no cursor. The callbacks fired locally during the run are all of other
surfaces, so none of `s`'s commits or retries fires its callbacks locally. That holds whatever
windows are listed, and whatever fails or panics on the way.

It rests on one relation, `FramesRemote`, kept by every step of every handler. Pairing again, a
buffer, a redrawn frame or a new child keep an entry windowed. The one in-place change that does
not is becoming a cursor, which only a cursor image showing the surface makes.

**What it does not establish.** That a commit of `s` sends its frame request, which one that
fails before line 452 does not, or that the remote compositor answers it; nor anything about
surfaces without a window. Their commits do fire callbacks locally when `send_frames` succeeds
(surface 20 in `windowed_frames_remote_otherCommit`), but a failing `send_frames` fires none.
-/

namespace XwaylandXdgShell

/-- An entry paired with a window and not a cursor: its commits fire no frame callbacks locally
(lines 455-456). -/
def XWaylandSurface.windowed (x : XWaylandSurface) : Bool :=
  x.x11Surface.isSome && !Role.isCursor x.role

theorem XWaylandSurface.windowed_updateX11Surface (x : XWaylandSurface) (k : SurfaceId)
    (w : X11Surface) (hx : x.windowed) : (x.updateX11Surface k w).windowed := by
  rcases x with ⟨_, _ | role, _, _⟩
  · simp only [XWaylandSurface.windowed, XWaylandSurface.updateX11Surface, roleFor]
    split <;> rfl
  · simp only [XWaylandSurface.windowed, Bool.and_eq_true, Bool.not_eq_true'] at hx
    simp [XWaylandSurface.windowed, XWaylandSurface.updateX11Surface, hx.2]

theorem XWaylandSurface.windowed_drawFrame (x : XWaylandSurface) : x.drawFrame.windowed = x.windowed := by
  simp [XWaylandSurface.windowed, drawFrame_x11Surface, drawFrame_isCursor]

/-- The surface a cursor image shows, if it shows one. -/
def Event.cursorSurface : Event → Option SurfaceId
  | .cursorImage (.surface s) _ _ _ => some s
  | _ => none

theorem modifyEntry_framesSent (st : WprsState) (s : SurfaceId) (f) :
    (st.modifyEntry s f).framesSent = st.framesSent := by
  unfold WprsState.modifyEntry; split <;> rfl

theorem handleOutput_framesSent (st : WprsState) (output : OutputInfo) :
    (handleOutput st output).framesSent = st.framesSent := by
  unfold handleOutput; dsimp only

/-! ## What a step may fire -/

/-- From `st` to `st'`, if the entry of `s` is windowed at the start: it still is, and the frame
callbacks fired locally are those fired by `st`, then callbacks of other surfaces. It reads only
the registry and the callbacks fired, so the requests a step sends do not enter into it. -/
def FramesRemote (s : SurfaceId) (st st' : WprsState) : Prop :=
  (st.surfaces.lookup s).any XWaylandSurface.windowed →
    (st'.surfaces.lookup s).any XWaylandSurface.windowed ∧
      ∃ fs, st'.framesSent = st.framesSent ++ fs ∧ s ∉ fs

instance {s : SurfaceId} : IsPreorder WprsState (FramesRemote s) where
  refl _ hw := ⟨hw, [], by simp, by simp⟩
  trans _ _ _ h h' hw := by
    obtain ⟨hw', fs, hf, hs⟩ := h hw
    obtain ⟨hw'', fs', hf', hs'⟩ := h' hw'
    exact ⟨hw'', fs ++ fs', by rw [hf', hf, List.append_assoc], by simp [hs, hs']⟩

section Changes

variable {s : SurfaceId} {st st' : WprsState}

/-- A change that keeps the registry and fires no callback. -/
theorem FramesRemote.quiet (hs : st'.surfaces = st.surfaces)
    (hf : st'.framesSent = st.framesSent) : FramesRemote s st st' :=
  fun hw => ⟨hs ▸ hw, [], by simp [hf], by simp⟩

/-- A change in place that keeps the entry of `s` windowed. -/
theorem FramesRemote.modifyEntry {k : SurfaceId} {f : XWaylandSurface → XWaylandSurface}
    (hf : k = s → ∀ x, x.windowed → (f x).windowed) (st : WprsState) :
    FramesRemote s st (st.modifyEntry k f) := fun hw => by
  refine ⟨?_, [], by simp [modifyEntry_framesSent], by simp⟩
  rw [lookup_modifyEntry]
  split_ifs with hk
  · subst hk
    cases hl : st.surfaces.lookup s with
    | none => rw [hl] at hw; cases hw
    | some x => rw [hl] at hw; exact hf rfl x hw
  · exact hw

/-- Creating the entry of a surface that had none. -/
theorem FramesRemote.insert {k : SurfaceId} (hk : st.surfaces.lookup k = none)
    (x : XWaylandSurface) : FramesRemote s st { st with surfaces := st.surfaces.insert k x } :=
  fun hw => by
    have hne : s ≠ k := by rintro rfl; rw [hk] at hw; cases hw
    exact ⟨by rwa [AList.lookup_insert_ne hne], [], by simp, by simp⟩

end Changes

/-! ## The steps of a commit -/

section Steps

variable (co : Collaborators) (k : SurfaceId) {s : SurfaceId}

theorem claimX11Surface_framesRemote : (claimX11Surface k).Keeps (FramesRemote s) := by
  intro st st' h
  simp only [claimX11Surface] at h
  split at h <;> cases h <;> exact .quiet rfl rfl

theorem resolveParent_framesRemote (x : Option X11Surface) :
    (resolveParent x).Keeps (FramesRemote s) := by
  intro st st' h
  simp only [resolveParent] at h
  split at h <;> cases h
  exact refl_of _ st

theorem registerChild_framesRemote (parent : Option X11Parent) (x : Option X11Surface) :
    (registerChild k parent x).Keeps (FramesRemote s) := by
  intro st st' h
  rcases registerChild_cases k parent x st with he | ⟨q, -, -, -, he⟩ | ⟨q, p, -, -, -, he⟩ <;>
    rw [he] at h <;> cases h
  · exact refl_of _ st
  · refine .modifyEntry ?_ st
    exact fun _ _ h => h

theorem entryOrInsert_framesRemote : (entryOrInsert co k).Keeps (FramesRemote s) := by
  intro st st' h
  simp only [entryOrInsert] at h
  split at h
  · cases h; exact refl_of _ st
  next hk =>
    split at h <;> cases h
    exacts [.insert hk _, refl_of _ st]

theorem pairX11Surface_framesRemote (x : Option X11Surface) :
    (pairX11Surface co k x).Keeps (FramesRemote s) := by
  intro st st' h
  simp only [pairX11Surface] at h
  repeat' split at h
  all_goals cases h
  exacts [.modifyEntry (fun _ y => y.windowed_updateX11Surface k _) st, refl_of _ st, refl_of _ st]

theorem applyBuffer_framesRemote (b : Option BufferAssignment) :
    (applyBuffer co k b).Keeps (FramesRemote s) := by
  intro st st' h
  simp only [applyBuffer] at h
  repeat' split at h
  all_goals cases h
  all_goals first
    | exact refl_of _ st
    | refine .modifyEntry ?_ st; exact fun _ _ h => h

theorem drawWindowFrame_framesRemote : (drawWindowFrame k).Keeps (FramesRemote s) := by
  intro st st' h
  simp only [drawWindowFrame] at h
  repeat' split at h
  all_goals cases h
  · refine .modifyEntry ?_ st
    exact fun _ x hx => x.windowed_drawFrame ▸ hx
  all_goals exact refl_of _ st

/-- The callbacks a commit fires locally are its own surface's, and only when its entry is not
windowed. -/
theorem sendFramesIfLocal_framesRemote : (sendFramesIfLocal co k).Keeps (FramesRemote s) := by
  intro st st' h hw
  simp only [sendFramesIfLocal] at h
  split at h
  next x hx =>
    split at h
    next hlocal =>
      split at h <;> cases h
      · refine ⟨hw, [k], rfl, fun hs => ?_⟩
        rw [List.mem_singleton] at hs
        subst hs
        rw [hx] at hw
        simp_all [XWaylandSurface.windowed]
      · exact ⟨hw, [], by simp, by simp⟩
    · cases h; exact ⟨hw, [], by simp, by simp⟩
  · cases h; exact ⟨hw, [], by simp, by simp⟩

/-- The steps on the entry fire callbacks of the entry's surface only when it is not windowed, and
keep a windowed entry windowed. -/
theorem updateEntry_framesRemote (x : Option X11Surface) (b : Option BufferAssignment) :
    (updateEntry co k x b).Keeps (FramesRemote s) :=
  .bind (entryOrInsert_framesRemote co k) fun _ => .bind (pairX11Surface_framesRemote co k x)
    fun _ => .bind (applyBuffer_framesRemote co k b) fun _ => .bind (drawWindowFrame_framesRemote k)
    fun _ => .bind (fun st _ h => by cases h; exact .quiet rfl rfl) fun _ =>
    sendFramesIfLocal_framesRemote co k

theorem executeOrDeferCommit_framesRemote (b : Option BufferAssignment) :
    (executeOrDeferCommit co k b).Keeps (FramesRemote s) :=
  .bind (.bind (claimX11Surface_framesRemote k) fun x => .bind (resolveParent_framesRemote x)
    fun p => .bind (registerChild_framesRemote k p x) fun _ => updateEntry_framesRemote co k x b)
  fun _ st st' h => by
    simp only [deferUnlessPaired] at h
    split_ifs at h <;> cases h <;> exact .quiet rfl rfl

end Steps

/-! ## One event -/

/-- A cursor image that does not show `s` makes another surface a cursor, and fires nothing. -/
theorem cursorImage_framesRemote (co : Collaborators) (image : CursorImageStatus)
    (hotspot : Option Point) (shown : Bool) {s : SurfaceId} (himg : image ≠ .surface s) :
    (cursorImage co image hotspot shown).Keeps (FramesRemote s) := by
  intro st st' h
  simp only [cursorImage] at h
  repeat' split at h
  all_goals cases h
  all_goals try exact refl_of _ st
  all_goals try exact .quiet rfl rfl
  next k _ _ _ st₁ he =>
    exact trans_of _ (entryOrInsert_framesRemote co k st st₁ (by rw [he]; rfl)) (trans_of _
      (FramesRemote.modifyEntry (fun hk => absurd (hk ▸ rfl) himg) st₁) (.quiet rfl rfl))

/-- **One event.** A turn of the loop whose event is no cursor image of `s` keeps `s` windowed and
fires no callback of it locally. -/
theorem dispatch_framesRemote {ev : Event} {st st' : WprsState} {s : SurfaceId}
    (hev : ev.cursorSurface ≠ some s) (h : dispatch ev st = .ok st') : FramesRemote s st st' := by
  have h := dispatch_after h
  cases ev with
  | commit k b co => exact executeOrDeferCommit_framesRemote co k b st st' h
  | idle k b co =>
    simp only [Event.handler] at h
    split at h
    · have hq : FramesRemote s st { st with idle := st.idle.erase k } := .quiet rfl rfl
      exact trans_of _ hq (executeOrDeferCommit_framesRemote co k b _ st' h)
    · cases h; exact refl_of _ st
  | cursorImage image hotspot co shown =>
    exact cursorImage_framesRemote co image hotspot shown (fun e => hev (by rw [e]; rfl)) st st' h
  | newX11Surface w => cases h; exact .quiet rfl rfl
  | output info =>
    cases h; exact .quiet (handleOutput_surfaces st info) (handleOutput_framesSent st info)
  | xwaylandReady display wmStarted wmNamed => obtain rfl := xwaylandReady_after h; exact .quiet rfl rfl
  | xwaylandExited => cases h; exact .quiet rfl rfl

/-! ## Runs -/

/-- **A window's frame callbacks come from the remote compositor.** Along every run from any state
in which surface `s` is paired with a window and is not a cursor, and in which no cursor image
shows `s`, `s` stays so, and every frame callback fired locally during the run is of another
surface. -/
theorem windowed_frames_remote {Admit : WprsState → X11Surface → Prop} {st₀ st : WprsState}
    {evs : List Event} {s : SurfaceId} (hw : (st₀.surfaces.lookup s).any XWaylandSurface.windowed)
    (hev : ∀ ev ∈ evs, ev.cursorSurface ≠ some s) (h : Run Admit st₀ evs st) :
    (st.surfaces.lookup s).any XWaylandSurface.windowed ∧
      ∃ fs, st.framesSent = st₀.framesSent ++ fs ∧ s ∉ fs := by
  have hrun : FramesRemote s st₀ st := by
    induction h with
    | nil => exact refl_of _ st₀
    | @step evs st st' ev _ _ hd ih =>
      exact trans_of _ (ih fun e he => hev e (List.mem_append_left _ he))
        (dispatch_framesRemote (hev ev (by simp)) hd)
  exact hrun hw

/-- Surface 10 is paired with window 1, and the seat has a pointer. -/
def pairedParent : WprsState :=
  { WprsState.new ⟨true, 0, [⟨some 0⟩]⟩ with
    surfaces := (∅ : Surfaces).insert 10 (XWaylandSurface.new.updateX11Surface 10 parentWindow) }

/-- Surface 10 commits, surface 20, without a window, commits, and the cursor is hidden: only
surface 20's callbacks are fired locally. -/
theorem windowed_frames_remote_otherCommit :
    ∃ st, Run (fun _ _ => True) pairedParent
      [.commit 10 none ⟨true, true, true, true, true⟩, .commit 20 none ⟨true, true, true, true, true⟩,
        .cursorImage .hidden none ⟨true, true, true, true, true⟩ true] st ∧
      ((st.surfaces.lookup 10).any XWaylandSurface.windowed ∧
        ∃ fs, st.framesSent = pairedParent.framesSent ++ fs ∧ 10 ∉ fs) ∧
      st.framesSent = [20] := by
  have h : Run (fun _ _ => True) pairedParent
      ([] ++ [.commit 10 none ⟨true, true, true, true, true⟩] ++
        [.commit 20 none ⟨true, true, true, true, true⟩] ++
        [.cursorImage .hidden none ⟨true, true, true, true, true⟩ true]) _ :=
    .step (.step (.step .nil trivial rfl) trivial rfl) trivial rfl
  exact ⟨_, h, windowed_frames_remote rfl (by decide) h, rfl⟩

end XwaylandXdgShell
