import XwaylandXdgShell.Pairing

/-!
# What a failed commit leaves, and what a retry does

`commit_inner` is not atomic: the claim's `swap_remove` (line 377) and the registration of the
surface among its parent's children (line 395) happen before any step that can fail, and the
`?`s after them return with both done. `commitInner_err_effect` says what an `Err` leaves: the
effect of a commit (`CommitEffect`: no child removed, and no child added but the surface, to its
parent), and the surface paired with the window it claimed once `update_x11_surface` has
returned. When `XWaylandSurface::new` fails, the window it claimed is in neither place any more
(`new_failure_drops_window`).

A retry of a surface that is still unpaired is not a no-op either: it redraws a dirty frame,
sends a frame request and a commit for the surface on the remote connection, fires its frame
callbacks, and queues itself again (`executeOrDeferCommit_unpaired`), so every idle pass sends
two more requests (`retry_sends_requests`).
-/

namespace XwaylandXdgShell

/-! ## Where errors come from -/

/-- Every `Err` the handler returns satisfies `P`. -/
def Handler.ErrsWith (P : Error → Prop) (h : Handler α) : Prop :=
  ∀ st e st', h st = .err e st' → P e

theorem Handler.ErrsWith.bind {P : Error → Prop} {x : Handler α} {f : α → Handler β}
    (hx : x.ErrsWith P) (hf : ∀ a, (f a).ErrsWith P) : (x >>= f).ErrsWith P := by
  intro st e st'' h
  rcases Handler.bind_eq_err h with h | ⟨a, st', -, h⟩
  exacts [hx _ _ _ h, hf a _ _ _ h]

/-- The steps after the pairing fail only on the buffer and the frame callbacks. -/
theorem presentEntry_errs (co : Collaborators) (s : SurfaceId) (b : Option BufferAssignment) :
    (presentEntry co s b).ErrsWith fun e => e ≠ .surfaceNew ∧ e ≠ .updateX11Surface := by
  have late {h : Handler Unit}
      (hh : ∀ st e st', h st = .err e st' → e = .bufferContents ∨ e = .noPool ∨
        e = .updateBuffer ∨ e = .sendFrames) :
      h.ErrsWith fun e => e ≠ .surfaceNew ∧ e ≠ .updateX11Surface := fun st e st' he => by
    rcases hh st e st' he with rfl | rfl | rfl | rfl <;> decide
  refine .bind (late ?_) fun _ => .bind (late ?_) fun _ => .bind (late ?_) fun _ => late ?_ <;>
    intro st e st' he
  · simp only [applyBuffer] at he
    repeat' split at he
    all_goals cases he <;> simp
  · simp only [drawWindowFrame] at he
    repeat' split at he
    all_goals cases he
  · cases he
  · simp only [sendFramesIfLocal] at he
    repeat' split at he
    all_goals cases he <;> simp

theorem entryOrInsert_err {co : Collaborators} {s : SurfaceId} {st st' : WprsState}
    {e : Error} (h : entryOrInsert co s st = .err e st') : e = .surfaceNew ∧ st' = st := by
  simp only [entryOrInsert] at h
  repeat' split at h
  all_goals cases h <;> exact ⟨rfl, rfl⟩

theorem entryOrInsert_ok {co : Collaborators} {s : SurfaceId} {st st' : WprsState}
    (h : entryOrInsert co s st = .ok () st') : (st'.surfaces.lookup s).isSome := by
  simp only [entryOrInsert] at h
  split at h
  · cases h; simp_all
  · split at h <;> cases h
    simp

theorem pairX11Surface_err {co : Collaborators} {s : SurfaceId} {x : Option X11Surface}
    {st st' : WprsState} {e : Error} (h : pairX11Surface co s x st = .err e st') :
    e = .updateX11Surface ∧ st' = st := by
  simp only [pairX11Surface] at h
  repeat' split at h
  all_goals cases h <;> exact ⟨rfl, rfl⟩

/-- With the entry present, the pairing pairs it with the claimed window, if there is one. -/
theorem pairX11Surface_ok {co : Collaborators} {s : SurfaceId} {x : Option X11Surface}
    {st st' : WprsState} (h : pairX11Surface co s x st = .ok () st')
    (hs : (st.surfaces.lookup s).isSome) : bindingOf st' s = x.or (bindingOf st s) := by
  simp only [pairX11Surface] at h
  split at h
  · split at h <;> cases h
    obtain ⟨p, hp⟩ := Option.isSome_iff_exists.mp hs
    simp [bindingOf_modifyEntry, hp, XWaylandSurface.updateX11Surface]
  · cases h; rfl

/-- The steps on the entry pair the surface with the claimed window, unless creating the entry
or pairing it fails, which leaves its pairing as it was. -/
theorem updateEntry_err {co : Collaborators} {s : SurfaceId} {x : Option X11Surface}
    {b : Option BufferAssignment} {st st' : WprsState} {e : Error}
    (h : updateEntry co s x b st = .err e st') :
    bindingOf st' s = if e = .surfaceNew ∨ e = .updateX11Surface then bindingOf st s
      else x.or (bindingOf st s) := by
  rcases Handler.bind_eq_err h with h | ⟨⟨⟩, st₁, h₁, h⟩
  · obtain ⟨rfl, rfl⟩ := entryOrInsert_err h
    simp
  have hb₁ := (entryOrInsert_keeps co s st st₁ (congrArg Outcome.after h₁)).binding s
  rcases Handler.bind_eq_err h with h | ⟨⟨⟩, st₂, h₂, h⟩
  · obtain ⟨rfl, rfl⟩ := pairX11Surface_err h
    simp [hb₁]
  obtain ⟨hn, hu⟩ := presentEntry_errs co s b _ _ _ h
  rw [if_neg (not_or.mpr ⟨hn, hu⟩), ← hb₁, ← pairX11Surface_ok h₂ (entryOrInsert_ok h₁)]
  exact (presentEntry_keeps co s b st₂ st' (congrArg Outcome.after h)).binding s

/-! ## A failed commit -/

/-- The claim and the registration keep every pairing. -/
theorem register_binding {s : SurfaceId} {st st₃ : WprsState} {parent : Option X11Parent}
    (hr : Registered s st parent st₃) (k : SurfaceId) : bindingOf st₃ k = bindingOf st k := by
  rcases hr with rfl | ⟨q, -, -, rfl⟩
  · rfl
  · exact bindingOf_modifyEntry_of (f := fun p => { p with children := p.children.insert s })
      (fun _ => rfl) _ _ k

/-- Failure of a commit: an `Err` leaves the effect of a commit — the claimed window out of the
list, no pairing changed but the surface's, which can only have become the claimed window, the
surface listed among its parent's children, and no child removed. When `XWaylandSurface::new`
failed, the surface's pairing is as it was; when a step after `update_x11_surface` failed, the
surface is paired with the window it claimed. When `update_x11_surface` itself failed, how far
it got is outside this file, and only the commit's effect is claimed. -/
theorem commitInner_err_effect {co : Collaborators} {s : SurfaceId}
    {b : Option BufferAssignment} {st st' : WprsState} {e : Error}
    (h : commitInner co s b st = .err e st') :
    CommitEffect s st st' ∧ (e = .surfaceNew → bindingOf st' s = bindingOf st s) ∧
      (e ≠ .surfaceNew → e ≠ .updateX11Surface →
        bindingOf st' s = (claimedBy s st).or (bindingOf st s)) := by
  refine ⟨commitInner_effect (congrArg Outcome.after h), ?_⟩
  rcases commitInner_cases co s b st with ⟨_, _, _, _, hc⟩ | ⟨_, st₃, -, hr, hc⟩ <;>
    rw [hc] at h
  · cases h
  have hb := updateEntry_err h
  rw [register_binding hr] at hb
  exact ⟨fun he => by simpa [he] using hb, fun hn hu => by simpa [hn, hu] using hb⟩

/-- Surface 10 is paired with window 1 and window 2 of surface 20, transient for window 1, is
listed; surface 20 then commits a buffer whose contents cannot be read. The commit returns `Err`
with surface 20 registered as surface 10's child and paired with window 2. -/
theorem commitInner_err_effect_bufferFails :
    ∃ st st', Run (fun _ _ => True) (WprsState.new ⟨true, 0, []⟩)
        [.newX11Surface parentWindow, .commit 10 none ⟨true, true, true, true, true⟩,
          .newX11Surface childWindow] st ∧
      commitInner ⟨true, true, false, true, true⟩ 20 (some (.newBuffer 3)) st =
        .err .bufferContents st' ∧
      childrenOf st' 10 = [20] ∧ bindingOf st' 20 = some childWindow ∧
      (CommitEffect 20 st st' ∧
        (Error.bufferContents = .surfaceNew → bindingOf st' 20 = bindingOf st 20) ∧
        (Error.bufferContents ≠ .surfaceNew → Error.bufferContents ≠ .updateX11Surface →
          bindingOf st' 20 = (claimedBy 20 st).or (bindingOf st 20))) := by
  have h : Run (fun _ _ => True) (WprsState.new ⟨true, 0, []⟩)
      ([] ++ [.newX11Surface parentWindow] ++ [.commit 10 none ⟨true, true, true, true, true⟩] ++
        [.newX11Surface childWindow]) _ :=
    .step (.step (.step .nil trivial rfl) trivial rfl) trivial rfl
  exact ⟨_, _, h, rfl, rfl, rfl,
    @commitInner_err_effect ⟨true, true, false, true, true⟩ 20 (some (.newBuffer 3)) _ _ _ rfl⟩

/-- Surface 10 has a listed window and no entry, and `XWaylandSurface::new` fails: the commit
returns `Err` with the window taken out of the list and paired with nothing, in the empty
state. -/
theorem new_failure_drops_window :
    commitInner ⟨false, true, true, true, true⟩ 10 none
      ((WprsState.new ⟨true, 0, []⟩).withX11Surfaces [parentWindow]) =
        .err .surfaceNew (WprsState.new ⟨true, 0, []⟩) :=
  rfl

/-! ## A retry of an unpaired surface -/

/-- A retry of a surface whose entry is unpaired and not a cursor, with no listed window and no
new buffer, claims nothing, redraws a dirty frame, sends a frame request and a commit for the
surface, fires its frame callbacks, and queues itself again; or fails at the callbacks. -/
theorem executeOrDeferCommit_unpaired {co : Collaborators} {s : SurfaceId} {st : WprsState}
    {x : XWaylandSurface} (hx : st.surfaces.lookup s = some x) (hb : x.x11Surface = none)
    (hc : Role.isCursor x.role = false)
    (hw : ∀ v ∈ st.compositorState.x11Surfaces, v.wlSurface ≠ some s) :
    executeOrDeferCommit co s none st =
      let drawn := if x.frameDirty then
        (st.modifyEntry s XWaylandSurface.drawFrame).send [.drawFrame s] else st
      let sent := drawn.send [.frame s, .commit s]
      if co.sendFrames then
        .ok () { sent with framesSent := sent.framesSent ++ [s], idle := sent.idle ++ [s] }
      else .err .sendFrames sent := by
  have hclaim : claimFirst s st.compositorState.x11Surfaces = none :=
    (claimFirst_eq_none_iff s _).mpr hw
  cases hd : x.frameDirty <;> cases hs : co.sendFrames <;>
    simp [executeOrDeferCommit, commit, commitInner, claimX11Surface, hclaim, resolveParent,
      findX11Parent, registerChild, updateEntry, entryOrInsert, hx, pairX11Surface,
      presentEntry, applyBuffer, drawWindowFrame, hd, frameAndCommit, sendFramesIfLocal,
      lookup_modifyEntry, hb, hc, hs, deferUnlessPaired, drawFrame_x11Surface, drawFrame_isCursor]

/-- A registry holding only a fresh entry for surface 10, and no listed window. -/
def unpairedEntry : WprsState :=
  { WprsState.new ⟨true, 0, []⟩ with surfaces := (∅ : Surfaces).insert 10 .new }

theorem executeOrDeferCommit_unpaired_fresh :
    executeOrDeferCommit ⟨true, true, true, true, true⟩ 10 none unpairedEntry =
      let drawn := if XWaylandSurface.new.frameDirty then
        (unpairedEntry.modifyEntry 10 XWaylandSurface.drawFrame).send [.drawFrame 10]
        else unpairedEntry
      let sent := drawn.send [.frame 10, .commit 10]
      if (⟨true, true, true, true, true⟩ : Collaborators).sendFrames then
        .ok () { sent with framesSent := sent.framesSent ++ [10], idle := sent.idle ++ [10] }
      else .err .sendFrames sent :=
  executeOrDeferCommit_unpaired rfl rfl rfl (by decide)

/-- Surface 10 commits before any window is listed, and its retry runs: each of the two sends a
frame request and a commit for it. -/
theorem retry_sends_requests :
    ((run [.commit 10 none ⟨true, true, true, true, true⟩, .idle 10 none ⟨true, true, true, true, true⟩]
      (WprsState.new ⟨true, 0, []⟩)).toOption.map (·.remote)) =
        some [.frame 10, .commit 10, .frame 10, .commit 10] :=
  rfl

end XwaylandXdgShell
