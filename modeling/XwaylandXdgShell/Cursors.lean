import XwaylandXdgShell.Frames
import XwaylandXdgShell.Waiting

/-!
# A cursor's frame callbacks fire locally, once per commit

`commit_inner` fires a surface's frame callbacks on the spot when the surface is a cursor (lines
455-465). The remote compositor draws a cursor through `set_cursor` and sends it no frame, so
these local callbacks are the only ones its client gets.

**The law** (`cursor_frames_local`): along every run, from any state in which surface `s` is a
cursor with no retry of it queued and no window listed for it, and the pixel pool is present, in
which the window manager lists no window for `s` and every commit of `s` meets no failing
collaborator: `s` is still a cursor at the end. The callbacks fired locally for `s` during the run
are exactly one per client commit of `s`.

It rests on two step facts. A commit fires at most one callback, of its own surface, and every
other event fires none (`executeOrDeferCommit_fires`, `cursorImage_sameFrames`). A cursor's own
commit fires one (`executeOrDeferCommit_cursor`). No retry of a cursor is ever queued
(`dispatch_settled`), so the count is not disturbed by retries. The role is kept at the one entry
the law is about (`PreservingAt`): other surfaces' commits touch that entry only to register a
child, and a commit of `s` claims no window, so it does not pair `s`.

**What it does not establish.** Anything when a window is listed for the cursor's surface: what
`update_x11_surface`, outside this file, does to the role of an entry it pairs is not read from the
code, and the law does not depend on it. Nor anything when a commit of the cursor fails: a failing
step returns before the callbacks, and a failing `send_frames` fires none.
-/

namespace XwaylandXdgShell

/-- The in-place changes that keep `p` at the entry of `s`; changes at other keys are free. -/
def PreservingAt (p : XWaylandSurface → Bool) (s k : SurfaceId)
    (f : XWaylandSurface → XWaylandSurface) : Prop :=
  k = s → ∀ x, p x → p (f x)

/-- A registry change whose in-place changes at `s` keep `p` keeps it at `s`. -/
theorem EntryUpdates.keepsAt {p : XWaylandSurface → Bool} {s : SurfaceId} {st st' : WprsState}
    (h : EntryUpdates (PreservingAt p s) st st') (hs : (st.surfaces.lookup s).any p) :
    (st'.surfaces.lookup s).any p := by
  induction h with
  | same he _ _ => rwa [he]
  | @modify st k f hf =>
    rw [lookup_modifyEntry]
    split_ifs with hk
    · subst hk
      cases hl : st.surfaces.lookup s with
      | none => rw [hl] at hs; cases hs
      | some x => rw [hl] at hs; exact hf rfl x hs
    · exact hs
  | @create st k hk =>
    have hne : s ≠ k := by rintro rfl; rw [hk] at hs; cases hs
    rwa [AList.lookup_insert_ne hne]
  | trans _ _ ih ih' => exact ih' (ih hs)

/-- No window is listed for `s`. -/
def NoWindowFor (s : SurfaceId) (st : WprsState) : Prop :=
  ∀ w ∈ st.compositorState.x11Surfaces, w.wlSurface ≠ some s

/-- With no window listed for `s`, a commit keeps `s` a cursor: another surface's commit changes
the entry of `s` at most by registering a child, and a commit of `s` claims nothing, so does not
pair it. -/
theorem commitInner_keepsCursor {co : Collaborators} {k s : SurfaceId}
    {b : Option BufferAssignment} {st st' : WprsState} (hw : NoWindowFor s st)
    (h : (commitInner co k b st).after = some st')
    (hc : (st.surfaces.lookup s).any fun x => Role.isCursor x.role) :
    (st'.surfaces.lookup s).any fun x => Role.isCursor x.role := by
  rcases commitInner_cases co k b st with ⟨_, _, _, _, he⟩ | ⟨_, st₃, -, hr, he⟩ <;> rw [he] at h
  · cases h
  have h₃ : (st₃.surfaces.lookup s).any fun x => Role.isCursor x.role := by
    rcases hr with rfl | ⟨q, -, -, rfl⟩
    · exact hc
    · exact EntriesKeep.modifyEntry (p := fun x => Role.isCursor x.role)
        (f := fun p => { p with children := p.children.insert k })
        (fun _ h => h) _ _ s hc
  refine (updateEntry_updates (F := PreservingAt (fun x => Role.isCursor x.role) s) co k _ b
    (fun w hw' hks => ?_)
    (fun _ _ _ h => h) (fun _ x h => (drawFrame_isCursor x).trans h) st₃ st' h).keepsAt h₃
  subst hks
  exact absurd (claimedBy_spec hw').2 (hw w (claimedBy_spec hw').1)

/-- With no window listed for `s`, a turn of the loop keeps `s` a cursor. -/
theorem dispatch_keepsCursor {ev : Event} {st st' : WprsState} {s : SurfaceId}
    (hw : NoWindowFor s st) (h : dispatch ev st = .ok st')
    (hc : (st.surfaces.lookup s).any fun x => Role.isCursor x.role) :
    (st'.surfaces.lookup s).any fun x => Role.isCursor x.role := by
  have h := dispatch_after h
  have hcommit {co : Collaborators} {k : SurfaceId} {b : Option BufferAssignment}
      {st₀ : WprsState} (h : (executeOrDeferCommit co k b st₀).after = some st')
      (hw₀ : NoWindowFor s st₀) (hc₀ : (st₀.surfaces.lookup s).any fun x => Role.isCursor x.role) :
      (st'.surfaces.lookup s).any fun x => Role.isCursor x.role := by
    obtain ⟨st₁, h₁, hd⟩ := executeOrDeferCommit_after h
    have hk := commitInner_keepsCursor hw₀ h₁ hc₀
    rcases hd with rfl | ⟨-, rfl⟩ <;> exact hk
  cases ev with
  | commit k b co => exact hcommit h hw hc
  | idle k b co =>
    simp only [Event.handler] at h
    split at h
    · exact hcommit h hw hc
    · cases h; exact hc
  | cursorImage image hotspot co shown =>
    exact (cursorImage_updates (F := PreservingAt _ s) co image hotspot shown
      (fun _ _ _ _ _ => rfl) st st' h).keepsAt hc
  | output info => cases h; rwa [handleOutput_surfaces]
  | xwaylandReady display wmStarted wmNamed => obtain rfl := xwaylandReady_after h; exact hc
  | newX11Surface w => cases h; exact hc
  | xwaylandExited => cases h; exact hc

/-! ## Which callbacks a step fires -/

/-- `st'` has fired the frame callbacks `st` had fired, and no more. -/
def SameFrames (st st' : WprsState) : Prop :=
  st'.framesSent = st.framesSent

instance : IsPreorder WprsState SameFrames where
  refl _ := rfl
  trans _ _ _ h h' := h'.trans h

/-- At most one callback fired, of `k`. -/
def FiresAtMostOnce (k : SurfaceId) (st st' : WprsState) : Prop :=
  st'.framesSent = st.framesSent ∨ st'.framesSent = st.framesSent ++ [k]

/-- A step that fires nothing, then one that fires at most once. -/
theorem Handler.Keeps.then_fires {k : SurfaceId} {x : Handler α} {f : α → Handler β}
    (hx : x.Keeps SameFrames) (hf : ∀ a, (f a).Keeps (FiresAtMostOnce k)) :
    (x >>= f).Keeps (FiresAtMostOnce k) := by
  intro st st'' h
  rcases Handler.after_bind h with ⟨e, he⟩ | ⟨a, st', hxa, hfa⟩
  · exact .inl (hx st st'' (by simp [he, Outcome.after]))
  · have h₁ : st'.framesSent = st.framesSent := hx st st' (by simp [hxa, Outcome.after])
    unfold FiresAtMostOnce
    rw [← h₁]
    exact hf a st' st'' hfa

/-- A step that fires at most once, then one that fires nothing. -/
theorem Handler.Keeps.fires_then {k : SurfaceId} {x : Handler α} {f : α → Handler β}
    (hx : x.Keeps (FiresAtMostOnce k)) (hf : ∀ a, (f a).Keeps SameFrames) :
    (x >>= f).Keeps (FiresAtMostOnce k) := by
  intro st st'' h
  rcases Handler.after_bind h with ⟨e, he⟩ | ⟨a, st', hxa, hfa⟩
  · exact hx st st'' (by simp [he, Outcome.after])
  · unfold FiresAtMostOnce
    rw [hf a st' st'' hfa]
    exact hx st st' (by simp [hxa, Outcome.after])

section Steps

variable (co : Collaborators) (k : SurfaceId)

theorem claimX11Surface_sameFrames : (claimX11Surface k).Keeps SameFrames := by
  intro st st' h
  simp only [claimX11Surface] at h
  split at h <;> cases h <;> rfl

theorem resolveParent_sameFrames (x : Option X11Surface) : (resolveParent x).Keeps SameFrames := by
  intro st st' h
  simp only [resolveParent] at h
  split at h <;> cases h
  rfl

theorem registerChild_sameFrames (parent : Option X11Parent) (x : Option X11Surface) :
    (registerChild k parent x).Keeps SameFrames := by
  intro st st' h
  rcases registerChild_cases k parent x st with he | ⟨q, -, -, -, he⟩ | ⟨q, p, -, -, -, he⟩ <;>
    rw [he] at h <;> cases h
  exacts [rfl, modifyEntry_framesSent _ _ _]

theorem entryOrInsert_sameFrames : (entryOrInsert co k).Keeps SameFrames := by
  intro st st' h
  simp only [entryOrInsert] at h
  repeat' split at h
  all_goals cases h; rfl

theorem pairX11Surface_sameFrames (x : Option X11Surface) :
    (pairX11Surface co k x).Keeps SameFrames := by
  intro st st' h
  simp only [pairX11Surface] at h
  repeat' split at h
  all_goals cases h
  all_goals first | rfl | exact modifyEntry_framesSent _ _ _

theorem applyBuffer_sameFrames (b : Option BufferAssignment) :
    (applyBuffer co k b).Keeps SameFrames := by
  intro st st' h
  simp only [applyBuffer] at h
  repeat' split at h
  all_goals cases h
  all_goals first | rfl | exact modifyEntry_framesSent _ _ _

theorem drawWindowFrame_sameFrames : (drawWindowFrame k).Keeps SameFrames := by
  intro st st' h
  simp only [drawWindowFrame] at h
  repeat' split at h
  all_goals cases h
  all_goals first | rfl | exact modifyEntry_framesSent _ _ _

/-- The callbacks of lines 455-465: of the commit's own surface, at most once. -/
theorem sendFramesIfLocal_fires : (sendFramesIfLocal co k).Keeps (FiresAtMostOnce k) := by
  intro st st' h
  simp only [sendFramesIfLocal] at h
  repeat' split at h
  all_goals cases h
  exacts [.inr rfl, .inl rfl, .inl rfl, .inl rfl]

theorem presentEntry_fires (b : Option BufferAssignment) :
    (presentEntry co k b).Keeps (FiresAtMostOnce k) :=
  .then_fires (applyBuffer_sameFrames co k b) fun _ => .then_fires (drawWindowFrame_sameFrames k)
    fun _ => .then_fires (fun _ _ h => by cases h; rfl) fun _ => sendFramesIfLocal_fires co k

/-- A commit and its retry fire at most one callback, of the committing surface. -/
theorem executeOrDeferCommit_fires (b : Option BufferAssignment) :
    (executeOrDeferCommit co k b).Keeps (FiresAtMostOnce k) :=
  .fires_then (.then_fires (claimX11Surface_sameFrames k) fun x =>
    .then_fires (resolveParent_sameFrames x) fun p => .then_fires (registerChild_sameFrames k p x)
    fun _ => .then_fires (entryOrInsert_sameFrames co k) fun _ =>
    .then_fires (pairX11Surface_sameFrames co k x) fun _ => presentEntry_fires co k b)
  fun _ st st' h => by
    simp only [deferUnlessPaired] at h
    split_ifs at h <;> cases h <;> rfl

end Steps

/-- A cursor image fires no callback. -/
theorem cursorImage_sameFrames (co : Collaborators) (image : CursorImageStatus)
    (hotspot : Option Point) (shown : Bool) :
    (cursorImage co image hotspot shown).Keeps SameFrames := by
  intro st st' h
  simp only [cursorImage] at h
  repeat' split at h
  all_goals cases h
  all_goals try rfl
  next s _ _ _ st₁ he =>
    exact (modifyEntry_framesSent st₁ s _).trans
      (entryOrInsert_sameFrames co s st st₁ (by rw [he]; rfl))

/-! ## A cursor's own commit -/

section Cursor

variable {s : SurfaceId} {b : Option BufferAssignment} {st : WprsState}

/-- With every collaborator succeeding and the pool present, the steps after the pairing on a
cursor's entry return, and fire its callbacks once. -/
theorem presentEntry_cursor (hc : (st.surfaces.lookup s).any fun x => Role.isCursor x.role)
    (hp : st.clientState.pool = true) :
    ∃ st', presentEntry ⟨true, true, true, true, true⟩ s b st = .ok () st' ∧
      st'.framesSent = st.framesSent ++ [s] := by
  obtain ⟨x₀, hx₀⟩ : ∃ x₀, st.surfaces.lookup s = some x₀ := by
    cases hl : st.surfaces.lookup s <;> simp_all
  obtain ⟨st₃, h₃, -⟩ := applyBuffer_attached (s := s) (b := b)
    (rfl : (⟨true, true, true, true, true⟩ : Collaborators).bufferContents = true) rfl hp
    (by simp [hx₀])
  have hk₃ := (applyBuffer_updates (F := Preserving fun x => Role.isCursor x.role) _ s b
    (fun _ _ h => h)
    st st₃ (by rw [h₃]; rfl)).entriesKeep s hc
  obtain ⟨st₄, h₄⟩ : ∃ st₄, drawWindowFrame s st₃ = .ok () st₄ := by
    unfold drawWindowFrame
    repeat' split
    all_goals exact ⟨_, rfl⟩
  have hk₄ := (drawWindowFrame_updates (F := Preserving _) s
    (fun x h => (drawFrame_isCursor x).trans h) st₃ st₄ (by rw [h₄]; rfl)).entriesKeep s hk₃
  obtain ⟨x₄, hx₄, hc₄⟩ : ∃ x₄, st₄.surfaces.lookup s = some x₄ ∧ Role.isCursor x₄.role := by
    cases hl : st₄.surfaces.lookup s <;> simp_all
  refine ⟨{ st₄.send [.frame s, .commit s] with framesSent := st₄.framesSent ++ [s] }, ?_, ?_⟩
  · simp [presentEntry, h₃, h₄, frameAndCommit, sendFramesIfLocal, hx₄, hc₄, WprsState.send]
  · rw [drawWindowFrame_sameFrames s st₃ st₄ (by rw [h₄]; rfl),
      applyBuffer_sameFrames _ s b st st₃ (by rw [h₃]; rfl)]

/-- With every collaborator succeeding and the pool present, the steps on the entry of a cursor
that claimed no window return, and fire its callbacks once. -/
theorem updateEntry_cursor (hc : (st.surfaces.lookup s).any fun x => Role.isCursor x.role)
    (hp : st.clientState.pool = true) :
    ∃ st', updateEntry ⟨true, true, true, true, true⟩ s none b st = .ok () st' ∧
      st'.framesSent = st.framesSent ++ [s] := by
  obtain ⟨x₀, hx₀⟩ : ∃ x₀, st.surfaces.lookup s = some x₀ := by
    cases hl : st.surfaces.lookup s <;> simp_all
  have h₁ : entryOrInsert ⟨true, true, true, true, true⟩ s st = .ok () st := by
    simp [entryOrInsert, hx₀]
  obtain ⟨st', h', hf'⟩ := presentEntry_cursor (b := b) hc hp
  exact ⟨st', by simp only [updateEntry, Handler.bind_apply, h₁, pairX11Surface, Handler.pure_apply,
    h'], hf'⟩

/-- A cursor's commit, with no window listed for it, every collaborator succeeding and the pool
present, fires its callbacks once. -/
theorem executeOrDeferCommit_cursor {st' : WprsState}
    (hc : (st.surfaces.lookup s).any fun x => Role.isCursor x.role) (hw : NoWindowFor s st)
    (hp : st.clientState.pool = true)
    (h : (executeOrDeferCommit ⟨true, true, true, true, true⟩ s b st).after = some st') :
    st'.framesSent = st.framesSent ++ [s] := by
  obtain ⟨st₁, h₁, hd⟩ := executeOrDeferCommit_after h
  have hf : st'.framesSent = st₁.framesSent := by rcases hd with rfl | ⟨-, rfl⟩ <;> rfl
  rw [hf]
  have hnone : claimedBy s st = none := by
    simp [claimedBy, (claimFirst_eq_none_iff s _).mpr hw]
  rcases commitInner_cases ⟨true, true, true, true, true⟩ s b st with
    ⟨_, _, hw', -⟩ | ⟨_, st₃, -, hr, hc'⟩
  · rw [hnone] at hw'; cases hw'
  obtain ⟨hc₃, hf₃, hp₃⟩ : (st₃.surfaces.lookup s).any (fun x => Role.isCursor x.role) ∧
      st₃.framesSent = st.framesSent ∧ st₃.clientState.pool = true := by
    rcases hr with rfl | ⟨q, -, -, rfl⟩
    · exact ⟨hc, rfl, hp⟩
    · exact ⟨EntriesKeep.modifyEntry (p := fun x => Role.isCursor x.role)
        (f := fun p => { p with children := p.children.insert s })
        (fun _ h => h) _ _ s hc, modifyEntry_framesSent _ _ _,
        by rw [modifyEntry_clientState]; exact hp⟩
  obtain ⟨st₅, h₅, hf₅⟩ := updateEntry_cursor (b := b) hc₃ hp₃
  rw [hc', hnone, h₅] at h₁
  cases h₁
  rw [hf₅, hf₃]

end Cursor

/-! ## One event -/

/-- The events under which a cursor's count of callbacks follows its commits: its commits and
retries meet no failing collaborator, and no window is listed for it. -/
def Event.KeepsCursor (s : SurfaceId) : Event → Prop
  | .commit k _ co | .idle k _ co => k = s → co = ⟨true, true, true, true, true⟩
  | .newX11Surface w => w.wlSurface ≠ some s
  | _ => True

instance (s : SurfaceId) (ev : Event) : Decidable (ev.KeepsCursor s) :=
  match ev with
  | .commit _ _ _ | .idle _ _ _ => inferInstanceAs (Decidable (_ → _))
  | .newX11Surface _ => inferInstanceAs (Decidable (_ ≠ _))
  | .cursorImage _ _ _ _ | .output _ | .xwaylandReady _ _ _ | .xwaylandExited => isTrue trivial

/-- **One event.** A turn of the loop keeps a cursor with no retry queued and no window listed
so, and fires one callback of it exactly when the event is a client commit of it. -/
theorem dispatch_cursor {ev : Event} {st st' : WprsState} {s : SurfaceId}
    (hc : (st.surfaces.lookup s).any fun x => Role.isCursor x.role) (hq : s ∉ st.idle)
    (hw : NoWindowFor s st) (hp : st.clientState.pool = true) (hev : ev.KeepsCursor s)
    (h : dispatch ev st = .ok st') :
    (st'.surfaces.lookup s).any (fun x => Role.isCursor x.role) ∧ s ∉ st'.idle ∧
      NoWindowFor s st' ∧
      st'.framesSent.count s = st.framesSent.count s + ev.committed.toList.count s := by
  have hsettled : (st.surfaces.lookup s).any XWaylandSurface.settled := by
    cases hl : st.surfaces.lookup s <;> simp_all [XWaylandSurface.settled]
  have hq' : s ∉ st'.idle := by
    have hle := (dispatch_settled hsettled h).2
    rw [List.count_eq_zero.mpr hq] at hle
    exact List.count_eq_zero.mp (Nat.le_zero.mp hle)
  have hw' : NoWindowFor s st' := fun w hw' => by
    rcases dispatch_windows h w hw' with hm | rfl
    exacts [hw w hm, hev]
  refine ⟨dispatch_keepsCursor hw h hc, hq', hw', ?_⟩
  have hd := dispatch_after h
  -- Another surface's commit or retry fires at most one callback, not of `s`.
  have hother {k : SurfaceId} (hk : k ≠ s) (hf : FiresAtMostOnce k st st')
      (hn : ev.committed.toList.count s = 0) :
      st'.framesSent.count s = st.framesSent.count s + ev.committed.toList.count s := by
    rcases hf with hf | hf <;> simp [hf, hn, List.count_singleton', hk]
  cases ev with
  | commit k b co =>
    by_cases hk : k = s
    · subst hk
      obtain rfl := hev rfl
      simp [executeOrDeferCommit_cursor hc hw hp hd, Event.committed]
    · exact hother hk (executeOrDeferCommit_fires co k b st st' hd)
        (by simp [Event.committed, List.count_singleton', Ne.symm hk])
  | idle k b co =>
    simp only [Event.handler] at hd
    split at hd
    next hk =>
      exact hother (fun e => hq (e ▸ hk))
        (executeOrDeferCommit_fires co k b { st with idle := st.idle.erase k } st' hd) rfl
    · cases hd; simp [Event.committed]
  | cursorImage image hotspot co shown =>
    have hf : st'.framesSent = st.framesSent := cursorImage_sameFrames co image hotspot shown st st' hd
    simp [hf, Event.committed]
  | output info => cases hd; simp [handleOutput_framesSent, Event.committed]
  | xwaylandReady display wmStarted wmNamed =>
    obtain rfl := xwaylandReady_after hd
    rfl
  | newX11Surface w => cases hd; rfl
  | xwaylandExited => cases hd; rfl

/-! ## Runs -/

/-- **A cursor's callbacks fire locally, once per commit.** Along every run from any state in
which surface `s` is a cursor with no retry of it queued and no window listed for it, and the
pixel pool is present, and in which no window is listed for `s` and every commit of `s` meets no
failing collaborator, `s` is still a cursor at the end, and the callbacks fired locally for it are
those fired before and one per client commit of it. -/
theorem cursor_frames_local {Admit : WprsState → X11Surface → Prop} {st₀ st : WprsState}
    {evs : List Event} {s : SurfaceId}
    (hc : (st₀.surfaces.lookup s).any fun x => Role.isCursor x.role) (hq : s ∉ st₀.idle)
    (hw : ∀ w ∈ st₀.compositorState.x11Surfaces, w.wlSurface ≠ some s)
    (hp : st₀.clientState.pool = true) (hev : ∀ ev ∈ evs, ev.KeepsCursor s)
    (h : Run Admit st₀ evs st) :
    (st.surfaces.lookup s).any (fun x => Role.isCursor x.role) ∧
      st.framesSent.count s = st₀.framesSent.count s + (evs.filterMap Event.committed).count s := by
  have hrun : (st.surfaces.lookup s).any (fun x => Role.isCursor x.role) ∧ s ∉ st.idle ∧
      NoWindowFor s st ∧
      st.framesSent.count s = st₀.framesSent.count s + (evs.filterMap Event.committed).count s := by
    induction h with
    | nil => exact ⟨hc, hq, hw, rfl⟩
    | @step evs st st' ev hr _ hd ih =>
      obtain ⟨hc₁, hq₁, hw₁, hn₁⟩ := ih fun e he => hev e (List.mem_append_left _ he)
      obtain ⟨hc₂, hq₂, hw₂, hn₂⟩ :=
        dispatch_cursor hc₁ hq₁ hw₁ (hr.clientState ▸ hp) (hev ev (by simp)) hd
      refine ⟨hc₂, hq₂, hw₂, ?_⟩
      rw [hn₂, hn₁, filterMap_committed_snoc, List.count_append, Nat.add_assoc]
  exact ⟨hrun.1, hrun.2.2.2⟩

/-- Surface 10 is a cursor, with no retry queued, and the seat has a pointer. -/
def idleCursor : WprsState :=
  { queuedCursor with clientState := ⟨true, 0, [⟨some 0⟩]⟩, idle := [] }

/-- The cursor commits, surface 20 commits, a cursor image shows surface 10 again, and the cursor
commits a new buffer: two callbacks of surface 10 fire locally. -/
theorem cursor_frames_local_twoCommits :
    ∃ st, Run (fun _ _ => True) idleCursor
      [.commit 10 none ⟨true, true, true, true, true⟩, .commit 20 none ⟨true, true, true, true, true⟩,
        .cursorImage (.surface 10) (some ⟨0, 0⟩) ⟨true, true, true, true, true⟩ true,
        .commit 10 (some (.newBuffer 3)) ⟨true, true, true, true, true⟩] st ∧
      ((st.surfaces.lookup 10).any (fun x => Role.isCursor x.role) ∧
        st.framesSent.count 10 = idleCursor.framesSent.count 10 +
          ([Event.commit 10 none ⟨true, true, true, true, true⟩,
            .commit 20 none ⟨true, true, true, true, true⟩,
            .cursorImage (.surface 10) (some ⟨0, 0⟩) ⟨true, true, true, true, true⟩ true,
            .commit 10 (some (.newBuffer 3)) ⟨true, true, true, true, true⟩].filterMap
              Event.committed).count 10) ∧
      st.framesSent = [10, 20, 10] := by
  have h : Run (fun _ _ => True) idleCursor
      ([] ++ [.commit 10 none ⟨true, true, true, true, true⟩] ++
        [.commit 20 none ⟨true, true, true, true, true⟩] ++
        [.cursorImage (.surface 10) (some ⟨0, 0⟩) ⟨true, true, true, true, true⟩ true] ++
        [.commit 10 (some (.newBuffer 3)) ⟨true, true, true, true, true⟩]) _ :=
    .step (.step (.step (.step .nil trivial rfl) trivial rfl) trivial rfl) trivial rfl
  exact ⟨_, h, cursor_frames_local rfl (by decide) (by decide) rfl (by decide) h, rfl⟩

end XwaylandXdgShell
