import XwaylandXdgShell.Isolation

/-!
# What the bridge asks of the remote compositor

The handlers send requests on a surface's remote object. A commit that removes the buffer
detaches it (line 441). A dirty frame is redrawn (line 448). Every commit ends with `frame` and
`commit` (lines 452-453). A surface-backed cursor is set with `set_cursor` (line 529). The remote
object comes into being with the surface's entry (`XWaylandSurface::new`), so a request on a
surface with no entry would be a request on an object the bridge never made.

**The law** (`requests_name_entries`): along every run, from any state, no entry is removed, and
the requests sent before the run stay as they were. Every request the run sends on a surface
names a surface that has an entry at the end. Some event of the run was about that surface: a
commit or a retry of it, or a cursor image showing it. Events about other surfaces, windows,
outputs and the X server's signals send nothing on it.

It rests on one relation, `Sends`, that every step keeps: `Handler.Keeps.bind` carries it through
each handler's sequence of steps. Each request is sent after the entry it names was found or
created (`entryOrInsert_ok`). A buffer's removal and the closing `frame` and `commit` would
violate it on a surface without an entry, so their steps keep it only from a state in which the
surface has one (`SendsOnEntry`).

**What it does not establish.** Anything about the order of the requests, or that they reach the
remote compositor: the connection is outside this file.
-/

namespace XwaylandXdgShell

/-- The surface whose remote object a request is on; hiding the cursor and a named cursor are
requests on the pointer. -/
def Request.surface : Request → Option SurfaceId
  | .attach s | .drawFrame s | .frame s | .commit s => some s
  | .setCursor _ s _ => some s
  | .hideCursor | .setNamedCursor _ => none

/-- From `st` to `st'` no entry is removed, and the requests sent are those sent by `st`, then
requests on surfaces that `about` allows and that have an entry in `st'`. -/
structure Sends (about : SurfaceId → Prop) (st st' : WprsState) : Prop where
  keys : ∀ k, (st.surfaces.lookup k).isSome → (st'.surfaces.lookup k).isSome
  sent : ∃ rs, st'.remote = st.remote ++ rs ∧
    ∀ r ∈ rs, ∀ k, r.surface = some k → about k ∧ (st'.surfaces.lookup k).isSome

/-- A change in place keeps which surfaces have an entry. -/
theorem isSome_lookup_modifyEntry (st : WprsState) (s k : SurfaceId)
    (f : XWaylandSurface → XWaylandSurface) :
    ((st.modifyEntry s f).surfaces.lookup k).isSome = (st.surfaces.lookup k).isSome := by
  rw [lookup_modifyEntry]
  split_ifs with h
  · subst h; simp
  · rfl

section Sends

variable {about : SurfaceId → Prop} {st st' st'' : WprsState}

theorem Sends.refl (st : WprsState) : Sends about st st :=
  ⟨fun _ h => h, [], by simp, by simp⟩

theorem Sends.trans (h : Sends about st st') (h' : Sends about st' st'') : Sends about st st'' := by
  obtain ⟨rs, hr, hrs⟩ := h.sent
  obtain ⟨rs', hr', hrs'⟩ := h'.sent
  refine ⟨fun k hk => h'.keys k (h.keys k hk), rs ++ rs', by rw [hr', hr, List.append_assoc], ?_⟩
  intro r hr k hk
  rcases List.mem_append.mp hr with hr | hr
  · exact ⟨(hrs r hr k hk).1, h'.keys k (hrs r hr k hk).2⟩
  · exact hrs' r hr k hk

instance : IsPreorder WprsState (Sends about) where
  refl := Sends.refl
  trans _ _ _ := Sends.trans

theorem Sends.mono {about' : SurfaceId → Prop} (hab : ∀ k, about k → about' k)
    (h : Sends about st st') : Sends about' st st' := by
  obtain ⟨rs, hr, hrs⟩ := h.sent
  exact ⟨h.keys, rs, hr, fun r hr k hk => ⟨hab k (hrs r hr k hk).1, (hrs r hr k hk).2⟩⟩

/-- A change that removes no entry and sends nothing. -/
theorem Sends.quiet
    (hk : ∀ k, (st.surfaces.lookup k).isSome → (st'.surfaces.lookup k).isSome)
    (hr : st'.remote = st.remote) : Sends about st st' :=
  ⟨hk, [], by simp [hr], by simp⟩

theorem Sends.modifyEntry (st : WprsState) (s : SurfaceId) (f : XWaylandSurface → XWaylandSurface) :
    Sends about st (st.modifyEntry s f) :=
  .quiet (fun k hk => by rwa [isSome_lookup_modifyEntry])
    (by unfold WprsState.modifyEntry; split <;> rfl)

theorem Sends.insert (st : WprsState) (s : SurfaceId) (x : XWaylandSurface) :
    Sends about st { st with surfaces := st.surfaces.insert s x } :=
  .quiet (fun _ hk => AList.lookup_isSome.mpr
    ((AList.mem_insert _).mpr (.inr (AList.lookup_isSome.mp hk)))) rfl

/-- Sending requests on surfaces that `about` allows and that have an entry. -/
theorem Sends.send {rs : List Request}
    (h : ∀ r ∈ rs, ∀ k, r.surface = some k → about k ∧ (st.surfaces.lookup k).isSome) :
    Sends about st (st.send rs) :=
  ⟨fun _ h => h, rs, rfl, h⟩

/-- Sending requests on one surface, which `about` allows and which has an entry. -/
theorem Sends.sendOn (s : SurfaceId) (hab : about s) (hs : (st.surfaces.lookup s).isSome)
    {rs : List Request} (hrs : ∀ r ∈ rs, r.surface = some s) : Sends about st (st.send rs) :=
  .send fun r hr k hk => by
    rw [hrs r hr] at hk
    cases hk
    exact ⟨hab, hs⟩

end Sends

/-- `Sends` from every state in which `s` has an entry. -/
def SendsOnEntry (s : SurfaceId) (about : SurfaceId → Prop) (st st' : WprsState) : Prop :=
  (st.surfaces.lookup s).isSome → Sends about st st'

instance {s : SurfaceId} {about : SurfaceId → Prop} : IsPreorder WprsState (SendsOnEntry s about) where
  refl st _ := .refl st
  trans _ _ _ h h' hs := (h hs).trans (h' ((h hs).keys s hs))

/-! ## The steps of a commit -/

section Steps

variable {about : SurfaceId → Prop} (co : Collaborators) (s : SurfaceId)

theorem claimX11Surface_sends : (claimX11Surface s).Keeps (Sends about) := by
  intro st st' h
  simp only [claimX11Surface] at h
  split at h <;> cases h <;> exact .quiet (fun _ h => h) rfl

theorem resolveParent_sends (x : Option X11Surface) : (resolveParent x).Keeps (Sends about) := by
  intro st st' h
  simp only [resolveParent] at h
  split at h <;> cases h
  exact .refl st

theorem registerChild_sends (parent : Option X11Parent) (x : Option X11Surface) :
    (registerChild s parent x).Keeps (Sends about) := by
  intro st st' h
  rcases registerChild_cases s parent x st with he | ⟨q, -, -, -, he⟩ | ⟨q, p, -, -, -, he⟩ <;>
    rw [he] at h <;> cases h
  exacts [.refl st, .modifyEntry _ _ _]

theorem entryOrInsert_sends : (entryOrInsert co s).Keeps (Sends about) := by
  intro st st' h
  simp only [entryOrInsert] at h
  repeat' split at h
  all_goals cases h
  exacts [.refl st, .insert st s _, .refl st]

theorem pairX11Surface_sends (x : Option X11Surface) :
    (pairX11Surface co s x).Keeps (Sends about) := by
  intro st st' h
  simp only [pairX11Surface] at h
  repeat' split at h
  all_goals cases h
  exacts [.modifyEntry _ _ _, .refl st, .refl st]

/-- A buffer's removal detaches the remote surface, which is there when the entry is. -/
theorem applyBuffer_sends (hab : about s) (b : Option BufferAssignment) :
    (applyBuffer co s b).Keeps (SendsOnEntry s about) := by
  intro st st' h hs
  simp only [applyBuffer] at h
  repeat' split at h
  all_goals cases h
  all_goals try exact .refl st
  all_goals try exact .modifyEntry _ _ _
  exact (Sends.modifyEntry st s _).trans
    (.sendOn s hab (by rwa [isSome_lookup_modifyEntry]) (by simp [Request.surface]))

theorem drawWindowFrame_sends (hab : about s) : (drawWindowFrame s).Keeps (Sends about) := by
  intro st st' h
  simp only [drawWindowFrame] at h
  repeat' split at h
  all_goals cases h
  all_goals try exact .refl st
  next x hx _ =>
    exact (Sends.modifyEntry st s _).trans
      (.sendOn s hab (by simp [isSome_lookup_modifyEntry, hx]) (by simp [Request.surface]))

theorem sendFramesIfLocal_sends : (sendFramesIfLocal co s).Keeps (Sends about) := by
  intro st st' h
  simp only [sendFramesIfLocal] at h
  repeat' split at h
  all_goals cases h
  all_goals exact .quiet (fun _ h => h) rfl

/-- The steps after the pairing send requests on the surface only, from a state in which it has
an entry. -/
theorem presentEntry_sends (hab : about s) (b : Option BufferAssignment) :
    (presentEntry co s b).Keeps (SendsOnEntry s about) :=
  .bind (applyBuffer_sends co s hab b) fun _ =>
  .bind ((drawWindowFrame_sends s hab).mono fun _ _ h _ => h) fun _ =>
  .bind (fun st _ h hs => by cases h; exact .sendOn s hab hs (by simp [Request.surface])) fun _ =>
  (sendFramesIfLocal_sends co s).mono fun _ _ h _ => h

/-- The steps on the surface's own entry send requests on it only, after finding or creating
the entry. -/
theorem updateEntry_sends (hab : about s) (x : Option X11Surface) (b : Option BufferAssignment) :
    (updateEntry co s x b).Keeps (Sends about) := by
  intro st st' h
  rcases Handler.after_bind h with ⟨e, he⟩ | ⟨⟨⟩, st₁, h₁, h⟩
  · exact entryOrInsert_sends co s st st' (by rw [he]; rfl)
  · have hrest : (pairX11Surface co s x >>= fun _ => presentEntry co s b).Keeps
        (SendsOnEntry s about) :=
      .bind ((pairX11Surface_sends co s x).mono fun _ _ h _ => h) fun _ =>
        presentEntry_sends co s hab b
    exact (entryOrInsert_sends co s st st₁ (by rw [h₁]; rfl)).trans
      (hrest st₁ st' h (entryOrInsert_ok h₁))

/-- A commit sends requests on its own surface only. -/
theorem executeOrDeferCommit_sends (hab : about s) (b : Option BufferAssignment) :
    (executeOrDeferCommit co s b).Keeps (Sends about) :=
  .bind (.bind (claimX11Surface_sends s) fun x => .bind (resolveParent_sends x) fun p =>
    .bind (registerChild_sends s p x) fun _ => updateEntry_sends co s hab x b) fun _ =>
  fun st st' h => by
    simp only [deferUnlessPaired] at h
    split_ifs at h <;> cases h <;> exact .quiet (fun _ h => h) rfl

end Steps

/-! ## One event -/

/-- A cursor image sends requests on the surface it shows only. -/
theorem cursorImage_sends (co : Collaborators) (image : CursorImageStatus)
    (hotspot : Option Point) (shown : Bool) :
    (cursorImage co image hotspot shown).Keeps (Sends fun k => image = .surface k) := by
  intro st st' h
  simp only [cursorImage] at h
  repeat' split at h
  all_goals cases h
  all_goals try exact .refl st
  all_goals try exact .send fun r hr k hk => by simp_all [Request.surface]
  next s _ _ _ st₁ he =>
    refine (entryOrInsert_sends co s st st₁ (by rw [he]; rfl)).trans
      ((Sends.modifyEntry st₁ s _).trans (.sendOn s ?_ ?_ ?_))
    · rfl
    · rw [isSome_lookup_modifyEntry]
      exact entryOrInsert_ok he
    · simp [Request.surface]

theorem handleOutput_remote (st : WprsState) (output : OutputInfo) :
    (handleOutput st output).remote = st.remote := by
  unfold handleOutput; dsimp only

/-- **One event.** A turn of the loop removes no entry, and sends requests only on the surface
its event is about. -/
theorem dispatch_sends {ev : Event} {st st' : WprsState} (h : dispatch ev st = .ok st') :
    Sends (fun k => ev.surface = some k) st st' := by
  have h := dispatch_after h
  cases ev with
  | commit s b co =>
    exact (executeOrDeferCommit_sends co s rfl b st st' h).mono fun _ => congrArg some
  | idle s b co =>
    simp only [Event.handler] at h
    split at h
    · have hq : Sends (Eq s) st { st with idle := st.idle.erase s } := .quiet (fun _ h => h) rfl
      exact (hq.trans (executeOrDeferCommit_sends co s rfl b _ st' h)).mono fun _ => congrArg some
    · cases h; exact .refl st
  | newX11Surface w => cases h; exact .quiet (fun _ h => h) rfl
  | cursorImage image hotspot co shown =>
    exact (cursorImage_sends co image hotspot shown st st' h).mono fun k hk => by subst hk; rfl
  | output info =>
    cases h
    exact .quiet (fun k hk => by rwa [handleOutput_surfaces]) (handleOutput_remote st info)
  | xwaylandReady display wmStarted wmNamed =>
    obtain rfl := xwaylandReady_after h
    exact .quiet (fun _ h => h) rfl
  | xwaylandExited => cases h; exact .quiet (fun _ h => h) rfl

/-! ## Runs -/

/-- Along a run, requests are sent only on surfaces that some event of the run was about. -/
theorem Run.sends {Admit : WprsState → X11Surface → Prop} {st₀ st : WprsState}
    {evs : List Event} (h : Run Admit st₀ evs st) :
    Sends (fun k => ∃ ev ∈ evs, ev.surface = some k) st₀ st := by
  induction h with
  | nil => exact .refl _
  | @step evs st st' ev _ _ hd ih =>
    exact (ih.mono fun k ⟨e, he, hk⟩ => ⟨e, List.mem_append_left _ he, hk⟩).trans
      ((dispatch_sends hd).mono fun k hk => ⟨ev, by simp, hk⟩)

/-- **Requests name surfaces with entries.** Along every run from any state, no entry is removed,
the requests sent before stay as they were, and every request the run sends on a surface names a
surface that has an entry at the end and that an event of the run was about. -/
theorem requests_name_entries {Admit : WprsState → X11Surface → Prop} {st₀ st : WprsState}
    {evs : List Event} (h : Run Admit st₀ evs st) :
    (∀ k, (st₀.surfaces.lookup k).isSome → (st.surfaces.lookup k).isSome) ∧
      ∃ rs, st.remote = st₀.remote ++ rs ∧ ∀ r ∈ rs, ∀ k, r.surface = some k →
        (∃ ev ∈ evs, ev.surface = some k) ∧ (st.surfaces.lookup k).isSome := by
  obtain ⟨rs, hr, hrs⟩ := h.sends.sent
  exact ⟨h.sends.keys, rs, hr, fun r hr k hk => hrs r hr k hk⟩

/-- A commit removing surface 10's buffer, then a cursor image showing surface 11: the requests
are the detach, the frame and commit of 10, and the cursor on 11. -/
theorem requests_name_entries_commitAndCursor :
    ∃ st, Run (fun _ _ => True) (WprsState.new ⟨true, 0, [⟨some 0⟩]⟩)
      [.commit 10 (some .removed) ⟨true, true, true, true, true⟩,
        .cursorImage (.surface 11) (some ⟨0, 0⟩) ⟨true, true, true, true, true⟩ true] st ∧
      ((∀ k, ((WprsState.new ⟨true, 0, [⟨some 0⟩]⟩).surfaces.lookup k).isSome →
          (st.surfaces.lookup k).isSome) ∧
        ∃ rs, st.remote = (WprsState.new ⟨true, 0, [⟨some 0⟩]⟩).remote ++ rs ∧
          ∀ r ∈ rs, ∀ k, r.surface = some k →
            (∃ ev ∈ [Event.commit 10 (some .removed) ⟨true, true, true, true, true⟩,
              .cursorImage (.surface 11) (some ⟨0, 0⟩) ⟨true, true, true, true, true⟩ true],
              ev.surface = some k) ∧ (st.surfaces.lookup k).isSome) ∧
      st.remote = [.attach 10, .frame 10, .commit 10, .setCursor 0 11 ⟨0, 0⟩] := by
  have h : Run (fun _ _ => True) (WprsState.new ⟨true, 0, [⟨some 0⟩]⟩)
      ([] ++ [.commit 10 (some .removed) ⟨true, true, true, true, true⟩] ++
        [.cursorImage (.surface 11) (some ⟨0, 0⟩) ⟨true, true, true, true, true⟩ true]) _ :=
    .step (.step .nil trivial rfl) trivial rfl
  exact ⟨_, h, requests_name_entries h, rfl⟩

end XwaylandXdgShell
