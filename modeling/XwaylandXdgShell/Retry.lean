import XwaylandXdgShell.CommitLaws

/-!
# When retries stop

A commit of a surface whose entry is neither paired with a window nor a cursor queues a retry of
itself (`insert_idle`, lines 250-259), and the retry does the same, until the surface is paired.
This module says when that stops:

- `retry_pairs`: a queued retry of a surface whose window is now listed pairs the surface with
  that window and leaves the queue without it, when `XWaylandSurface::new` and
  `update_x11_surface` succeed, even if the buffer or the frame callbacks fail after;
- `settled_never_deferred`: once a surface's entry is paired or is a cursor (`settled`), no
  event of any run queues a retry of it again, so the retries queued for it only run out;
- `retries_from_commits`: retries do not multiply. Along every run the queue is, up to order,
  part of the queue it started with and the surfaces of the client commits dispatched: a retry
  that runs takes itself off before it queues itself again.

The second rests on two facts about every event: a settled entry stays settled, since no handler
removes an entry, unpairs it or takes its role (`EntryStable`, from `Updates.lean`), and a commit
queues a retry only of its own surface, and only when its entry is not settled after the commit
(`executeOrDeferCommit_after`).
-/

namespace XwaylandXdgShell

/-! ## Settled entries -/

/-- An entry whose commits are not deferred (lines 241-253): it is paired with a window or it is a
cursor. -/
def XWaylandSurface.settled (x : XWaylandSurface) : Bool :=
  x.x11Surface.isSome || Role.isCursor x.role

theorem settled_stable : EntryStable XWaylandSurface.settled where
  pair _ _ _ _ := by simp [XWaylandSurface.settled, XWaylandSurface.updateX11Surface]
  buffer _ _ := id
  drawFrame x := by simp [XWaylandSurface.settled, drawFrame_x11Surface, drawFrame_isCursor]
  cursor _ _ := by simp [XWaylandSurface.settled, Role.isCursor]
  adopt _ _ := id

theorem settled_of_bindingOf {st : WprsState} {s : SurfaceId} {w : X11Surface}
    (h : bindingOf st s = some w) : (st.surfaces.lookup s).any XWaylandSurface.settled := by
  unfold bindingOf at h
  cases hl : st.surfaces.lookup s <;> simp_all [XWaylandSurface.settled]

theorem deferUnlessPaired_apply (s : SurfaceId) (st : WprsState) :
    deferUnlessPaired s st = .ok ()
      (if (st.surfaces.lookup s).any XWaylandSurface.settled then st
        else { st with idle := st.idle ++ [s] }) := by
  unfold deferUnlessPaired XWaylandSurface.settled
  rcases st.surfaces.lookup s with _ | ⟨_ | _, role, _, _⟩
  · simp
  all_goals cases h : Role.isCursor role <;> simp [h]

/-- `execute_or_defer_commit`: the commit, then its own retry, queued exactly when the entry is
not settled after the commit. -/
theorem executeOrDeferCommit_after {co : Collaborators} {s : SurfaceId}
    {b : Option BufferAssignment} {st st' : WprsState}
    (h : (executeOrDeferCommit co s b st).after = some st') :
    ∃ st₁, (commitInner co s b st).after = some st₁ ∧ (st' = st₁ ∨
      (st₁.surfaces.lookup s).any XWaylandSurface.settled = false ∧
        st' = { st₁ with idle := st₁.idle ++ [s] }) := by
  rcases Handler.after_bind h with ⟨e, he⟩ | ⟨⟨⟩, st₁, h₁, h⟩
  · exact ⟨st', congrArg Outcome.after he, .inl rfl⟩
  refine ⟨st₁, congrArg Outcome.after h₁, ?_⟩
  rw [deferUnlessPaired_apply] at h
  split_ifs at h with hs <;> cases h
  · exact .inl rfl
  · exact .inr ⟨by simpa using hs, rfl⟩

/-! ## What a commit keeps -/

/-- A commit leaves the queue alone and changes, of the compositor's own state, only the unpaired
windows: the claim, the registration and the steps on the entry touch nothing else. -/
theorem commitInner_frame {co : Collaborators} {s : SurfaceId} {b : Option BufferAssignment}
    {st st' : WprsState} (h : (commitInner co s b st).after = some st') :
    st'.idle = st.idle ∧ st'.compositorState =
      { st.compositorState with x11Surfaces := st'.compositorState.x11Surfaces } := by
  rcases commitInner_cases co s b st with ⟨_, _, _, _, hc⟩ | ⟨_, st₃, -, hr, hc⟩ <;>
    rw [hc] at h
  · cases h
  have hu := updateEntry_updates (F := fun _ _ => True) co s _ b (fun _ _ => trivial)
    (fun _ => trivial) trivial st₃ st' h
  rw [hu.idle, hu.compositorState]
  rcases hr with rfl | ⟨q, -, -, rfl⟩ <;> simp [WprsState.withX11Surfaces]

/-- A commit keeps every stable property of every entry. -/
theorem commitInner_entriesKeep {p : XWaylandSurface → Bool} (hp : EntryStable p)
    (co : Collaborators) (s : SurfaceId) (b : Option BufferAssignment) :
    (commitInner co s b).Keeps (EntriesKeep p) := by
  intro st st' h
  rcases commitInner_cases co s b st with ⟨_, _, _, _, hc⟩ | ⟨_, st₃, -, hr, hc⟩ <;>
    rw [hc] at h
  · cases h
  have hreg : EntriesKeep p st st₃ := by
    rcases hr with rfl | ⟨q, -, -, rfl⟩
    · exact .of_surfaces rfl
    · exact trans_of _ (.of_surfaces rfl : EntriesKeep p st (st.withX11Surfaces (unclaimed s st)))
        (.modifyEntry (hp.adopt · s) _ _)
  exact trans_of _ hreg (EntryUpdates.entriesKeep (updateEntry_updates co s _ b
    (fun w _ x => hp.pair x s w) (fun b x => hp.buffer x b) hp.drawFrame st₃ st' h))

/-- With `XWaylandSurface::new` and `update_x11_surface` succeeding, the steps on the entry pair
it with the claimed window, whatever fails after. -/
theorem updateEntry_pairs {co : Collaborators} {s : SurfaceId} {w : X11Surface}
    {b : Option BufferAssignment} {st st' : WprsState} (hn : co.surfaceNew = true)
    (hu : co.updateX11Surface = true) (h : (updateEntry co s (some w) b st).after = some st') :
    bindingOf st' s = some w := by
  obtain ⟨st₁, h₁⟩ : ∃ st₁, entryOrInsert co s st = .ok () st₁ := by
    unfold entryOrInsert
    split
    · exact ⟨_, rfl⟩
    · exact ⟨_, by rw [if_pos hn]⟩
  have h₂ : pairX11Surface co s (some w) st₁ =
      .ok () (st₁.modifyEntry s (·.updateX11Surface s w)) := by
    simp [pairX11Surface, hu]
  simp only [updateEntry, Handler.bind_apply, h₁, h₂] at h
  rw [(presentEntry_keeps co s b _ st' h).binding s, pairX11Surface_ok h₂ (entryOrInsert_ok h₁)]
  rfl

/-- A commit that claims a window pairs the surface with it, unless creating or pairing the entry
fails. -/
theorem commitInner_pairs {co : Collaborators} {s : SurfaceId} {b : Option BufferAssignment}
    {st st' : WprsState} {w : X11Surface} (hw : claimedBy s st = some w)
    (hn : co.surfaceNew = true) (hu : co.updateX11Surface = true)
    (h : (commitInner co s b st).after = some st') : bindingOf st' s = some w := by
  rcases commitInner_cases co s b st with ⟨_, _, _, _, hc⟩ | ⟨_, st₃, -, -, hc⟩ <;>
    rw [hc] at h
  · cases h
  rw [hw] at h
  exact updateEntry_pairs hn hu h

/-! ## A retry with its window listed -/

/-- A queued retry of a surface whose window is now listed pairs the surface with that window and
takes the retry off the queue without queueing another, when `XWaylandSurface::new` and
`update_x11_surface` succeed. -/
theorem retry_pairs {s : SurfaceId} {b : Option BufferAssignment} {co : Collaborators}
    {st st' : WprsState} {w : X11Surface} (hq : s ∈ st.idle) (hw : claimedBy s st = some w)
    (hn : co.surfaceNew = true) (hu : co.updateX11Surface = true)
    (h : dispatch (.idle s b co) st = .ok st') :
    bindingOf st' s = some w ∧ st'.idle = st.idle.erase s := by
  have h := dispatch_after h
  simp only [Event.handler, if_pos hq] at h
  have hw' : claimedBy s { st with idle := st.idle.erase s } = some w := hw
  obtain ⟨st₁, h₁, hd⟩ := executeOrDeferCommit_after h
  have hb := commitInner_pairs hw' hn hu h₁
  rcases hd with rfl | ⟨hd, -⟩
  · exact ⟨hb, (commitInner_frame h₁).1⟩
  · simp [settled_of_bindingOf hb] at hd

/-- Surface 10's window is listed and a retry of surface 10 is queued. -/
def queuedRetry : WprsState :=
  { (WprsState.new ⟨true, 0, []⟩).withX11Surfaces [parentWindow] with idle := [10] }

theorem retry_pairs_parentListed :
    ∃ st', dispatch (.idle 10 none ⟨true, true, true, true, true⟩) queuedRetry = .ok st' ∧
      bindingOf st' 10 = some parentWindow ∧ st'.idle = queuedRetry.idle.erase 10 := by
  have h : dispatch (.idle 10 none ⟨true, true, true, true, true⟩) queuedRetry = .ok _ := rfl
  exact ⟨_, h, retry_pairs (by decide) (by rfl) (by rfl) (by rfl) h⟩

/-! ## Settled surfaces are never deferred -/

/-- A turn of the loop keeps a settled entry settled and queues no retry of it. -/
theorem dispatch_settled {ev : Event} {st st' : WprsState} {s : SurfaceId}
    (hs : (st.surfaces.lookup s).any XWaylandSurface.settled) (h : dispatch ev st = .ok st') :
    (st'.surfaces.lookup s).any XWaylandSurface.settled ∧ st'.idle.count s ≤ st.idle.count s := by
  have h := dispatch_after h
  have hcommit {co : Collaborators} {k : SurfaceId} {b : Option BufferAssignment}
      {st₀ : WprsState} (h : (executeOrDeferCommit co k b st₀).after = some st')
      (hst : st₀.surfaces = st.surfaces) :
      (st'.surfaces.lookup s).any XWaylandSurface.settled ∧
        st'.idle.count s ≤ st₀.idle.count s := by
    obtain ⟨st₁, h₁, hd⟩ := executeOrDeferCommit_after h
    have hs₁ := commitInner_entriesKeep settled_stable co k b st₀ st₁ h₁ s (hst ▸ hs)
    rcases hd with rfl | ⟨hn, rfl⟩
    · exact ⟨hs₁, by rw [(commitInner_frame h₁).1]⟩
    · have hks : k ≠ s := by rintro rfl; simp [hn] at hs₁
      exact ⟨hs₁, by simp [(commitInner_frame h₁).1, List.count_singleton', hks]⟩
  cases ev with
  | commit k b co => exact hcommit h rfl
  | idle k b co =>
    simp only [Event.handler] at h
    split at h
    · exact (hcommit h rfl).imp_right (·.trans ((List.erase_sublist _ _).count_le s))
    · cases h; exact ⟨hs, le_rfl⟩
  | newX11Surface w => cases h; exact ⟨hs, le_rfl⟩
  | cursorImage image hotspot co shown =>
    have hu := cursorImage_updates (F := Preserving XWaylandSurface.settled) co image hotspot shown
      (fun _ _ => settled_stable.cursor) st st' h
    exact ⟨hu.entriesKeep s hs, by rw [hu.idle]⟩
  | output info => cases h; exact ⟨by rwa [handleOutput_surfaces], by rw [handleOutput_idle]⟩
  | xwaylandReady display wmStarted wmNamed =>
    obtain rfl := xwaylandReady_after h
    exact ⟨hs, le_rfl⟩
  | xwaylandExited => cases h; exact ⟨hs, le_rfl⟩

/-- Once the entry of `surface` is paired with a window or is a cursor, no event of any run
queues a retry of it: the retries queued for it only run out. -/
theorem settled_never_deferred {Admit : WprsState → X11Surface → Prop} {st₀ st : WprsState}
    {evs : List Event} {s : SurfaceId}
    (hs : (st₀.surfaces.lookup s).any XWaylandSurface.settled) (h : Run Admit st₀ evs st) :
    st.idle.count s ≤ st₀.idle.count s :=
  (Run.inv (fun st => (st.surfaces.lookup s).any XWaylandSurface.settled ∧
      st.idle.count s ≤ st₀.idle.count s) ⟨hs, le_rfl⟩
    (fun _ _ _ hi _ hd => (dispatch_settled hi.1 hd).imp_right (·.trans hi.2)) h).2

/-- Surface 10 is a cursor, with a retry of it queued from before. -/
def queuedCursor : WprsState :=
  { WprsState.new ⟨true, 0, []⟩ with
    surfaces := (∅ : Surfaces).insert 10 { XWaylandSurface.new with role := some .cursor },
    idle := [10] }

/-- A commit of the cursor queues no retry, and the queued one runs and empties the queue. -/
theorem settled_never_deferred_cursor :
    ∃ st, Run (fun _ _ => True) queuedCursor
      [.commit 10 none ⟨true, true, true, true, true⟩,
        .idle 10 none ⟨true, true, true, true, true⟩] st ∧
      st.idle.count 10 ≤ queuedCursor.idle.count 10 := by
  have h : Run (fun _ _ => True) queuedCursor
      ([] ++ [.commit 10 none ⟨true, true, true, true, true⟩] ++
        [.idle 10 none ⟨true, true, true, true, true⟩]) _ :=
    .step (.step .nil trivial rfl) trivial rfl
  exact ⟨_, h, settled_never_deferred (by decide) h⟩

/-! ## Retries do not multiply -/

/-- The surface of a client commit (`CompositorHandler::commit`), if the event is one. -/
def Event.committed : Event → Option SurfaceId
  | .commit surface _ _ => some surface
  | _ => none

theorem filterMap_committed_snoc (evs : List Event) (ev : Event) :
    (evs ++ [ev]).filterMap Event.committed = evs.filterMap Event.committed ++ ev.committed.toList := by
  rw [List.filterMap_append]
  cases ev <;> rfl

/-- A commit and its retry leave the queue as it was, or with a retry of the surface added. -/
theorem executeOrDeferCommit_idle {co : Collaborators} {k : SurfaceId}
    {b : Option BufferAssignment} {st st' : WprsState}
    (h : (executeOrDeferCommit co k b st).after = some st') :
    st'.idle = st.idle ∨ st'.idle = st.idle ++ [k] := by
  obtain ⟨st₁, h₁, rfl | ⟨-, rfl⟩⟩ := executeOrDeferCommit_after h
  · exact .inl (commitInner_frame h₁).1
  · exact .inr (by rw [(commitInner_frame h₁).1])

/-- What a turn of the loop does to the idle queue: a client commit may queue one retry, of its
own surface; a retry that runs takes itself off the queue first and may queue itself again; no
other event touches the queue. -/
theorem dispatch_idle_cases {ev : Event} {st st' : WprsState} (h : dispatch ev st = .ok st') :
    match ev with
    | .commit k _ _ => st'.idle = st.idle ∨ st'.idle = st.idle ++ [k]
    | .idle k _ _ => st'.idle = st.idle ∨
        k ∈ st.idle ∧ (st'.idle = st.idle.erase k ∨ st'.idle = st.idle.erase k ++ [k])
    | _ => st'.idle = st.idle := by
  have h := dispatch_after h
  cases ev with
  | commit k b co => exact executeOrDeferCommit_idle h
  | idle k b co =>
    simp only [Event.handler] at h
    split at h
    next hk => exact .inr ⟨hk, executeOrDeferCommit_idle h⟩
    · cases h; exact .inl rfl
  | newX11Surface w => cases h; rfl
  | cursorImage image hotspot co shown =>
    exact (cursorImage_updates (F := fun _ _ => True) co image hotspot shown
      (fun _ _ => trivial) st st' h).idle
  | output info => cases h; exact handleOutput_idle st info
  | xwaylandReady display wmStarted wmNamed => obtain rfl := xwaylandReady_after h; rfl
  | xwaylandExited => cases h; rfl

/-- The same, up to order: the queue after a turn is part of the queue before and the surface
of a client commit. -/
theorem dispatch_idle {ev : Event} {st st' : WprsState} (h : dispatch ev st = .ok st') :
    st'.idle.Subperm (st.idle ++ ev.committed.toList) := by
  have hc := dispatch_idle_cases h
  have hsame (he : st'.idle = st.idle) : st'.idle.Subperm (st.idle ++ ev.committed.toList) :=
    he ▸ (List.sublist_append_left _ _).subperm
  cases ev with
  | commit k b co =>
    rcases hc with he | he
    · exact hsame he
    · exact he ▸ .refl _
  | idle k b co =>
    rw [show (Event.idle k b co).committed.toList = [] from rfl, List.append_nil]
    rcases hc with he | ⟨hk, he | he⟩
    · exact he ▸ .refl _
    · exact he ▸ (List.erase_sublist _ _).subperm
    · exact he ▸ ((List.perm_append_singleton k _).trans (List.perm_cons_erase hk).symm).subperm
  | _ => exact hsame hc

/-- Every queued retry is owed to a client commit of its surface: along every run the queue is,
up to order, part of the queue it started with and the surfaces of the client commits
dispatched, so no surface ever has more retries queued than commits. -/
theorem retries_from_commits {Admit : WprsState → X11Surface → Prop} {st₀ st : WprsState}
    {evs : List Event} (h : Run Admit st₀ evs st) :
    st.idle.Subperm (st₀.idle ++ evs.filterMap Event.committed) := by
  induction h with
  | nil => simpa using .refl _
  | @step evs st st' ev _ _ hd ih =>
    rw [filterMap_committed_snoc, ← List.append_assoc]
    exact (dispatch_idle hd).trans ((List.subperm_append_right _).mpr ih)

/-- Two commits of an unpaired surface queue two retries, and a retry that runs queues itself
again in place of the one it took: the queue holds as many retries as there were commits. -/
theorem retries_from_commits_twice :
    ∃ st, Run (fun _ _ => True) (WprsState.new ⟨true, 0, []⟩)
      [.commit 10 none ⟨true, true, true, true, true⟩,
        .commit 10 none ⟨true, true, true, true, true⟩,
        .idle 10 none ⟨true, true, true, true, true⟩] st ∧ st.idle = [10, 10] ∧
      st.idle.Subperm ((WprsState.new ⟨true, 0, []⟩).idle ++
        [Event.commit 10 none ⟨true, true, true, true, true⟩,
          .commit 10 none ⟨true, true, true, true, true⟩,
          .idle 10 none ⟨true, true, true, true, true⟩].filterMap Event.committed) := by
  have h : Run (fun _ _ => True) (WprsState.new ⟨true, 0, []⟩)
      ([] ++ [.commit 10 none ⟨true, true, true, true, true⟩] ++
        [.commit 10 none ⟨true, true, true, true, true⟩] ++
        [.idle 10 none ⟨true, true, true, true, true⟩]) _ :=
    .step (.step (.step .nil trivial rfl) trivial rfl) trivial rfl
  exact ⟨_, h, rfl, retries_from_commits h⟩

end XwaylandXdgShell
