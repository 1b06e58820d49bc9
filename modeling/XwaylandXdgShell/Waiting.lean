import XwaylandXdgShell.Buffers
import XwaylandXdgShell.Isolation

/-!
# A surface waiting for its window keeps retrying

A surface the client commits before the window manager lists its window is neither paired nor a
cursor, so `execute_or_defer_commit` queues a retry of it (lines 250-259). The retry does the
same while the window is still missing, and each retry sends a frame request and a commit for the
surface (`retry_sends_requests`).

**The law** (`waiting_retries_persist`): consider a run, from any state, in which a surface waits
for its window: it has an entry that is neither paired nor a cursor, and no window listed for it.
Suppose that along the run the window manager lists no window for it, no cursor image shows it,
and its own commits and retries meet no failing collaborator, with the pixel pool present. Then
it is still waiting at the end, and its queued retries are exactly those it had at the start and
one for each client commit of it. Events of other surfaces neither pair it nor take its retries
off the queue (`others_keep_entry`), and a retry of it that runs queues its successor. A surface
with a retry queued keeps one for as long as its window does not come.

**What it does not establish.** That the retries stop once the window is listed: that is
`retry_pairs` with `settled_never_deferred`. Nor what a failing step does: a commit or retry that
returns `Err` queues no retry, and the surface then waits for its next client commit.
-/

namespace XwaylandXdgShell

/-- Surface `s` waits for its window: it has an entry that is neither paired nor a cursor, and no
listed window is associated with it. -/
def Waiting (s : SurfaceId) (st : WprsState) : Prop :=
  (∃ x, st.surfaces.lookup s = some x ∧ x.settled = false) ∧
    ∀ w ∈ st.compositorState.x11Surfaces, w.wlSurface ≠ some s

/-- The events under which a waiting surface keeps waiting: its own commits and retries meet no
failing collaborator, no window is listed for it, and no cursor image shows it. -/
def Event.KeepsWaiting (s : SurfaceId) : Event → Prop
  | .commit k _ co | .idle k _ co => k = s → co = ⟨true, true, true, true, true⟩
  | .newX11Surface w => w.wlSurface ≠ some s
  | .cursorImage image _ _ _ => image ≠ .surface s
  | _ => True

instance (s : SurfaceId) (ev : Event) : Decidable (ev.KeepsWaiting s) :=
  match ev with
  | .commit _ _ _ | .idle _ _ _ => inferInstanceAs (Decidable (_ → _))
  | .newX11Surface _ => inferInstanceAs (Decidable (_ ≠ _))
  | .cursorImage _ _ _ _ => inferInstanceAs (Decidable (_ ≠ _))
  | .output _ | .xwaylandReady _ _ _ | .xwaylandExited => isTrue trivial

theorem drawFrame_settled (x : XWaylandSurface) : x.drawFrame.settled = x.settled := by
  simp [XWaylandSurface.settled, drawFrame_x11Surface, drawFrame_isCursor]

/-- An entry that has grown has the window and role it had, so it is settled as it was. -/
theorem XWaylandSurface.Grows.settled {x x' : XWaylandSurface} (h : x.Grows x') :
    x'.settled = x.settled := by
  simp [XWaylandSurface.settled, h.1, h.2.1]

/-! ## The surface's own commit -/

/-- With every collaborator succeeding and the pool present, the steps on the entry return. -/
theorem updateEntry_ok (s : SurfaceId) (x : Option X11Surface) (b : Option BufferAssignment)
    {st : WprsState} (hp : st.clientState.pool = true) :
    ∃ st', updateEntry ⟨true, true, true, true, true⟩ s x b st = .ok () st' := by
  obtain ⟨st₁, st₂, h₁, h₂, hs₂, hc₂⟩ :=
    entryAndPair_ok (rfl : (⟨true, true, true, true, true⟩ : Collaborators).surfaceNew = true) rfl
      s x st
  obtain ⟨st₃, h₃, -⟩ := applyBuffer_attached (b := b)
    (rfl : (⟨true, true, true, true, true⟩ : Collaborators).bufferContents = true) rfl
    (hc₂ ▸ hp) hs₂
  obtain ⟨st₄, h₄⟩ : ∃ st₄, drawWindowFrame s st₃ = .ok () st₄ := by
    unfold drawWindowFrame
    repeat' split
    all_goals exact ⟨_, rfl⟩
  obtain ⟨st₅, h₅⟩ : ∃ st₅, sendFramesIfLocal ⟨true, true, true, true, true⟩ s
      (st₄.send [.frame s, .commit s]) = .ok () st₅ := by
    unfold sendFramesIfLocal
    split
    · split <;> exact ⟨_, rfl⟩
    · exact ⟨_, rfl⟩
  exact ⟨st₅, by simp only [updateEntry, presentEntry, Handler.bind_apply, h₁, h₂, h₃, h₄,
    frameAndCommit, Handler.modify_apply, h₅]⟩

/-- A commit of a waiting surface, with every collaborator succeeding and the pool present,
claims nothing, returns, and leaves the surface waiting and the queue as it was. -/
theorem commitInner_waiting {s : SurfaceId} {b : Option BufferAssignment} {st : WprsState}
    (hw : Waiting s st) (hp : st.clientState.pool = true) :
    ∃ st', commitInner ⟨true, true, true, true, true⟩ s b st = .ok () st' ∧ Waiting s st' ∧
      st'.idle = st.idle := by
  have hclaim : claimFirst s st.compositorState.x11Surfaces = none :=
    (claimFirst_eq_none_iff s _).mpr hw.2
  have hnone : claimedBy s st = none := by simp [claimedBy, hclaim]
  rcases commitInner_cases ⟨true, true, true, true, true⟩ s b st with
    ⟨w, _, hw', -⟩ | ⟨parent, st₃, hf, hr, hc⟩
  · rw [hnone] at hw'; cases hw'
  rw [hnone] at hc hf
  cases hf
  have hst₃ : st₃ = st.withX11Surfaces st.compositorState.x11Surfaces := by
    rcases hr with rfl | ⟨q, hq, -⟩
    · simp [unclaimed, hclaim]
    · cases hq
  subst hst₃
  obtain ⟨st', h'⟩ := updateEntry_ok s none b
    (hp : (st.withX11Surfaces st.compositorState.x11Surfaces).clientState.pool = true)
  have hu := updateEntry_updates (F := Preserving fun x => !x.settled) _ s none b
    (fun _ hw => by cases hw) (fun _ _ h => h) (fun x h => by simpa [drawFrame_settled] using h)
    _ st' (by rw [h']; rfl)
  obtain ⟨x, hx, hxs⟩ := hw.1
  have hkeep := hu.entriesKeep s (by simp [hx, hxs])
  refine ⟨st', hc.trans h', ⟨?_, ?_⟩, hu.idle⟩
  · cases hl : st'.surfaces.lookup s with
    | none => simp [hl] at hkeep
    | some x' => exact ⟨x', rfl, by simpa [hl] using hkeep⟩
  · rw [hu.compositorState]
    exact hw.2

/-- The surface's commit and its retry: the commit returns, and the retry is queued. -/
theorem executeOrDeferCommit_waiting {s : SurfaceId} {b : Option BufferAssignment}
    {st : WprsState} (hw : Waiting s st) (hp : st.clientState.pool = true) :
    ∃ st', executeOrDeferCommit ⟨true, true, true, true, true⟩ s b st =
      .ok () { st' with idle := st.idle ++ [s] } ∧ Waiting s st' := by
  obtain ⟨st', h', hw', hi⟩ := commitInner_waiting (b := b) hw hp
  obtain ⟨x, hx, hxs⟩ := hw'.1
  refine ⟨st', ?_, hw'⟩
  simp only [executeOrDeferCommit, commit, Handler.bind_apply, h', deferUnlessPaired_apply, hx,
    Option.any_some, hxs, hi]
  rfl

/-! ## One event -/

/-- A turn of the loop keeps a surface waiting when its event keeps it waiting, and changes the
number of its queued retries only by a client commit of it, which queues one. -/
theorem dispatch_waiting {ev : Event} {st st' : WprsState} {s : SurfaceId}
    (hw : Waiting s st) (hp : st.clientState.pool = true) (hev : ev.KeepsWaiting s)
    (h : dispatch ev st = .ok st') :
    Waiting s st' ∧ st'.idle.count s = st.idle.count s + ev.committed.toList.count s := by
  have hidle := dispatch_idle_cases h
  -- An event about another surface: the entry grows, and no window is listed for `s`.
  have hother (hs : ev.surface ≠ some s)
      (hc : st'.idle.count s = st.idle.count s + ev.committed.toList.count s) :
      Waiting s st' ∧ st'.idle.count s = st.idle.count s + ev.committed.toList.count s := by
    obtain ⟨x, hx, hxs⟩ := hw.1
    obtain ⟨x', hx', hg⟩ := dispatch_isolated hs h hx
    refine ⟨⟨⟨x', hx', hg.settled ▸ hxs⟩, fun w hw' => ?_⟩, hc⟩
    rcases dispatch_windows h w hw' with hm | rfl
    · exact hw.2 w hm
    · exact hev
  have hown {k : SurfaceId} {b : Option BufferAssignment} {co : Collaborators} {st₀ : WprsState}
      (h₀ : (executeOrDeferCommit co k b st₀).after = some st') (hk : k = s)
      (hco : co = ⟨true, true, true, true, true⟩) (hw₀ : Waiting s st₀)
      (hp₀ : st₀.clientState.pool = true) : Waiting s st' ∧ st'.idle = st₀.idle ++ [s] := by
    subst hk hco
    obtain ⟨st₁, h₁, hw₁⟩ := executeOrDeferCommit_waiting (b := b) hw₀ hp₀
    rw [h₁] at h₀
    cases h₀
    exact ⟨⟨hw₁.1, hw₁.2⟩, rfl⟩
  cases ev with
  | commit k b co =>
    by_cases hk : k = s
    · obtain ⟨hw', hi⟩ := hown (dispatch_after h) hk (hev hk) hw hp
      subst hk
      exact ⟨hw', by simp [hi, Event.committed]⟩
    · refine hother (fun e => hk (Option.some.inj e)) ?_
      rcases hidle with he | he <;> simp [he, Event.committed, List.count_cons, hk]
  | idle k b co =>
    have hh := dispatch_after h
    simp only [Event.handler] at hh
    split at hh
    next hq =>
      by_cases hk : k = s
      · obtain ⟨hw', hi⟩ := hown hh hk (hev hk) hw hp
        subst hk
        refine ⟨hw', ?_⟩
        rw [hi]
        simp [List.count_erase_self, Nat.sub_add_cancel (List.count_pos_iff.mpr hq),
          Event.committed]
      · refine hother (fun e => hk (Option.some.inj e)) ?_
        rcases hidle with he | ⟨-, he | he⟩ <;>
          simp [he, List.count_erase_of_ne (Ne.symm hk), Event.committed, List.count_cons, hk]
    · cases hh; exact ⟨hw, by simp [Event.committed]⟩
  | cursorImage image hotspot co shown =>
    refine hother (fun e => hev ?_) (by simp [hidle, Event.committed])
    cases image <;> cases e
    rfl
  | _ => exact hother (by rintro ⟨⟩) (by simp [hidle, Event.committed])

/-! ## Runs -/

/-- **A waiting surface keeps its retries.** Along every run from any state in which surface `s`
waits for its window, with the pixel pool present, and in which no window is listed for `s`, no
cursor image shows `s`, and every commit and retry of `s` meets no failing collaborator, `s` is
still waiting at the end, and its queued retries are those it had at the start and one for each
client commit of it. -/
theorem waiting_retries_persist {Admit : WprsState → X11Surface → Prop} {st₀ st : WprsState}
    {evs : List Event} {s : SurfaceId} (hw : Waiting s st₀) (hp : st₀.clientState.pool = true)
    (hev : ∀ ev ∈ evs, ev.KeepsWaiting s) (h : Run Admit st₀ evs st) :
    Waiting s st ∧ st.idle.count s = st₀.idle.count s + (evs.filterMap Event.committed).count s := by
  induction h with
  | nil => exact ⟨hw, rfl⟩
  | @step evs st st' ev hr _ hd ih =>
    obtain ⟨hw₁, hc₁⟩ := ih fun e he => hev e (List.mem_append_left _ he)
    obtain ⟨hw₂, hc₂⟩ := dispatch_waiting hw₁ (hr.clientState ▸ hp) (hev ev (by simp)) hd
    refine ⟨hw₂, ?_⟩
    rw [hc₂, hc₁, filterMap_committed_snoc, List.count_append, Nat.add_assoc]

/-- Surface 10 has an entry and a queued retry, and no window. -/
def waitingRetry : WprsState :=
  { unpairedEntry with idle := [10] }

/-- Its retry runs, another surface commits and gets a window listed, and the retry of surface 10
runs again: surface 10 still waits, with its one retry queued. -/
theorem waiting_retries_persist_otherWindow :
    ∃ st, Run (fun _ _ => True) waitingRetry
      [.idle 10 none ⟨true, true, true, true, true⟩, .commit 20 none ⟨true, true, true, true, true⟩,
        .newX11Surface childWindow, .idle 10 none ⟨true, true, true, true, true⟩] st ∧
      (Waiting 10 st ∧ st.idle.count 10 = waitingRetry.idle.count 10 +
        ([Event.idle 10 none ⟨true, true, true, true, true⟩,
          .commit 20 none ⟨true, true, true, true, true⟩, .newX11Surface childWindow,
          .idle 10 none ⟨true, true, true, true, true⟩].filterMap Event.committed).count 10) ∧
      st.idle.count 10 = 1 := by
  have h : Run (fun _ _ => True) waitingRetry
      ([] ++ [.idle 10 none ⟨true, true, true, true, true⟩] ++
        [.commit 20 none ⟨true, true, true, true, true⟩] ++ [.newX11Surface childWindow] ++
        [.idle 10 none ⟨true, true, true, true, true⟩]) _ :=
    .step (.step (.step (.step .nil trivial rfl) trivial rfl) trivial rfl) trivial rfl
  have hw : Waiting 10 waitingRetry :=
    ⟨⟨XWaylandSurface.new, rfl, rfl⟩, by simp [waitingRetry, unpairedEntry, WprsState.new,
      WprsCompositorState.new]⟩
  exact ⟨_, h, waiting_retries_persist hw rfl (by decide) h, rfl⟩

end XwaylandXdgShell
