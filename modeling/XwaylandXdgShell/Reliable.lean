import XwaylandXdgShell.Retry

/-!
# When entry creation and pairing succeed

The claim's `swap_remove` (line 377) and the registration of the surface among its parent's
children (line 395) happen before `XWaylandSurface::new` and `update_x11_surface`, and nothing
undoes them when either fails (`new_failure_drops_window`). This module is about the runs in
which neither fails (`Event.PairingSucceeds`): there a commit pairs its surface with the window it
claims, whatever fails after (`dispatch_pairing`), and, with windows listed only for fresh
surfaces, two more invariants hold.

- `windows_held`: no window is lost. A window the window manager lists is held in one of two
  places: in `x11_surfaces` until a commit of its surface claims it, and then as that surface's
  entry's window. The surface was unpaired, so no pairing is overwritten (`PendingUnpaired`).
- `children_transient_for_parent`: the registry's parent/child structure follows X11's
  transient-for relation: every child an entry lists is paired with a window transient for the
  window that entry is paired with.
- `single_parent`: with window ids fresh as well, every surface is the child of at most one
  entry; with `children_acyclic`, the children form a forest.
-/

namespace XwaylandXdgShell

/-- `XWaylandSurface::new` and `update_x11_surface` succeed in the event's commit, if it has
one. -/
def Event.PairingSucceeds : Event → Prop
  | .commit _ _ co | .idle _ _ co => co.surfaceNew = true ∧ co.updateX11Surface = true
  | _ => True

instance (ev : Event) : Decidable ev.PairingSucceeds :=
  match ev with
  | .commit _ _ _ | .idle _ _ _ => inferInstanceAs (Decidable (_ ∧ _))
  | .newX11Surface _ | .cursorImage _ _ _ _ | .output _ | .xwaylandReady _ _ _
  | .xwaylandExited => isTrue trivial

/-- What a turn of the loop whose commit, if any, creates and pairs its entry does to the pairing
state: a commit's effect, with the surface then paired with the window it claimed; the addition
of one window; or nothing. -/
theorem dispatch_pairing {ev : Event} {st st' : WprsState} (hev : ev.PairingSucceeds)
    (h : dispatch ev st = .ok st') :
    (∃ s, CommitEffect s st st' ∧ ∀ w, claimedBy s st = some w → bindingOf st' s = some w) ∨
      (∃ w, st'.surfaces = st.surfaces ∧
        st'.compositorState.x11Surfaces = st.compositorState.x11Surfaces ++ [w]) ∨
      SameTopology st st' := by
  have he := dispatch_effect h
  have h := dispatch_after h
  have hpairs {co : Collaborators} {k : SurfaceId} {b : Option BufferAssignment}
      {st₀ : WprsState} (hn : co.surfaceNew = true) (hu : co.updateX11Surface = true)
      (h : (executeOrDeferCommit co k b st₀).after = some st') (w : X11Surface)
      (hw : claimedBy k st₀ = some w) : bindingOf st' k = some w := by
    obtain ⟨st₁, h₁, hd⟩ := executeOrDeferCommit_after h
    have hb := commitInner_pairs hw hn hu h₁
    rcases hd with rfl | ⟨-, rfl⟩ <;> exact hb
  cases ev with
  | commit s b co => exact .inl ⟨s, he, hpairs hev.1 hev.2 h⟩
  | idle s b co =>
    simp only [Event.handler] at h
    split at h
    · exact .inl ⟨s, (executeOrDeferCommit_effect h).of_idle, (hpairs hev.1 hev.2 h :)⟩
    · cases h; exact .inr (.inr (refl_of _ st))
  | newX11Surface w => exact .inr (.inl ⟨w, he⟩)
  | cursorImage => exact .inr (.inr he)
  | output => exact .inr (.inr he)
  | xwaylandReady => exact .inr (.inr he)
  | xwaylandExited => exact .inr (.inr he)

/-! ## No window is lost -/

/-- The window is held by the bridge: listed as unpaired, or paired with an entry. -/
def Held (st : WprsState) (w : X11Surface) : Prop :=
  w ∈ st.compositorState.x11Surfaces ∨ ∃ k, bindingOf st k = some w

/-- A turn of the loop whose commit, if any, creates and pairs its entry keeps every held window
held: the window a commit claims becomes its surface's, and every pairing stays. -/
theorem Held.dispatch {ev : Event} {st st' : WprsState} {w : X11Surface} (hw : Held st w)
    (hp : PendingUnpaired st) (hev : ev.PairingSucceeds) (h : dispatch ev st = .ok st') :
    Held st' w := by
  rcases dispatch_pairing hev h with ⟨s, hc, hb⟩ | ⟨v, hs, hx⟩ | hs
  · rcases hw with hw | ⟨k, hk⟩
    · rcases claim_cases s st with ⟨-, hu⟩ | ⟨v, hv, -, hperm⟩
      · exact .inl (hc.x11 ▸ hu ▸ hw)
      rcases List.mem_cons.mp (hperm.mem_iff.mpr hw) with rfl | hw
      · exact .inr ⟨s, hb _ hv⟩
      · exact .inl (hc.x11 ▸ hw)
    · exact .inr ⟨k, hp.binding_stays hc hk⟩
  · exact hw.imp (fun hw => hx ▸ List.mem_append_left _ hw)
      fun ⟨k, hk⟩ => ⟨k, by simpa [bindingOf, hs] using hk⟩
  · exact hw.imp (hs.x11 ▸ ·) fun ⟨k, hk⟩ => ⟨k, (hs.binding k).trans hk⟩

/-- No window is lost: along every run in which windows are listed only for fresh surfaces and
every commit creates and pairs its entry, every window ever listed is still listed or paired with
an entry. -/
theorem windows_held {cs : ClientState} {evs : List Event} {st : WprsState}
    (h : Run SurfaceFresh (WprsState.new cs) evs st) (hev : ∀ ev ∈ evs, ev.PairingSucceeds)
    {w : X11Surface} (hw : .newX11Surface w ∈ evs) : Held st w := by
  induction h with
  | nil => cases hw
  | step hr _ hd ih =>
    have hev' := fun ev he => hev ev (List.mem_append_left _ he)
    rcases List.mem_append.mp hw with hw | hw
    · exact (ih hev' hw).dispatch (.run hr)
        (hev _ (List.mem_append_right _ (List.mem_singleton_self _))) hd
    · rw [List.mem_singleton] at hw
      subst hw
      exact .inl ((dispatch_effect hd).2 ▸ List.mem_append_right _ (List.mem_singleton_self w))

/-- Window 1 is listed and surface 10 commits: the window is then surface 10's. -/
theorem windows_held_parentListed :
    ∃ st, Run SurfaceFresh (WprsState.new ⟨true, 0, []⟩)
      [.newX11Surface parentWindow, .commit 10 none ⟨true, true, true, true, true⟩] st ∧
      Held st parentWindow := by
  have h : Run SurfaceFresh (WprsState.new ⟨true, 0, []⟩)
      ([] ++ [.newX11Surface parentWindow] ++ [.commit 10 none ⟨true, true, true, true, true⟩]) _ :=
    .step (.step .nil (show SurfaceFresh _ _ by decide) rfl) trivial rfl
  exact ⟨_, h, windows_held h (by decide) (List.mem_cons_self _ _)⟩

/-! ## Children follow transient-for -/

/-- Every child an entry lists is paired with a window transient for the window that entry is
paired with. -/
def TransientChildren (st : WprsState) : Prop :=
  ∀ p c, c ∈ childrenOf st p →
    ∃ w i, bindingOf st c = some w ∧ w.transientFor = some i ∧ windowOf st p = some i

/-- A turn of the loop whose commit, if any, creates and pairs its entry keeps the children
following transient-for: the child a commit registers is its surface, which it pairs with the
window it claimed, transient for the parent's window; every pairing stays. -/
theorem TransientChildren.dispatch {ev : Event} {st st' : WprsState} (ht : TransientChildren st)
    (hp : PendingUnpaired st) (hev : ev.PairingSucceeds) (h : dispatch ev st = .ok st') :
    TransientChildren st' := by
  intro p c hpc
  rcases dispatch_pairing hev h with ⟨s, hc, hb⟩ | ⟨v, hs, -⟩ | hs
  · have hwin {k : SurfaceId} {i : WindowId} (hk : windowOf st k = some i) :
        windowOf st' k = some i := by
      obtain ⟨v, hv, rfl⟩ := Option.map_eq_some'.mp hk
      simp [windowOf, hp.binding_stays hc hv]
    rcases hc.children p c hpc with hpc | ⟨rfl, -, w, i, hw, hti, hwp⟩
    · obtain ⟨w, i, hbc, hti, hwp⟩ := ht p c hpc
      exact ⟨w, i, hp.binding_stays hc hbc, hti, hwin hwp⟩
    · exact ⟨w, i, hb w hw, hti, hwin hwp⟩
  · simpa [bindingOf, windowOf, hs] using ht p c (by simpa [childrenOf, hs] using hpc)
  · simpa [windowOf, hs.binding] using ht p c (hs.children p ▸ hpc)

/-- Children follow transient-for: along every run in which windows are listed only for fresh
surfaces and every commit creates and pairs its entry, every child an entry lists is paired with
a window transient for the window that entry is paired with. -/
theorem children_transient_for_parent {cs : ClientState} {evs : List Event} {st : WprsState}
    (h : Run SurfaceFresh (WprsState.new cs) evs st) (hev : ∀ ev ∈ evs, ev.PairingSucceeds) :
    TransientChildren st := by
  induction h with
  | nil => intro p c hc; simp [childrenOf, WprsState.new] at hc
  | step hr _ hd ih =>
    exact (ih fun ev he => hev ev (List.mem_append_left _ he)).dispatch (.run hr)
      (hev _ (List.mem_append_right _ (List.mem_singleton_self _))) hd

/-- Window 1 of surface 10 and window 2 of surface 20, transient for window 1, each listed and
then committed: surface 20 is surface 10's child, paired with window 2. -/
theorem children_transient_for_parent_childListed :
    ∃ st, Run SurfaceFresh (WprsState.new ⟨true, 0, []⟩)
      [.newX11Surface parentWindow, .commit 10 none ⟨true, true, true, true, true⟩,
        .newX11Surface childWindow, .commit 20 none ⟨true, true, true, true, true⟩] st ∧
      20 ∈ childrenOf st 10 ∧ TransientChildren st := by
  have h : Run SurfaceFresh (WprsState.new ⟨true, 0, []⟩)
      ([] ++ [.newX11Surface parentWindow] ++ [.commit 10 none ⟨true, true, true, true, true⟩] ++
        [.newX11Surface childWindow] ++ [.commit 20 none ⟨true, true, true, true, true⟩]) _ :=
    .step (.step (.step (.step .nil (show SurfaceFresh _ _ by decide) rfl) trivial rfl)
      (show SurfaceFresh _ _ by decide) rfl) trivial rfl
  exact ⟨_, h, by decide, children_transient_for_parent h (by decide)⟩

/-! ## One parent -/

/-- Each surface is listed among the children of at most one entry. -/
def SingleParent (st : WprsState) : Prop :=
  ∀ p p' c, c ∈ childrenOf st p → c ∈ childrenOf st p' → p = p'

/-- A turn of the loop whose commit, if any, creates and pairs its entry keeps every surface with
one parent at most: a commit adds its surface, which had a listed window, so was unpaired, so was
nobody's child, to entries paired with one window id, so to one entry. -/
theorem SingleParent.dispatch {ev : Event} {st st' : WprsState} (hs : SingleParent st)
    (ht : TransientChildren st) (hp : PendingUnpaired st) (hu : UniqueWindows st)
    (hev : ev.PairingSucceeds) (h : dispatch ev st = .ok st') : SingleParent st' := by
  intro p p' c hc hc'
  rcases dispatch_pairing hev h with ⟨s, he, -⟩ | ⟨v, hsf, -⟩ | hsame
  · -- the committing surface had a listed window, so is nobody's child
    have hfresh {k : SurfaceId} {w : X11Surface} (hw : claimedBy s st = some w)
        (hk : s ∈ childrenOf st k) : False := by
      obtain ⟨v, i, hv, -⟩ := ht k s hk
      simp [hp.unpaired w (claimedBy_spec hw).1 s (claimedBy_spec hw).2] at hv
    rcases he.children p c hc with hc | ⟨rfl, -, w, i, hw, hti, hwp⟩ <;>
      rcases he.children p' c hc' with hc' | ⟨hcs, -, w', i', hw', hti', hwp'⟩
    · exact hs p p' c hc hc'
    · subst hcs; exact (hfresh hw' hc).elim
    · exact (hfresh hw hc').elim
    · rw [hw] at hw'
      cases hw'
      rw [hti] at hti'
      cases hti'
      exact hu.paired p p' i hwp hwp'
  · simp only [childrenOf, hsf] at hc hc'
    exact hs p p' c hc hc'
  · rw [hsame.children] at hc hc'
    exact hs p p' c hc hc'

/-- The children form a forest: along every run in which the window manager lists a window only
with an id neither listed nor paired and for a surface that is neither paired nor associated
with a listed window, and every commit creates and pairs its entry, every surface is the child
of at most one entry. -/
theorem single_parent {cs : ClientState} {evs : List Event} {st : WprsState}
    (h : Run (fun st w => SurfaceFresh st w ∧ FreshWindow st w) (WprsState.new cs) evs st)
    (hev : ∀ ev ∈ evs, ev.PairingSucceeds) : SingleParent st := by
  suffices TransientChildren st ∧ SingleParent st from this.2
  induction h with
  | nil =>
    exact ⟨fun p c hc => by simp [childrenOf, WprsState.new] at hc,
      fun p p' c hc => by simp [childrenOf, WprsState.new] at hc⟩
  | step hr _ hd ih =>
    have hev₁ := hev _ (List.mem_append_right _ (List.mem_singleton_self _))
    obtain ⟨ht, hs⟩ := ih fun ev he => hev ev (List.mem_append_left _ he)
    have hp : PendingUnpaired _ := .run (hr.mono fun _ _ h => h.1)
    exact ⟨ht.dispatch hp hev₁ hd,
      hs.dispatch ht hp (.run (fun _ _ h => h.2) hr) hev₁ hd⟩

/-- The run of `children_transient_for_parent_childListed`, with fresh window ids: surface 20 has
the one parent 10. -/
theorem single_parent_childListed :
    ∃ st, Run (fun st w => SurfaceFresh st w ∧ FreshWindow st w) (WprsState.new ⟨true, 0, []⟩)
      [.newX11Surface parentWindow, .commit 10 none ⟨true, true, true, true, true⟩,
        .newX11Surface childWindow, .commit 20 none ⟨true, true, true, true, true⟩] st ∧
      20 ∈ childrenOf st 10 ∧ SingleParent st := by
  have h : Run (fun st w => SurfaceFresh st w ∧ FreshWindow st w) (WprsState.new ⟨true, 0, []⟩)
      ([] ++ [.newX11Surface parentWindow] ++ [.commit 10 none ⟨true, true, true, true, true⟩] ++
        [.newX11Surface childWindow] ++ [.commit 20 none ⟨true, true, true, true, true⟩]) _ :=
    .step (.step (.step (.step .nil (show SurfaceFresh _ _ ∧ FreshWindow _ _ by decide) rfl)
      trivial rfl) (show SurfaceFresh _ _ ∧ FreshWindow _ _ by decide) rfl) trivial rfl
  exact ⟨_, h, by decide, single_parent h (by decide)⟩

end XwaylandXdgShell
