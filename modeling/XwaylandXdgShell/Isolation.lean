import XwaylandXdgShell.Retry

/-!
# Surfaces do not interfere

Every surface of the Xwayland client has its own registry entry, and the handlers act on one
surface at a time: a commit or a retry on its own surface, a cursor image on the surface it
shows. What such an event may do to the entry of ANOTHER surface is one thing only: when the
other surface is the parent found for the window the commit claims, it gains the committing
surface as a child (line 395).

**The law** (`others_keep_entry`): along every run, from any state, in which no event is about
surface `s` — no commit or retry of `s`, no cursor image showing `s` — the entry of `s`, if it has
one, keeps its window, its role and its buffer, and keeps every child it had. Every child it
gains is a surface that some event of the run commits or retries, and which claimed a window
transient for the window `s` is paired with, listed at the start or during the run
(`ChildAdded`). That holds whatever windows the window manager lists, and whatever fails or
panics.

It rests on two step facts. The first (`dispatch_isolated`) rests on the relation `Grows` on
entries, carried through each handler by one registry lemma (`EntryUpdates.entryGrows`): the
in-place changes at a key other than the event's own surface are registrations of a child. The
second (`dispatch_childOf`) reads which child is registered off the effect of a commit
(`CommitEffect`).

**What it does not establish.** That an absent entry stays absent. Only a surface's own events
create its entry, but the relation the handlers are proved against does not say where an entry is
created.
-/

namespace XwaylandXdgShell

/-- The surface whose own entry an event acts on: a commit's, a retry's, a surface cursor's. -/
def Event.surface : Event → Option SurfaceId
  | .commit s _ _ | .idle s _ _ => some s
  | .cursorImage (.surface s) _ _ _ => some s
  | _ => none

/-- `x'` is `x` with the same window, role and buffer, and at least its children. -/
def XWaylandSurface.Grows (x x' : XWaylandSurface) : Prop :=
  x'.x11Surface = x.x11Surface ∧ x'.role = x.role ∧ x'.buffer = x.buffer ∧ x.children ⊆ x'.children

theorem XWaylandSurface.Grows.refl (x : XWaylandSurface) : x.Grows x :=
  ⟨rfl, rfl, rfl, List.Subset.refl _⟩

theorem XWaylandSurface.Grows.trans {x x' x'' : XWaylandSurface} (h : x.Grows x')
    (h' : x'.Grows x'') : x.Grows x'' :=
  ⟨h'.1.trans h.1, h'.2.1.trans h.2.1, h'.2.2.1.trans h.2.2.1,
    List.Subset.trans h.2.2.2 h'.2.2.2⟩

/-- Registering a child grows the parent's entry. -/
theorem XWaylandSurface.grows_insert (x : XWaylandSurface) (c : SurfaceId) :
    x.Grows { x with children := x.children.insert c } :=
  ⟨rfl, rfl, rfl, fun _ h => List.mem_insert_of_mem h⟩

/-! ## One key through a registry change -/

/-- The in-place changes another surface's event may make at the entry of `s`: any change at
another key, and at `s` only changes that grow the entry. -/
def GrowsAt (s : SurfaceId) (k : SurfaceId) (f : XWaylandSurface → XWaylandSurface) : Prop :=
  k ≠ s ∨ ∀ x : XWaylandSurface, x.Grows (f x)

/-- An entry that every in-place change at its key grows is still there after a registry change,
and has grown. -/
theorem EntryUpdates.entryGrows {s : SurfaceId} {st st' : WprsState}
    (h : EntryUpdates (GrowsAt s) st st') {x : XWaylandSurface}
    (hx : st.surfaces.lookup s = some x) : ∃ x', st'.surfaces.lookup s = some x' ∧ x.Grows x' := by
  induction h generalizing x with
  | same hs _ _ => exact ⟨x, hs ▸ hx, .refl x⟩
  | @modify st k f hf =>
    rw [lookup_modifyEntry]
    split_ifs with hk
    · subst hk
      exact ⟨f x, by rw [hx]; rfl, Or.resolve_left hf (fun h => h rfl) x⟩
    · exact ⟨x, hx, .refl x⟩
  | @create st k hk =>
    have hne : s ≠ k := by rintro rfl; rw [hx] at hk; cases hk
    exact ⟨x, by rw [AList.lookup_insert_ne hne]; exact hx, .refl x⟩
  | trans _ _ ih ih' =>
    obtain ⟨x₁, h₁, hg₁⟩ := ih hx
    obtain ⟨x₂, h₂, hg₂⟩ := ih' h₁
    exact ⟨x₂, h₂, hg₁.trans hg₂⟩

/-! ## One event -/

/-- A commit of another surface grows the entry of `s`: the registration adds at most a child to
it, and the steps on the committing surface's own entry do not touch it. -/
theorem commitInner_isolated {co : Collaborators} {k s : SurfaceId} {b : Option BufferAssignment}
    {st st' : WprsState} (hk : k ≠ s) (h : (commitInner co k b st).after = some st')
    {x : XWaylandSurface} (hx : st.surfaces.lookup s = some x) :
    ∃ x', st'.surfaces.lookup s = some x' ∧ x.Grows x' := by
  rcases commitInner_cases co k b st with ⟨_, _, _, _, hc⟩ | ⟨_, st₃, -, hr, hc⟩ <;> rw [hc] at h
  · cases h
  obtain ⟨x₃, h₃, hg₃⟩ : ∃ x₃, st₃.surfaces.lookup s = some x₃ ∧ x.Grows x₃ := by
    rcases hr with rfl | ⟨q, -, -, rfl⟩
    · exact ⟨x, hx, .refl x⟩
    · have hx' : (st.withX11Surfaces (unclaimed k st)).surfaces.lookup s = some x := hx
      exact EntryUpdates.entryGrows (.modify (f := fun p => { p with children := p.children.insert k })
        (Or.inr fun y => y.grows_insert k)) hx'
  obtain ⟨x', h', hg'⟩ := EntryUpdates.entryGrows (updateEntry_updates (F := GrowsAt s) co k _ b
    (fun _ _ => Or.inl hk) (fun _ => Or.inl hk) (Or.inl hk) st₃ st' h) h₃
  exact ⟨x', h', hg₃.trans hg'⟩

/-- **One event, another surface.** A turn of the loop whose event is not about `s` grows the
entry of `s`. -/
theorem dispatch_isolated {ev : Event} {st st' : WprsState} {s : SurfaceId}
    (hev : ev.surface ≠ some s) (h : dispatch ev st = .ok st') {x : XWaylandSurface}
    (hx : st.surfaces.lookup s = some x) : ∃ x', st'.surfaces.lookup s = some x' ∧ x.Grows x' := by
  have h := dispatch_after h
  have hcommit {co : Collaborators} {k : SurfaceId} {b : Option BufferAssignment}
      {st₀ : WprsState} (hk : k ≠ s) (h : (executeOrDeferCommit co k b st₀).after = some st')
      (hx : st₀.surfaces.lookup s = some x) :
      ∃ x', st'.surfaces.lookup s = some x' ∧ x.Grows x' := by
    obtain ⟨st₁, h₁, rfl | ⟨-, rfl⟩⟩ := executeOrDeferCommit_after h <;>
      exact commitInner_isolated hk h₁ hx
  have hsame (hs : st'.surfaces = st.surfaces) :
      ∃ x', st'.surfaces.lookup s = some x' ∧ x.Grows x' := ⟨x, hs ▸ hx, .refl x⟩
  cases ev with
  | commit k b co => exact hcommit (fun e => hev (congrArg some e)) h hx
  | idle k b co =>
    simp only [Event.handler] at h
    split at h
    · exact hcommit (fun e => hev (congrArg some e)) h hx
    · cases h; exact hsame rfl
  | cursorImage image hotspot co shown =>
    refine EntryUpdates.entryGrows (cursorImage_updates (F := GrowsAt s) co image hotspot shown
      (fun k himg => Or.inl fun e => hev (by rw [himg, e]; rfl)) st st' h) hx
  | newX11Surface w => cases h; exact hsame rfl
  | output info => cases h; exact hsame (handleOutput_surfaces st info)
  | xwaylandReady display wmStarted wmNamed => obtain rfl := xwaylandReady_after h; exact hsame rfl
  | xwaylandExited => cases h; exact hsame rfl

/-- A commit adds to the children of the entry of `s` only the committing surface, once it has
claimed a listed window transient for the window `s` is paired with. -/
theorem CommitEffect.childOf {k s : SurfaceId} {st st' : WprsState} (he : CommitEffect k st st')
    {x x' : XWaylandSurface} (hx : st.surfaces.lookup s = some x)
    (hx' : st'.surfaces.lookup s = some x') {c : SurfaceId} (hc : c ∈ x'.children) :
    c ∈ x.children ∨ c = k ∧ ∃ w ∈ st.compositorState.x11Surfaces, w.wlSurface = some c ∧
      ∃ v, x.x11Surface = some v ∧ w.transientFor = some v.windowId := by
  rcases he.children s c (by simpa [childrenOf, hx'] using hc) with hc | ⟨rfl, -, w, _, hw, ht, hwin⟩
  · exact .inl (by simpa [childrenOf, hx] using hc)
  · simp only [XwaylandXdgShell.windowOf, bindingOf, hx, Option.some_bind] at hwin
    obtain ⟨v, hv, rfl⟩ := Option.map_eq_some'.mp hwin
    exact .inr ⟨rfl, w, (claimedBy_spec hw).1, (claimedBy_spec hw).2, v, hv, ht⟩

/-- **One event: the children.** A child a turn of the loop adds to an entry is the surface the
event commits or retries, which claimed a listed window transient for the entry's window. -/
theorem dispatch_childOf {ev : Event} {st st' : WprsState} {s : SurfaceId}
    (h : dispatch ev st = .ok st') {x x' : XWaylandSurface} (hx : st.surfaces.lookup s = some x)
    (hx' : st'.surfaces.lookup s = some x') {c : SurfaceId} (hc : c ∈ x'.children) :
    c ∈ x.children ∨ (∃ b co, ev = .commit c b co ∨ ev = .idle c b co) ∧
      ∃ w ∈ st.compositorState.x11Surfaces, w.wlSurface = some c ∧
        ∃ v, x.x11Surface = some v ∧ w.transientFor = some v.windowId := by
  have hsame (hs : SameTopology st st') : c ∈ x.children := by
    have hxx := hs.children s
    simp only [childrenOf, hx, hx', Option.map_some', Option.getD_some] at hxx
    exact hxx ▸ hc
  have he := dispatch_effect h
  cases ev with
  | commit k b co =>
    exact (he.childOf hx hx' hc).imp_right fun ⟨hk, hw⟩ => ⟨⟨b, co, .inl (by rw [hk])⟩, hw⟩
  | idle k b co =>
    rcases he with he | he
    · exact (he.childOf hx hx' hc).imp_right fun ⟨hk, hw⟩ => ⟨⟨b, co, .inr (by rw [hk])⟩, hw⟩
    · exact .inl (hsame he)
  | newX11Surface w =>
    rw [he.1, hx] at hx'
    cases hx'
    exact .inl hc
  | _ => exact .inl (hsame he)

/-! ## Runs -/

/-- Surface `c` may have been registered, along a run of `evs` from `st₀`, as a child of an entry
paired with `parent`: the run commits or retries `c`, and a window of `c` transient for `parent`
was listed at the start or by the run. -/
def ChildAdded (st₀ : WprsState) (evs : List Event) (parent : Option X11Surface)
    (c : SurfaceId) : Prop :=
  (∃ b co, Event.commit c b co ∈ evs ∨ Event.idle c b co ∈ evs) ∧
    ∃ w, (w ∈ st₀.compositorState.x11Surfaces ∨ Event.newX11Surface w ∈ evs) ∧
      w.wlSurface = some c ∧ ∃ v, parent = some v ∧ w.transientFor = some v.windowId

theorem ChildAdded.snoc {st₀ : WprsState} {evs : List Event} {parent : Option X11Surface}
    {c : SurfaceId} (h : ChildAdded st₀ evs parent c) (ev : Event) :
    ChildAdded st₀ (evs ++ [ev]) parent c :=
  have ⟨⟨b, co, he⟩, w, hw, hc⟩ := h
  ⟨⟨b, co, he.imp (List.mem_append_left _) (List.mem_append_left _)⟩, w,
    hw.imp_right (List.mem_append_left _), hc⟩

/-- **Surfaces do not interfere.** Along every run from any state in which no event is about `s`,
the entry of `s`, if it has one, keeps its window, its role and its buffer, and keeps its
children; every child it gains is a surface that was committed or retried during the run and
claimed a listed window transient for the window of `s`. -/
theorem others_keep_entry {Admit : WprsState → X11Surface → Prop} {st₀ st : WprsState}
    {evs : List Event} {s : SurfaceId} (h : Run Admit st₀ evs st)
    (hs : ∀ ev ∈ evs, ev.surface ≠ some s) {x : XWaylandSurface}
    (hx : st₀.surfaces.lookup s = some x) :
    ∃ x', st.surfaces.lookup s = some x' ∧ x'.x11Surface = x.x11Surface ∧ x'.role = x.role ∧
      x'.buffer = x.buffer ∧ x.children ⊆ x'.children ∧
      ∀ c ∈ x'.children, c ∈ x.children ∨ ChildAdded st₀ evs x.x11Surface c := by
  induction h with
  | nil => exact ⟨x, hx, rfl, rfl, rfl, List.Subset.refl _, fun c hc => .inl hc⟩
  | @step evs st st' ev hr _ hd ih =>
    obtain ⟨x₁, h₁, e₁, e₂, e₃, e₄, hc₁⟩ := ih fun e he => hs e (List.mem_append_left _ he)
    obtain ⟨x₂, h₂, hg₂⟩ := dispatch_isolated (hs ev (by simp)) hd h₁
    have hg : x.Grows x₂ := XWaylandSurface.Grows.trans ⟨e₁, e₂, e₃, e₄⟩ hg₂
    refine ⟨x₂, h₂, hg.1, hg.2.1, hg.2.2.1, hg.2.2.2, fun c hc => ?_⟩
    rcases dispatch_childOf hd h₁ h₂ hc with hc | ⟨⟨b, co, hev⟩, w, hw, hws, v, hv, ht⟩
    · exact (hc₁ c hc).imp_right (·.snoc ev)
    · refine .inr ⟨⟨b, co, ?_⟩, w, (hr.windows w hw).imp_right (List.mem_append_left _), hws,
        v, e₁.symm.trans hv, ht⟩
      rcases hev with rfl | rfl <;> simp

/-- The entry of a surface paired with window 1. -/
def pairedToplevel : XWaylandSurface :=
  XWaylandSurface.new.updateX11Surface 10 parentWindow

/-- Surface 10 is paired with window 1, window 2 of surface 20, transient for window 1, is
listed, and the seat has a pointer. -/
def childListed : WprsState :=
  { WprsState.new ⟨true, 0, [⟨some 0⟩]⟩ with
    surfaces := (∅ : Surfaces).insert 10 pairedToplevel
    compositorState := { (WprsState.new ⟨true, 0, [⟨some 0⟩]⟩).compositorState with
      x11Surfaces := [childWindow] } }

/-- Surface 20 commits and claims window 2, and a cursor image shows surface 12: the entry of
surface 10 keeps its window, role and buffer, and gains surface 20 as a child. -/
theorem others_keep_entry_childCommit :
    ∃ st, Run (fun _ _ => True) childListed
      [.commit 20 none ⟨true, true, true, true, true⟩,
        .cursorImage (.surface 12) (some ⟨0, 0⟩) ⟨true, true, true, true, true⟩ true] st ∧
      (∃ x', st.surfaces.lookup 10 = some x' ∧ x'.x11Surface = pairedToplevel.x11Surface ∧
        x'.role = pairedToplevel.role ∧ x'.buffer = pairedToplevel.buffer ∧
        pairedToplevel.children ⊆ x'.children ∧
        ∀ c ∈ x'.children, c ∈ pairedToplevel.children ∨
          ChildAdded childListed [.commit 20 none ⟨true, true, true, true, true⟩,
            .cursorImage (.surface 12) (some ⟨0, 0⟩) ⟨true, true, true, true, true⟩ true]
            pairedToplevel.x11Surface c) ∧
      childrenOf st 10 = [20] := by
  have h : Run (fun _ _ => True) childListed
      ([] ++ [.commit 20 none ⟨true, true, true, true, true⟩] ++
        [.cursorImage (.surface 12) (some ⟨0, 0⟩) ⟨true, true, true, true, true⟩ true]) _ :=
    .step (.step .nil trivial rfl) trivial rfl
  exact ⟨_, h, others_keep_entry h (by decide) rfl, rfl⟩

end XwaylandXdgShell
