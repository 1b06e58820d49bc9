import XwaylandXdgShell.Footprint

/-!
# Pairing: no window paired twice, and parents that are found

`commit_inner` pairs a surface with the first unpaired window associated with it, and looks the
window's parent up by window id among the paired entries (`find_x11_parent`, whose search
`unwrap`s). Two invariants of the event loop say when that lookup is sound.

- `no_double_pairing`: while the window manager lists only windows whose id is neither listed
  nor paired (`FreshWindow`), no id is ever both listed and paired, and no id is paired with two
  entries, so the lookup has at most one match. The claim takes out of `x11_surfaces` exactly
  the window that is then paired (`claim_cases`), and a commit pairs no other entry
  (`CommitEffect`).
- `parent_found`: while every window is listed only once its transient-for target is paired
  (`ParentPaired`), and only for a surface that is neither paired nor associated with a listed
  window (`SurfaceFresh`), no turn of the loop reaches that `unwrap`, neither a commit nor a
  retry (`dispatch_panic` says where a turn of the loop may panic). The second rule is what makes
  a pairing last (`PendingUnpaired.binding_stays`): a commit changes only its own surface's
  pairing, and that surface was unpaired until then.

Listing the target, and committing its surface, before the child is listed is not enough: a
commit of the target's surface made before the target was listed finds no window and queues a
retry, and a child committed before that retry runs finds no paired target
(`deferred_parent_unwrap`). Nor is the first rule alone: a paired surface that claims a second
window unpairs the first, and a child listed for the first then finds no paired target
(`repaired_target_unwrap`).

Under the same rules, `commit_panics_unreachable` says which panics of a commit remain: only
`find_x11_parent`'s `unreachable!`s, for a parent that is a cursor or has no role. Nothing in
the rules keeps a paired surface from being shown as a cursor image, which makes it a cursor,
and then getting a child, so the first of them is reached
(`commit_panics_unreachable_cursorParent`).
-/

namespace XwaylandXdgShell

/-! ## Window ids -/

/-- The ids of the windows the entries are paired with. -/
def boundIds (st : WprsState) : List WindowId :=
  st.surfaces.entries.filterMap fun e => e.2.x11Surface.map (·.windowId)

theorem mem_boundIds {st : WprsState} {i : WindowId} :
    i ∈ boundIds st ↔ ∃ k, windowOf st k = some i := by
  simp only [boundIds, List.mem_filterMap, windowOf, bindingOf]
  constructor
  · rintro ⟨⟨k, x⟩, he, hx⟩
    exact ⟨k, by rw [AList.mem_lookup_iff.mpr he]; simpa using hx⟩
  · rintro ⟨k, hk⟩
    cases h : st.surfaces.lookup k with
    | none => simp [h] at hk
    | some x => exact ⟨⟨k, x⟩, AList.mem_lookup_iff.mp h, by simpa [h] using hk⟩

/-- A window whose id is neither listed nor paired. -/
def FreshWindow (st : WprsState) (w : X11Surface) : Prop :=
  w.windowId ∉ st.compositorState.x11Surfaces.map (·.windowId) ∧ w.windowId ∉ boundIds st

instance (st : WprsState) (w : X11Surface) : Decidable (FreshWindow st w) :=
  inferInstanceAs (Decidable (_ ∧ _))

/-- No window id twice: the listed ids are distinct, none of them is paired, and no id is
paired with two entries. -/
structure UniqueWindows (st : WprsState) : Prop where
  listed : (st.compositorState.x11Surfaces.map (·.windowId)).Nodup
  unpaired : ∀ w ∈ st.compositorState.x11Surfaces, ∀ k, windowOf st k ≠ some w.windowId
  paired : ∀ k k' i, windowOf st k = some i → windowOf st k' = some i → k = k'

theorem UniqueWindows.new (cs : ClientState) : UniqueWindows (WprsState.new cs) where
  listed := List.nodup_nil
  unpaired _ h := by cases h
  paired _ _ _ h := by simp [windowOf, bindingOf, WprsState.new] at h

theorem UniqueWindows.same {st st' : WprsState} (h : UniqueWindows st)
    (hs : SameTopology st st') : UniqueWindows st' := by
  have hw (k : SurfaceId) : windowOf st' k = windowOf st k := by simp [windowOf, hs.binding k]
  refine ⟨hs.x11 ▸ h.listed, fun w hw' k => ?_, fun k k' i => ?_⟩
  · rw [hw]; exact h.unpaired w (hs.x11 ▸ hw') k
  · rw [hw, hw]; exact h.paired k k' i

theorem UniqueWindows.add {st st' : WprsState} {w : X11Surface} (h : UniqueWindows st)
    (hw : FreshWindow st w) (hs : st'.surfaces = st.surfaces)
    (hx : st'.compositorState.x11Surfaces = st.compositorState.x11Surfaces ++ [w]) :
    UniqueWindows st' := by
  have hk (k : SurfaceId) : windowOf st' k = windowOf st k := by simp [windowOf, bindingOf, hs]
  refine ⟨?_, fun v hv k => ?_, fun k k' i => ?_⟩
  · rw [hx, List.map_append, List.nodup_append]
    exact ⟨h.listed, List.nodup_singleton _, by simpa using hw.1⟩
  · rw [hk]
    rw [hx, List.mem_append, List.mem_singleton] at hv
    rcases hv with hv | rfl
    · exact h.unpaired v hv k
    · exact fun he => hw.2 (mem_boundIds.mpr ⟨k, he⟩)
  · rw [hk, hk]; exact h.paired k k' i

/-- A commit pairs its surface with the window it took out of the list, and no other. -/
theorem UniqueWindows.commit {s : SurfaceId} {st st' : WprsState} (h : UniqueWindows st)
    (hc : CommitEffect s st st') : UniqueWindows st' := by
  rcases claim_cases s st with ⟨hn, hu⟩ | ⟨w, hw, -, hp⟩
  · -- nothing claimed: nothing paired
    have hk (k : SurfaceId) : windowOf st' k = windowOf st k :=
      (hc.windowOf k).resolve_right fun ⟨_, _, hw, _⟩ => by simp [hn] at hw
    refine ⟨hc.x11 ▸ hu ▸ h.listed, fun v hv k => ?_, fun k k' i => ?_⟩
    · rw [hk]; exact h.unpaired v (hu ▸ hc.x11 ▸ hv) k
    · rw [hk, hk]; exact h.paired k k' i
  · -- `w` claimed: the others stay listed, and only `s` may be paired with `w`
    have hnodup := (hp.map (·.windowId)).nodup_iff.mpr h.listed
    rw [List.map_cons, List.nodup_cons] at hnodup
    have hwin : ∀ k, windowOf st' k = windowOf st k ∨ k = s ∧ windowOf st' k = some w.windowId :=
      fun k => (hc.windowOf k).imp_right fun ⟨hk, w', hw', he⟩ => ⟨hk, by simp_all⟩
    have hwl : w ∈ st.compositorState.x11Surfaces := hp.subset (List.mem_cons_self w _)
    refine ⟨hc.x11 ▸ hnodup.2, fun v hv k => ?_, fun k k' i hi hi' => ?_⟩
    · rw [hc.x11] at hv
      rcases hwin k with he | ⟨-, he⟩
      · rw [he]; exact h.unpaired v (mem_of_mem_unclaimed hv) k
      · rw [he]; intro hvw
        exact hnodup.1 (List.mem_map.mpr ⟨v, hv, (Option.some.inj hvw).symm⟩)
    · rcases hwin k with he | ⟨rfl, he⟩ <;> rcases hwin k' with he' | ⟨rfl, he'⟩
      · exact h.paired k k' i (he ▸ hi) (he' ▸ hi')
      · exact absurd (he.symm.trans (hi.trans (hi'.symm.trans he'))) (h.unpaired w hwl k)
      · exact absurd (he'.symm.trans (hi'.trans (hi.symm.trans he))) (h.unpaired w hwl k')
      · rfl

/-- Along every run in which the window manager lists only windows whose id is neither listed
nor paired, no id is listed twice, or both listed and paired, or paired twice. -/
theorem UniqueWindows.run {Admit : WprsState → X11Surface → Prop}
    (hA : ∀ st w, Admit st w → FreshWindow st w) {cs : ClientState} {evs : List Event}
    {st : WprsState} (h : Run Admit (WprsState.new cs) evs st) : UniqueWindows st :=
  Run.of_effects (.new cs) (fun _ _ _ hi hc => hi.commit hc) (fun _ _ hi hs => hi.same hs)
    (fun _ _ _ hi hw hs hx => hi.add (hA _ _ hw) hs hx) h

/-- No double pairing: along every run in which the window manager lists only windows whose id
is neither listed nor paired, no listed window's id is paired, and no id is paired with two
entries. -/
theorem no_double_pairing {cs : ClientState} {evs : List Event} {st : WprsState}
    (h : Run FreshWindow (WprsState.new cs) evs st) :
    (∀ w ∈ st.compositorState.x11Surfaces, ∀ k, windowOf st k ≠ some w.windowId) ∧
      ∀ k k' i, windowOf st k = some i → windowOf st k' = some i → k = k' :=
  have hu := UniqueWindows.run (fun _ _ => id) h
  ⟨hu.unpaired, hu.paired⟩

/-- The window the scenarios below list first: window 1 of surface 10, a top-level window. -/
def parentWindow : X11Surface :=
  { windowId := 1, wlSurface := some 10, transientFor := none, overrideRedirect := false,
    loc := ⟨0, 0⟩ }

/-- Window 2 of surface 20, transient for window 1. -/
def childWindow : X11Surface :=
  { windowId := 2, wlSurface := some 20, transientFor := some 1, overrideRedirect := false,
    loc := ⟨0, 0⟩ }

/-- Window 3 of surface 10, a second top-level window. -/
def secondWindow : X11Surface :=
  { windowId := 3, wlSurface := some 10, transientFor := none, overrideRedirect := false,
    loc := ⟨0, 0⟩ }

/-- Surfaces 10 and 20 are paired with windows 1 and 2, and window 3 is listed for surface 10:
window 3 is not paired, and windows 1 and 2 are paired once each. -/
theorem no_double_pairing_twoPaired :
    ∃ st, Run FreshWindow (WprsState.new ⟨true, 0, []⟩)
      [.newX11Surface parentWindow, .commit 10 none ⟨true, true, true, true, true⟩,
        .newX11Surface childWindow, .commit 20 none ⟨true, true, true, true, true⟩,
        .newX11Surface secondWindow] st ∧
      windowOf st 10 = some 1 ∧ windowOf st 20 = some 2 ∧
      st.compositorState.x11Surfaces = [secondWindow] ∧
      ((∀ w ∈ st.compositorState.x11Surfaces, ∀ k, windowOf st k ≠ some w.windowId) ∧
        ∀ k k' i, windowOf st k = some i → windowOf st k' = some i → k = k') := by
  have h : Run FreshWindow (WprsState.new ⟨true, 0, []⟩)
      ([] ++ [.newX11Surface parentWindow] ++ [.commit 10 none ⟨true, true, true, true, true⟩] ++
        [.newX11Surface childWindow] ++ [.commit 20 none ⟨true, true, true, true, true⟩] ++
        [.newX11Surface secondWindow]) _ :=
    .step (.step (.step (.step (.step .nil ?_ rfl) trivial rfl) ?_ rfl) trivial rfl) ?_ rfl
  · exact ⟨_, h, rfl, rfl, rfl, no_double_pairing h⟩
  all_goals exact show FreshWindow _ _ by decide

/-! ## Parents are found -/

/-- A window for a surface that is neither paired nor associated with a listed window. -/
def SurfaceFresh (st : WprsState) (w : X11Surface) : Prop :=
  ∀ s ∈ w.wlSurface, bindingOf st s = none ∧
    s ∉ st.compositorState.x11Surfaces.filterMap (·.wlSurface)

/-- The window's transient-for target, if it has one, is paired with an entry. -/
def ParentPaired (st : WprsState) (w : X11Surface) : Prop :=
  ∀ parentId ∈ w.transientFor, parentId ∈ boundIds st

/-- The window manager lists a window only once its parent is paired, and only for a surface
new to the bridge. -/
def ParentFirst (st : WprsState) (w : X11Surface) : Prop :=
  SurfaceFresh st w ∧ ParentPaired st w

instance (st : WprsState) (w : X11Surface) : Decidable (SurfaceFresh st w) :=
  inferInstanceAs (Decidable (∀ s ∈ w.wlSurface, _))

instance (st : WprsState) (w : X11Surface) : Decidable (ParentPaired st w) :=
  inferInstanceAs (Decidable (∀ parentId ∈ w.transientFor, _))

instance (st : WprsState) (w : X11Surface) : Decidable (ParentFirst st w) :=
  inferInstanceAs (Decidable (_ ∧ _))

/-- Each surface has at most one listed window, and a surface with a listed window is not
paired. -/
structure PendingUnpaired (st : WprsState) : Prop where
  nodup : (st.compositorState.x11Surfaces.filterMap (·.wlSurface)).Nodup
  unpaired : ∀ w ∈ st.compositorState.x11Surfaces, ∀ s ∈ w.wlSurface, bindingOf st s = none

theorem PendingUnpaired.new (cs : ClientState) : PendingUnpaired (WprsState.new cs) where
  nodup := List.nodup_nil
  unpaired _ h := by cases h

theorem PendingUnpaired.same {st st' : WprsState} (h : PendingUnpaired st)
    (hs : SameTopology st st') : PendingUnpaired st' :=
  ⟨hs.x11 ▸ h.nodup, fun w hw t ht => (hs.binding t).trans (h.unpaired w (hs.x11 ▸ hw) t ht)⟩

theorem PendingUnpaired.add {st st' : WprsState} {w : X11Surface} (h : PendingUnpaired st)
    (hw : SurfaceFresh st w) (hs : st'.surfaces = st.surfaces)
    (hx : st'.compositorState.x11Surfaces = st.compositorState.x11Surfaces ++ [w]) :
    PendingUnpaired st' := by
  have hb (k : SurfaceId) : bindingOf st' k = bindingOf st k := by simp [bindingOf, hs]
  refine ⟨?_, fun v hv t ht => ?_⟩
  · rw [hx, List.filterMap_append, List.nodup_append]
    refine ⟨h.nodup, ?_, ?_⟩
    · cases hs : w.wlSurface <;> simp [hs]
    · intro t ht ht'
      have hwt : w.wlSurface = some t := by cases hs : w.wlSurface <;> simp_all
      exact (hw t hwt).2 ht
  · rw [hb]
    rw [hx, List.mem_append, List.mem_singleton] at hv
    rcases hv with hv | rfl
    · exact h.unpaired v hv t ht
    · exact (hw t ht).1

/-- A commit pairs only its own surface, which had a listed window and so was unpaired: every
pairing that was there stays. -/
theorem PendingUnpaired.binding_stays {s k : SurfaceId} {st st' : WprsState} {v : X11Surface}
    (h : PendingUnpaired st) (hc : CommitEffect s st st') (hk : bindingOf st k = some v) :
    bindingOf st' k = some v := by
  rcases hc.binding k with hb | ⟨rfl, w, hw, -⟩
  · rw [hb, hk]
  · obtain ⟨hwl, hws⟩ := claimedBy_spec hw
    simp [h.unpaired w hwl k hws] at hk

theorem PendingUnpaired.commit {s : SurfaceId} {st st' : WprsState} (h : PendingUnpaired st)
    (hc : CommitEffect s st st') : PendingUnpaired st' := by
  rcases claim_cases s st with ⟨hn, hu⟩ | ⟨w, -, hws, hp⟩
  · have hb (k : SurfaceId) : bindingOf st' k = bindingOf st k :=
      (hc.binding k).resolve_right fun ⟨_, _, hw, _⟩ => by simp [hn] at hw
    exact ⟨hc.x11 ▸ hu ▸ h.nodup,
      fun v hv t ht => (hb t).trans (h.unpaired v (hu ▸ hc.x11 ▸ hv) t ht)⟩
  · have hnd := (hp.filterMap (·.wlSurface)).nodup_iff.mpr h.nodup
    rw [List.filterMap_cons_some hws, List.nodup_cons] at hnd
    refine ⟨hc.x11 ▸ hnd.2, fun v hv t ht => ?_⟩
    rw [hc.x11] at hv
    have hts : t ≠ s := fun e => hnd.1 (List.mem_filterMap.mpr ⟨v, hv, e ▸ ht⟩)
    rcases hc.binding t with hb | ⟨e, -⟩
    · exact hb.trans (h.unpaired v (mem_of_mem_unclaimed hv) t ht)
    · exact absurd e hts

theorem PendingUnpaired.boundIds_stay {s : SurfaceId} {st st' : WprsState} {i : WindowId}
    (h : PendingUnpaired st) (hc : CommitEffect s st st') (hi : i ∈ boundIds st) :
    i ∈ boundIds st' := by
  obtain ⟨k, hk⟩ := mem_boundIds.mp hi
  obtain ⟨v, hv, rfl⟩ := Option.map_eq_some'.mp hk
  exact mem_boundIds.mpr ⟨k, by simp [windowOf, h.binding_stays hc hv]⟩

/-- Along every run in which windows are listed only for fresh surfaces, a surface has at most one
listed window, and is unpaired while it has one. -/
theorem PendingUnpaired.run {cs : ClientState} {evs : List Event} {st : WprsState}
    (h : Run SurfaceFresh (WprsState.new cs) evs st) : PendingUnpaired st :=
  Run.of_effects (.new cs) (fun _ _ _ hi hc => hi.commit hc) (fun _ _ hi hs => hi.same hs)
    (fun _ _ _ hi hw hs hx => hi.add hw hs hx) h

/-- Every listed window's transient-for target is paired, with pairings that last. -/
structure ParentsPaired (st : WprsState) : Prop where
  pending : PendingUnpaired st
  paired : ∀ w ∈ st.compositorState.x11Surfaces, ParentPaired st w

theorem ParentsPaired.run {cs : ClientState} {evs : List Event} {st : WprsState}
    (h : Run ParentFirst (WprsState.new cs) evs st) : ParentsPaired st := by
  refine Run.of_effects ⟨.new cs, fun _ h => by cases h⟩ (fun _ _ _ hi hc => ?_)
    (fun _ _ hi hs => ?_) (fun _ _ _ hi hw hs hx => ?_) h
  · refine ⟨hi.pending.commit hc, fun w hw p hp => ?_⟩
    rw [hc.x11] at hw
    exact hi.pending.boundIds_stay hc (hi.paired w (mem_of_mem_unclaimed hw) p hp)
  · refine ⟨hi.pending.same hs, fun w hw p hp => ?_⟩
    obtain ⟨k, hk⟩ := mem_boundIds.mp (hi.paired w (hs.x11 ▸ hw) p hp)
    exact mem_boundIds.mpr ⟨k, by simp [windowOf, hs.binding k, ← hk]⟩
  · have hb : boundIds _ = boundIds _ := congrArg (List.filterMap _) (congrArg AList.entries hs)
    refine ⟨hi.pending.add hw.1 hs hx, fun v hv p hp => hb ▸ ?_⟩
    rw [hx, List.mem_append, List.mem_singleton] at hv
    rcases hv with hv | rfl
    · exact hi.paired v hv p hp
    · exact hw.2 p hp

/-- With every listed window's parent paired, the search of `find_x11_parent` finds the parent
of every listed window. -/
theorem ParentsPaired.found {st : WprsState} (h : ParentsPaired st) {w : X11Surface}
    (hw : w ∈ st.compositorState.x11Surfaces) :
    findX11Parent st (some w) ≠ .error (.unwrapNone 321) := fun hf => by
  obtain ⟨parentId, ht, hnone⟩ := (findX11Parent_unwrap st w).mp hf
  obtain ⟨k, hk⟩ := mem_boundIds.mp (h.paired w hw parentId ht)
  obtain ⟨p, hl, hpaired⟩ := windowOf_eq_some_iff.mp hk
  simp [hnone ⟨k, p⟩ (AList.mem_lookup_iff.mp hl)] at hpaired

/-- `commit_inner` reads nothing of the retry queue, and neither does `ParentsPaired`: it holds
of the state a retry runs from, with the retry taken off the queue. -/
theorem ParentsPaired.withIdle {st : WprsState} (h : ParentsPaired st) (idle : List SurfaceId) :
    ParentsPaired { st with idle } :=
  ⟨⟨h.pending.nodup, h.pending.unpaired⟩, h.paired⟩

/-- With every listed window's parent paired, no commit reaches the `unwrap` of
`find_x11_parent`. -/
theorem ParentsPaired.no_unwrap {st : WprsState} (h : ParentsPaired st) (co : Collaborators)
    (s : SurfaceId) (b : Option BufferAssignment) :
    commitInner co s b st ≠ .panic (.unwrapNone 321) := fun hp => by
  obtain ⟨w, hw, hf | ⟨q, -, ⟨-, he⟩ | ⟨-, he⟩⟩⟩ := commitInner_panic hp
  · exact h.found (claimedBy_spec hw).1 hf
  · cases he
  · simp at he

/-- Parents are found: along every run in which the window manager lists a window only once its
transient-for target is paired, and only for a surface that is neither paired nor associated
with a listed window, no turn of the loop panics at the `unwrap` of `find_x11_parent`: neither a
client commit, nor a retry, which runs `commit_inner` with itself taken off the queue. -/
theorem parent_found {cs : ClientState} {evs : List Event} {st : WprsState}
    (h : Run ParentFirst (WprsState.new cs) evs st) (ev : Event) :
    dispatch ev st ≠ .error (.unwrapNone 321) := fun hd => by
  have hpp := ParentsPaired.run h
  rcases dispatch_panic hd with ⟨co, s, b, -, hp⟩ | ⟨co, s, b, -, hp⟩ | ⟨-, -, -, -, -, hp⟩ |
    ⟨-, -, -, -, hp⟩
  · exact hpp.no_unwrap co s b hp
  · exact (hpp.withIdle _).no_unwrap co s b hp
  all_goals simp at hp

/-- Window 1 is listed and paired with surface 10, and window 2, transient for window 1, is listed
for surface 20: surface 20's commit claims window 2 and looks its parent up. -/
theorem parent_found_childListed :
    ∃ st, Run ParentFirst (WprsState.new ⟨true, 0, []⟩)
      [.newX11Surface parentWindow, .commit 10 none ⟨true, true, true, true, true⟩,
        .newX11Surface childWindow] st ∧
      claimedBy 20 st = some childWindow ∧
      dispatch (.commit 20 none ⟨true, true, true, true, true⟩) st ≠ .error (.unwrapNone 321) := by
  have h : Run ParentFirst (WprsState.new ⟨true, 0, []⟩)
      ([] ++ [.newX11Surface parentWindow] ++ [.commit 10 none ⟨true, true, true, true, true⟩] ++
        [.newX11Surface childWindow]) _ :=
    .step (.step (.step .nil ?_ rfl) trivial rfl) ?_ rfl
  · exact ⟨_, h, rfl, parent_found h _⟩
  all_goals exact show ParentFirst _ _ by decide

/-- A commit of surface 10 before its window is listed, window 1 of surface 10 listed, then
window 2 of surface 20, transient for window 1, and a commit of surface 20. -/
def deferredParent : List Event :=
  [.commit 10 none ⟨true, true, true, true, true⟩, .newX11Surface parentWindow,
    .newX11Surface childWindow, .commit 20 none ⟨true, true, true, true, true⟩]

/-- The parent's window is listed, and its surface committed, before the child's window is
listed; yet the child's commit panics at the `unwrap`, because the parent's commit came before
its window and its retry has not run. -/
theorem deferred_parent_unwrap :
    run deferredParent (WprsState.new ⟨true, 0, []⟩) = .error (.unwrapNone 321) :=
  rfl

/-- Surface 10 is paired with window 1, window 2 of surface 20, transient for window 1, is
listed, and surface 10 claims a second window, window 3, before surface 20 commits. -/
def repairedTarget : List Event :=
  [.newX11Surface parentWindow, .commit 10 none ⟨true, true, true, true, true⟩,
    .newX11Surface childWindow, .newX11Surface secondWindow,
    .commit 10 none ⟨true, true, true, true, true⟩]

/-- Listing every window only once its transient-for target is paired is not enough either:
pairing surface 10 with window 3 unpairs window 1, and surface 20's commit then panics at the
`unwrap`. Window 3 is listed for a surface already paired, which `SurfaceFresh` excludes. -/
theorem repaired_target_unwrap :
    ∃ st, Run ParentPaired (WprsState.new ⟨true, 0, []⟩) repairedTarget st ∧
      dispatch (.commit 20 none ⟨true, true, true, true, true⟩) st = .error (.unwrapNone 321) := by
  refine ⟨_, show Run ParentPaired (WprsState.new ⟨true, 0, []⟩)
      ([] ++ [.newX11Surface parentWindow] ++ [.commit 10 none ⟨true, true, true, true, true⟩] ++
        [.newX11Surface childWindow] ++ [.newX11Surface secondWindow] ++
        [.commit 10 none ⟨true, true, true, true, true⟩]) _ from
    .step (.step (.step (.step (.step .nil ?_ rfl) trivial rfl) ?_ rfl) ?_ rfl) trivial rfl, rfl⟩
  all_goals exact show ParentPaired _ _ by decide

/-! ## The panics that remain -/

/-- Along every run in which windows are listed parent first, a commit that panics does so at
one of `find_x11_parent`'s `unreachable!`s: its parent is a cursor, or has no role. The search's
`unwrap`, the assertion against self-parenting and the registration's `unwrap` are never
reached: the parent found is paired, while the committing surface, which had a listed window, is
not. This holds whatever the retry queue holds, so of a retry too, which runs `commit_inner` with
itself taken off the queue. -/
theorem commit_panics_unreachable {cs : ClientState} {evs : List Event} {st : WprsState}
    (h : Run ParentFirst (WprsState.new cs) evs st) (idle : List SurfaceId) {co : Collaborators}
    {s : SurfaceId} {b : Option BufferAssignment} {p : Panic}
    (hp : commitInner co s b { st with idle } = .panic p) :
    p = .unreachable "Cursors cannot have child surfaces." ∨
      p = .unreachable "Parent doesn't yet have a role assigned. This is a race condition." := by
  have hpp := (ParentsPaired.run h).withIdle idle
  obtain ⟨w, hw, hf | ⟨q, hq, ⟨rfl, -⟩ | ⟨hl, -⟩⟩⟩ := commitInner_panic hp
  · rcases findX11Parent_error hf with rfl | hp
    exacts [absurd hf (hpp.found (claimedBy_spec hw).1), hp]
  all_goals obtain ⟨_, parentId, e, -, -, he, hpaired⟩ := findX11Parent_eq_some hq
  · have hwin := windowOf_of_pairedWith he hpaired
    have hun := hpp.pending.unpaired w (claimedBy_spec hw).1 _ (claimedBy_spec hw).2
    simp [windowOf, hun] at hwin
  · rw [hl] at he
    cases he

/-- Surface 10 claims window 1, a cursor image then shows surface 10, which becomes a cursor (line
525), and window 2 of surface 20, transient for window 1, is listed. -/
def cursorParent : List Event :=
  [.newX11Surface parentWindow, .commit 10 none ⟨true, true, true, true, true⟩,
    .cursorImage (.surface 10) (some ⟨0, 0⟩) ⟨true, true, true, true, true⟩ true,
    .newX11Surface childWindow]

/-- The windows are listed parent first, yet surface 20's commit panics, at the cursor's
`unreachable!`. -/
theorem commit_panics_unreachable_cursorParent :
    ∃ st p, Run ParentFirst (WprsState.new ⟨true, 0, [⟨some 0⟩]⟩) cursorParent st ∧
      commitInner ⟨true, true, true, true, true⟩ 20 none st = .panic p ∧
      (p = .unreachable "Cursors cannot have child surfaces." ∨
        p = .unreachable "Parent doesn't yet have a role assigned. This is a race condition.") := by
  have h : Run ParentFirst (WprsState.new ⟨true, 0, [⟨some 0⟩]⟩)
      ([] ++ [.newX11Surface parentWindow] ++ [.commit 10 none ⟨true, true, true, true, true⟩] ++
        [.cursorImage (.surface 10) (some ⟨0, 0⟩) ⟨true, true, true, true, true⟩ true] ++
        [.newX11Surface childWindow]) _ :=
    .step (.step (.step (.step .nil ?_ rfl) trivial rfl) trivial rfl) ?_ rfl
  · refine ⟨_, .unreachable "Cursors cannot have child surfaces.", h, ?hp,
      commit_panics_unreachable h _ ?hp⟩
    rfl
  all_goals exact show ParentFirst _ _ by decide

end XwaylandXdgShell
