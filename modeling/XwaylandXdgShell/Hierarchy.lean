import XwaylandXdgShell.Pairing

/-!
# The parent/child graph

A commit that claims a window transient for another lists the committing surface among the
children of the entry paired with that other window (lines 382-396), after asserting that the
two are not the same surface. The graph has an edge `p → c` when `c` is among `p`'s children
(`ChildEdge`), and a cycle is a path from a surface back to itself.

What is proved:

- `no_self_parent`: along every run, whatever windows are listed, no surface is its own child.
  This is the assertion's guarantee, and all it gives.
- `children_acyclic`: along every run in which the window manager lists a window only for a
  surface that is neither paired nor associated with a listed window (`SurfaceFresh`), the graph
  has no cycle. An edge is only ever added into the committing surface, which had a listed
  window and so was unpaired, and an unpaired entry has no children (`Forest`): the new edge
  ends at a surface with no way out, and closes no cycle (`transGen_of_sink`).

Fresh window ids alone do not give acyclicity: a surface already paired and holding a child
can claim a second window, transient for that child's window, and the two surfaces become each
other's children (`repaired_cycle`).
-/

namespace XwaylandXdgShell

/-- An edge of the parent/child graph: `c` is listed among the children of `p`. -/
def ChildEdge (st : WprsState) (p c : SurfaceId) : Prop :=
  c ∈ childrenOf st p

instance (st : WprsState) (p c : SurfaceId) : Decidable (ChildEdge st p c) :=
  inferInstanceAs (Decidable (c ∈ childrenOf st p))

/-! ## No surface is its own child -/

theorem CommitEffect.not_self {s : SurfaceId} {st st' : WprsState} (hc : CommitEffect s st st')
    (h : ∀ k, ¬ ChildEdge st k k) (k : SurfaceId) : ¬ ChildEdge st' k k := fun hk =>
  (hc.children k k hk).elim (h k) fun ⟨hks, hne, _⟩ => hne hks

/-- No surface is its own child, along every run. -/
theorem no_self_parent {Admit : WprsState → X11Surface → Prop} {cs : ClientState}
    {evs : List Event} {st : WprsState} (h : Run Admit (WprsState.new cs) evs st)
    (k : SurfaceId) : ¬ ChildEdge st k k := by
  refine Run.of_effects (I := fun st => ∀ k, ¬ ChildEdge st k k) (fun k hk => by cases hk)
    (fun _ _ _ hi hc => hc.not_self hi) (fun _ _ hi hs k => ?_)
    (fun _ _ _ hi _ hs _ k => ?_) h k
  · simpa [ChildEdge, hs.children k] using hi k
  · simpa [ChildEdge, childrenOf, hs] using hi k

/-- Window 3 of surface 10, transient for window 2. -/
def cycleWindow : X11Surface :=
  { windowId := 3, wlSurface := some 10, transientFor := some 2, overrideRedirect := false,
    loc := ⟨0, 0⟩ }

/-- Surface 10 is paired with window 1, surface 20 with window 2 (transient for 1, so a child
of 10), and then surface 10 claims window 3, transient for window 2. -/
def repairedParent : List Event :=
  [.newX11Surface parentWindow, .commit 10 none ⟨true, true, true, true, true⟩,
    .newX11Surface childWindow, .commit 20 none ⟨true, true, true, true, true⟩,
    .newX11Surface cycleWindow, .commit 10 none ⟨true, true, true, true, true⟩]

/-- Surfaces 10 and 20 become each other's children, and neither is its own. -/
theorem no_self_parent_repaired :
    ∃ st, Run (fun _ _ => True) (WprsState.new ⟨true, 0, []⟩) repairedParent st ∧
      ChildEdge st 10 20 ∧ ChildEdge st 20 10 ∧ ∀ k, ¬ ChildEdge st k k := by
  have h : Run (fun _ _ => True) (WprsState.new ⟨true, 0, []⟩)
      ([] ++ [.newX11Surface parentWindow] ++ [.commit 10 none ⟨true, true, true, true, true⟩] ++
        [.newX11Surface childWindow] ++ [.commit 20 none ⟨true, true, true, true, true⟩] ++
        [.newX11Surface cycleWindow] ++ [.commit 10 none ⟨true, true, true, true, true⟩]) _ :=
    .step (.step (.step (.step (.step (.step .nil trivial rfl) trivial rfl) trivial rfl) trivial rfl)
      trivial rfl) trivial rfl
  exact ⟨_, h, by decide, by decide, no_self_parent h⟩

/-! ## No cycle -/

/-- Adding edges that all end at a vertex with no outgoing edge closes no path that did not
exist, except paths to that vertex. -/
theorem transGen_of_sink {r r' : SurfaceId → SurfaceId → Prop} {s : SurfaceId}
    (hsub : ∀ a b, r' a b → r a b ∨ b = s) (hsink : ∀ b, ¬ r' s b) {a b : SurfaceId}
    (h : Relation.TransGen r' a b) : Relation.TransGen r a b ∨ b = s := by
  induction h with
  | single hab => exact (hsub _ _ hab).imp .single id
  | tail _ hbc ih =>
    rcases ih with ih | rfl
    · exact (hsub _ _ hbc).imp ih.tail id
    · exact absurd hbc (hsink _)

/-- A parent/child graph without cycles, in which only paired entries have children. -/
structure Forest (st : WprsState) : Prop where
  pending : PendingUnpaired st
  parents : ∀ k c, ChildEdge st k c → bindingOf st k ≠ none
  acyclic : ∀ k, ¬ Relation.TransGen (ChildEdge st) k k

theorem Forest.new (cs : ClientState) : Forest (WprsState.new cs) where
  pending := .new cs
  parents _ _ h := by cases h
  acyclic k h := by
    obtain ⟨c, hc, -⟩ := Relation.TransGen.head'_iff.mp h
    cases hc

theorem Forest.same {st st' : WprsState} (h : Forest st) (hs : SameTopology st st') :
    Forest st' := by
  have he : ChildEdge st' = ChildEdge st := by
    funext p c
    simp [ChildEdge, hs.children p]
  refine ⟨h.pending.same hs, fun k c hk => ?_, he ▸ h.acyclic⟩
  rw [hs.binding k]
  exact h.parents k c (he ▸ hk)

theorem Forest.add {st st' : WprsState} {w : X11Surface} (h : Forest st)
    (hw : SurfaceFresh st w) (hs : st'.surfaces = st.surfaces)
    (hx : st'.compositorState.x11Surfaces = st.compositorState.x11Surfaces ++ [w]) :
    Forest st' := by
  have he : ChildEdge st' = ChildEdge st := by
    funext p c
    simp [ChildEdge, childrenOf, hs]
  refine ⟨h.pending.add hw hs hx, fun k c hk => ?_, he ▸ h.acyclic⟩
  simpa [bindingOf, hs] using h.parents k c (he ▸ hk)

/-- A commit adds edges only into its surface, which had a listed window, so was unpaired, so
had no children: the new edges close no cycle. -/
theorem Forest.commit {s : SurfaceId} {st st' : WprsState} (h : Forest st)
    (hc : CommitEffect s st st') : Forest st' := by
  have hparents : ∀ k c, ChildEdge st' k c → bindingOf st' k ≠ none := by
    intro k c hk
    rcases hc.children k c hk with hk | ⟨-, -, w, parentId, -, -, hwin⟩
    · obtain ⟨v, hv⟩ := Option.ne_none_iff_exists'.mp (h.parents k c hk)
      simp [h.pending.binding_stays hc hv]
    · obtain ⟨v, hv, -⟩ := Option.map_eq_some'.mp hwin
      simp [h.pending.binding_stays hc hv]
  refine ⟨h.pending.commit hc, hparents, fun k hk => ?_⟩
  rcases claim_cases s st with ⟨hn, -⟩ | ⟨w, hw, hws, hp⟩
  · -- nothing claimed: no new edge
    refine h.acyclic k (hk.mono fun a b hab => ?_)
    exact (hc.children a b hab).resolve_right fun ⟨_, _, _, _, hw, _⟩ => by simp [hn] at hw
  · -- `w` claimed: `s` was unpaired, so has no children, and all new edges end at `s`
    have hunpaired : bindingOf st s = none :=
      h.pending.unpaired w (hp.subset (List.mem_cons_self w _)) s hws
    have hsink : ∀ c, ¬ ChildEdge st' s c := fun c hsc =>
      (hc.children s c hsc).elim (fun hsc => h.parents s c hsc hunpaired)
        fun ⟨hcs, hne, _⟩ => hne rfl
    have hsub : ∀ a b, ChildEdge st' a b → ChildEdge st a b ∨ b = s := fun a b hab =>
      (hc.children a b hab).imp id And.left
    rcases transGen_of_sink hsub hsink hk with hk | rfl
    · exact h.acyclic k hk
    · obtain ⟨c, hkc, -⟩ := Relation.TransGen.head'_iff.mp hk
      exact hsink c hkc

/-- No cycle of children, along every run in which the window manager lists a window only for a
surface that is neither paired nor associated with a listed window. -/
theorem children_acyclic {cs : ClientState} {evs : List Event} {st : WprsState}
    (h : Run SurfaceFresh (WprsState.new cs) evs st) (k : SurfaceId) :
    ¬ Relation.TransGen (ChildEdge st) k k :=
  (Run.of_effects (Forest.new cs) (fun _ _ _ hi hc => hi.commit hc) (fun _ _ hi hs => hi.same hs)
    (fun _ _ _ hi hw hs hx => hi.add hw hs hx) h).acyclic k

/-- Surface 20 is registered as a child of surface 10, and there is no cycle. -/
theorem children_acyclic_childRegistered :
    ∃ st, Run SurfaceFresh (WprsState.new ⟨true, 0, []⟩)
      [.newX11Surface parentWindow, .commit 10 none ⟨true, true, true, true, true⟩,
        .newX11Surface childWindow, .commit 20 none ⟨true, true, true, true, true⟩] st ∧
      childrenOf st 10 = [20] ∧ ∀ k, ¬ Relation.TransGen (ChildEdge st) k k := by
  have h : Run SurfaceFresh (WprsState.new ⟨true, 0, []⟩)
      ([] ++ [.newX11Surface parentWindow] ++ [.commit 10 none ⟨true, true, true, true, true⟩] ++
        [.newX11Surface childWindow] ++ [.commit 20 none ⟨true, true, true, true, true⟩]) _ :=
    .step (.step (.step (.step .nil ?_ rfl) trivial rfl) ?_ rfl) trivial rfl
  · exact ⟨_, h, rfl, children_acyclic h⟩
  all_goals exact show SurfaceFresh _ _ by decide

/-- A run listing only windows with fresh ids reaches a cycle: 10 and 20 are each other's
children. -/
theorem repaired_cycle :
    ∃ st, Run FreshWindow (WprsState.new ⟨true, 0, []⟩) repairedParent st ∧
      Relation.TransGen (ChildEdge st) 10 10 := by
  refine ⟨_, show Run FreshWindow (WprsState.new ⟨true, 0, []⟩)
      ([] ++ [.newX11Surface parentWindow] ++ [.commit 10 none ⟨true, true, true, true, true⟩] ++
        [.newX11Surface childWindow] ++ [.commit 20 none ⟨true, true, true, true, true⟩] ++
        [.newX11Surface cycleWindow] ++ [.commit 10 none ⟨true, true, true, true, true⟩]) _ from
    .step (.step (.step (.step (.step (.step .nil ?_ rfl) trivial rfl) ?_ rfl) trivial rfl) ?_ rfl)
      trivial rfl, .tail (.single (show ChildEdge _ 10 20 by decide))
        (show ChildEdge _ 20 10 by decide)⟩ <;>
  exact show FreshWindow _ _ by decide

end XwaylandXdgShell
