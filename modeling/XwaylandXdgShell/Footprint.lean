import XwaylandXdgShell.Updates

/-!
# What a step can do to the pairing state

The pairing state of the bridge is three things: the unpaired windows (`x11_surfaces`), the
window each entry is paired with (`bindingOf`), and the children each entry lists
(`childrenOf`). An absent entry is paired with nothing and lists no child, so creating an entry
is invisible here — which is what lets a cursor image, a fresh entry or an output descriptor
leave the pairing state alone (`SameTopology`).

This module says once what each event can do to it, so that every invariant of `Pairing.lean`
and `Hierarchy.lean` is a case analysis over three effects instead of a walk through the
handlers:

- `commitInner_effect`: a commit of `surface`, whether it returns `Ok` or `Err`, removes from
  `x11_surfaces` exactly the window its claim takes (`claimFirst`), changes no pairing but
  `surface`'s, which can only become that window, removes no child, and adds no child but
  `surface`, to an entry other than `surface` paired with the claimed window's parent
  (`CommitEffect`);
- `dispatch_effect`: every event is a commit of some surface, the addition of one window, or
  leaves the pairing state alone (`Event.Effect`), so a window listed after a turn of the loop was
  listed before it or added by it (`dispatch_windows`);
- `Run.of_effects`: a property kept by those three holds along every run.

What each handler does to the registry comes from `Updates.lean`: registry changes that keep
every entry's window and children keep the topology (`EntryUpdates.sameTopology`), and the steps
on the committing surface's entry, which add its pairing, keep `PairStep`
(`EntryUpdates.pairStep`). The claim and the registration are the two steps of a commit that
change the topology: `commitInner_cases` says once what a commit does, as a panic or as the
steps on the entry run after them, and `register_effect` what those two steps do.
-/

namespace XwaylandXdgShell

/-! ## The pairing state -/

/-- The window the entry of `k` is paired with; nothing when there is no entry. -/
def bindingOf (st : WprsState) (k : SurfaceId) : Option X11Surface :=
  (st.surfaces.lookup k).bind (·.x11Surface)

/-- The children the entry of `k` lists; none when there is no entry. -/
def childrenOf (st : WprsState) (k : SurfaceId) : List SurfaceId :=
  ((st.surfaces.lookup k).map (·.children)).getD []

/-- The id of the window the entry of `k` is paired with. -/
def windowOf (st : WprsState) (k : SurfaceId) : Option WindowId :=
  (bindingOf st k).map (·.windowId)

@[simp] theorem bindingOf_withX11Surfaces (st : WprsState) (l : List X11Surface) (k : SurfaceId) :
    bindingOf (st.withX11Surfaces l) k = bindingOf st k := rfl

@[simp] theorem childrenOf_withX11Surfaces (st : WprsState) (l : List X11Surface)
    (k : SurfaceId) : childrenOf (st.withX11Surfaces l) k = childrenOf st k := rfl

theorem bindingOf_modifyEntry (st : WprsState) (s k : SurfaceId)
    (f : XWaylandSurface → XWaylandSurface) : bindingOf (st.modifyEntry s f) k =
      if k = s then ((st.surfaces.lookup s).map f).bind (·.x11Surface) else bindingOf st k := by
  simp only [bindingOf, lookup_modifyEntry]
  split <;> rfl

theorem childrenOf_modifyEntry (st : WprsState) (s k : SurfaceId)
    (f : XWaylandSurface → XWaylandSurface) : childrenOf (st.modifyEntry s f) k =
      if k = s then (((st.surfaces.lookup s).map f).map (·.children)).getD []
      else childrenOf st k := by
  simp only [childrenOf, lookup_modifyEntry]
  split <;> rfl

/-- The entry of `k` is paired with a window of id `windowId`. -/
theorem windowOf_of_pairedWith {st : WprsState} {k : SurfaceId} {p : XWaylandSurface}
    {windowId : WindowId} (hk : st.surfaces.lookup k = some p)
    (hp : p.pairedWith windowId = true) : windowOf st k = some windowId := by
  unfold XWaylandSurface.pairedWith at hp
  cases hw : p.x11Surface <;> simp_all [windowOf, bindingOf]

theorem windowOf_eq_some_iff {st : WprsState} {k : SurfaceId} {windowId : WindowId} :
    windowOf st k = some windowId ↔
      ∃ p, st.surfaces.lookup k = some p ∧ p.pairedWith windowId = true := by
  refine ⟨fun h => ?_, fun ⟨p, hk, hp⟩ => windowOf_of_pairedWith hk hp⟩
  cases hk : st.surfaces.lookup k with
  | none => simp [windowOf, bindingOf, hk] at h
  | some p =>
    refine ⟨p, rfl, ?_⟩
    cases hw : p.x11Surface <;> simp_all [windowOf, bindingOf, XWaylandSurface.pairedWith]

/-- Two states with the same unpaired windows, pairings and children. -/
structure SameTopology (st st' : WprsState) : Prop where
  x11 : st'.compositorState.x11Surfaces = st.compositorState.x11Surfaces
  binding : ∀ k, bindingOf st' k = bindingOf st k
  children : ∀ k, childrenOf st' k = childrenOf st k

instance : IsPreorder WprsState SameTopology where
  refl _ := ⟨rfl, fun _ => rfl, fun _ => rfl⟩
  trans _ _ _ h h' := ⟨h'.x11.trans h.x11, fun k => (h'.binding k).trans (h.binding k),
    fun k => (h'.children k).trans (h.children k)⟩

theorem SameTopology.of_surfaces {st st' : WprsState} (hs : st'.surfaces = st.surfaces)
    (hx : st'.compositorState.x11Surfaces = st.compositorState.x11Surfaces) :
    SameTopology st st' :=
  ⟨hx, fun k => by simp [bindingOf, hs], fun k => by simp [childrenOf, hs]⟩

theorem SameTopology.trans {st st' st'' : WprsState} (h : SameTopology st st')
    (h' : SameTopology st' st'') : SameTopology st st'' :=
  trans_of SameTopology h h'

theorem bindingOf_modifyEntry_of {f : XWaylandSurface → XWaylandSurface}
    (hx : ∀ x, (f x).x11Surface = x.x11Surface) (st : WprsState) (s k : SurfaceId) :
    bindingOf (st.modifyEntry s f) k = bindingOf st k := by
  rw [bindingOf_modifyEntry]
  split_ifs with hk
  · subst hk; unfold bindingOf; cases st.surfaces.lookup k <;> simp [hx]
  · rfl

theorem childrenOf_modifyEntry_of {f : XWaylandSurface → XWaylandSurface}
    (hc : ∀ x, (f x).children = x.children) (st : WprsState) (s k : SurfaceId) :
    childrenOf (st.modifyEntry s f) k = childrenOf st k := by
  rw [childrenOf_modifyEntry]
  split_ifs with hk
  · subst hk; unfold childrenOf; cases st.surfaces.lookup k <;> simp [hc]
  · rfl

/-- Changing an entry in a way that keeps its children, and perhaps adds some, removes none. -/
theorem childrenOf_subset_modifyEntry {f : XWaylandSurface → XWaylandSurface}
    (hc : ∀ x, x.children ⊆ (f x).children) (st : WprsState) (s k : SurfaceId) :
    childrenOf st k ⊆ childrenOf (st.modifyEntry s f) k := by
  rw [childrenOf_modifyEntry]
  split_ifs with hk
  · subst hk; unfold childrenOf; cases st.surfaces.lookup k <;> simp [hc]
  · exact List.Subset.refl _

/-- Changing an entry in a way that keeps its window and its children keeps the topology. -/
theorem SameTopology.modifyEntry (st : WprsState) (s : SurfaceId)
    {f : XWaylandSurface → XWaylandSurface} (hx : ∀ x, (f x).x11Surface = x.x11Surface)
    (hc : ∀ x, (f x).children = x.children) : SameTopology st (st.modifyEntry s f) :=
  ⟨by simp, bindingOf_modifyEntry_of hx st s, childrenOf_modifyEntry_of hc st s⟩

/-- A change of an entry that keeps its window and its children. -/
def TopologyNeutral (f : XWaylandSurface → XWaylandSurface) : Prop :=
  ∀ x, (f x).x11Surface = x.x11Surface ∧ (f x).children = x.children

/-- A new entry is paired with nothing and lists no child, as the absent one was. -/
theorem SameTopology.create {st : WprsState} {s : SurfaceId} (hs : st.surfaces.lookup s = none) :
    SameTopology st { st with surfaces := st.surfaces.insert s .new } := by
  refine ⟨rfl, fun k => ?_, fun k => ?_⟩ <;> rcases eq_or_ne k s with rfl | hk <;>
    simp [bindingOf, childrenOf, AList.lookup_insert, AList.lookup_insert_ne, hs,
      XWaylandSurface.new, *]

/-- Registry changes that keep every entry's window and children keep the topology. -/
theorem EntryUpdates.sameTopology {F : SurfaceId → (XWaylandSurface → XWaylandSurface) → Prop}
    (hF : ∀ s f, F s f → TopologyNeutral f) {st st' : WprsState} (h : EntryUpdates F st st') :
    SameTopology st st' := by
  induction h with
  | same hs hc _ => exact .of_surfaces hs (by rw [hc])
  | modify hf => exact .modifyEntry _ _ (fun x => (hF _ _ hf x).1) fun x => (hF _ _ hf x).2
  | create hs => exact .create hs
  | trans _ _ ih ih' => exact ih.trans ih'

/-- A handler whose registry changes all keep the topology keeps it. -/
theorem Handler.Keeps.sameTopology {h : Handler α}
    (hu : h.Keeps (EntryUpdates fun _ => TopologyNeutral)) : h.Keeps SameTopology :=
  hu.mono fun _ _ => EntryUpdates.sameTopology fun _ _ => id

theorem entryOrInsert_keeps (co : Collaborators) (s : SurfaceId) :
    (entryOrInsert co s).Keeps SameTopology :=
  (entryOrInsert_updates co s).sameTopology

theorem presentEntry_keeps (co : Collaborators) (s : SurfaceId) (b : Option BufferAssignment) :
    (presentEntry co s b).Keeps SameTopology :=
  (presentEntry_updates co s b (fun _ _ => ⟨rfl, rfl⟩)
    fun x => ⟨drawFrame_x11Surface x, drawFrame_children x⟩).sameTopology

theorem deferUnlessPaired_keeps (s : SurfaceId) : (deferUnlessPaired s).Keeps SameTopology := by
  intro st st' h
  simp only [deferUnlessPaired] at h
  split at h <;> cases h <;> exact .of_surfaces rfl rfl

/-! ## The pairing -/

/-- What the steps on the surface's own entry may do: pair `surface` with `claimed`, if it was
given a window, and nothing else. -/
structure PairStep (surface : SurfaceId) (claimed : Option X11Surface) (st st' : WprsState) :
    Prop where
  x11 : st'.compositorState.x11Surfaces = st.compositorState.x11Surfaces
  binding : ∀ k, bindingOf st' k = bindingOf st k ∨
    k = surface ∧ claimed.isSome ∧ bindingOf st' k = claimed
  children : ∀ k, childrenOf st' k = childrenOf st k

instance (surface : SurfaceId) (claimed : Option X11Surface) :
    IsPreorder WprsState (PairStep surface claimed) where
  refl _ := ⟨rfl, fun _ => .inl rfl, fun _ => rfl⟩
  trans _ _ _ h h' := ⟨h'.x11.trans h.x11,
    fun k => (h'.binding k).elim (fun e => e ▸ h.binding k) .inr,
    fun k => (h'.children k).trans (h.children k)⟩

theorem PairStep.of_same {surface : SurfaceId} {claimed : Option X11Surface}
    {st st' : WprsState} (h : SameTopology st st') : PairStep surface claimed st st' :=
  ⟨h.x11, fun k => .inl (h.binding k), h.children⟩

/-- The changes the steps on the entry of `surface` make: any that keeps the topology, and the
pairing of `surface` with the claimed window. -/
def PairChange (surface : SurfaceId) (claimed : Option X11Surface) (k : SurfaceId)
    (f : XWaylandSurface → XWaylandSurface) : Prop :=
  TopologyNeutral f ∨ k = surface ∧ ∃ w, claimed = some w ∧ f = (·.updateX11Surface surface w)

theorem EntryUpdates.pairStep {s : SurfaceId} {x : Option X11Surface} {st st' : WprsState}
    (h : EntryUpdates (PairChange s x) st st') : PairStep s x st st' := by
  induction h with
  | same hs hc _ => exact .of_same (.of_surfaces hs (by rw [hc]))
  | @modify st k f hf =>
    rcases hf with hn | ⟨rfl, w, rfl, rfl⟩
    · exact .of_same (.modifyEntry _ _ (fun x => (hn x).1) fun x => (hn x).2)
    refine ⟨by simp, fun k' => ?_,
      childrenOf_modifyEntry_of (f := (·.updateX11Surface k w)) (fun _ => rfl) st k⟩
    rw [bindingOf_modifyEntry]
    split_ifs with hk
    · subst hk; unfold bindingOf
      cases st.surfaces.lookup k' <;> simp [XWaylandSurface.updateX11Surface]
    · exact .inl rfl
  | create hs => exact .of_same (.create hs)
  | trans _ _ ih ih' => exact trans_of _ ih ih'

/-- The steps on the surface's own entry pair it with the claimed window, and do nothing else to
the pairing state. -/
theorem updateEntry_keeps (co : Collaborators) (s : SurfaceId) (x : Option X11Surface)
    (b : Option BufferAssignment) : (updateEntry co s x b).Keeps (PairStep s x) :=
  (updateEntry_updates co s x b (fun w hw => .inr ⟨rfl, w, hw, rfl⟩)
    (fun _ => .inl fun _ => ⟨rfl, rfl⟩)
    (.inl fun x => ⟨drawFrame_x11Surface x, drawFrame_children x⟩)).mono
    fun _ _ => EntryUpdates.pairStep

/-! ## The claim and the registration -/

/-- The window a commit of `surface` claims in `st` (lines 372-377), if any. -/
def claimedBy (surface : SurfaceId) (st : WprsState) : Option X11Surface :=
  (claimFirst surface st.compositorState.x11Surfaces).map Prod.fst

/-- The unpaired windows that claim leaves listed. -/
def unclaimed (surface : SurfaceId) (st : WprsState) : List X11Surface :=
  ((claimFirst surface st.compositorState.x11Surfaces).map Prod.snd).getD
    st.compositorState.x11Surfaces

theorem claimX11Surface_apply (surface : SurfaceId) (st : WprsState) :
    claimX11Surface surface st =
      .ok (claimedBy surface st) (st.withX11Surfaces (unclaimed surface st)) := by
  unfold claimX11Surface claimedBy unclaimed
  rcases claimFirst surface st.compositorState.x11Surfaces with _ | ⟨w, rest⟩ <;> rfl

/-- The claim takes nothing and leaves the windows as they were, or takes a window associated
with `surface` and leaves the others. -/
theorem claim_cases (surface : SurfaceId) (st : WprsState) :
    claimedBy surface st = none ∧ unclaimed surface st = st.compositorState.x11Surfaces ∨
      ∃ w, claimedBy surface st = some w ∧ w.wlSurface = some surface ∧
        (w :: unclaimed surface st).Perm st.compositorState.x11Surfaces := by
  unfold claimedBy unclaimed
  rcases h : claimFirst surface st.compositorState.x11Surfaces with _ | ⟨w, rest⟩
  · exact .inl ⟨rfl, rfl⟩
  · obtain ⟨hw, hp⟩ := claimFirst_spec h
    exact .inr ⟨w, rfl, hw, hp⟩

theorem mem_of_mem_unclaimed {surface : SurfaceId} {st : WprsState} {v : X11Surface}
    (hv : v ∈ unclaimed surface st) : v ∈ st.compositorState.x11Surfaces := by
  rcases claim_cases surface st with ⟨-, hu⟩ | ⟨w, -, -, hp⟩
  · exact hu ▸ hv
  · exact hp.subset (List.mem_cons_of_mem w hv)

/-- A claimed window is a listed window of the surface. -/
theorem claimedBy_spec {surface : SurfaceId} {st : WprsState} {w : X11Surface}
    (hw : claimedBy surface st = some w) :
    w ∈ st.compositorState.x11Surfaces ∧ w.wlSurface = some surface := by
  rcases claim_cases surface st with ⟨hn, -⟩ | ⟨w', hw', hs, hp⟩
  · simp [hn] at hw
  · rw [hw] at hw'
    cases hw'
    exact ⟨hp.subset (List.mem_cons_self w _), hs⟩

/-! ## What a commit does -/

/-- What a commit of `surface` may do to the pairing state: take the window it claims out of
the unpaired ones, pair `surface` with that window, and list `surface` among the children of
another entry, paired with the window the claimed one is transient for. No child is removed. -/
structure CommitEffect (surface : SurfaceId) (st st' : WprsState) : Prop where
  x11 : st'.compositorState.x11Surfaces = unclaimed surface st
  binding : ∀ k, bindingOf st' k = bindingOf st k ∨
    k = surface ∧ ∃ w, claimedBy surface st = some w ∧ bindingOf st' k = some w
  children : ∀ k c, c ∈ childrenOf st' k → c ∈ childrenOf st k ∨
    c = surface ∧ k ≠ surface ∧ ∃ w parentId, claimedBy surface st = some w ∧
      w.transientFor = some parentId ∧ windowOf st k = some parentId
  childrenKept : ∀ k, childrenOf st k ⊆ childrenOf st' k

/-- The steps on the entry add to what the claim and the registration did only the pairing. -/
theorem CommitEffect.pair {s : SurfaceId} {st st' st'' : WprsState} (h : CommitEffect s st st')
    (hp : PairStep s (claimedBy s st) st' st'') : CommitEffect s st st'' where
  x11 := hp.x11.trans h.x11
  binding k := (hp.binding k).elim (fun e => e ▸ h.binding k) fun ⟨hk, hs, hb⟩ =>
    .inr ⟨hk, Option.get _ hs, by simp, by simp [hb]⟩
  children k c hc := h.children k c (hp.children k ▸ hc)
  childrenKept k := hp.children k ▸ h.childrenKept k

/-- The state the claim and the registration leave: the claimed window out of the list, and
`surface` among the children of the parent found, when that parent is another entry. -/
def Registered (s : SurfaceId) (st : WprsState) (parent : Option X11Parent) (st₃ : WprsState) :
    Prop :=
  st₃ = st.withX11Surfaces (unclaimed s st) ∨
    ∃ q : X11Parent, parent = some q ∧ q.surfaceId ≠ s ∧
      st₃ = (st.withX11Surfaces (unclaimed s st)).modifyEntry q.surfaceId
        fun p => { p with children := p.children.insert s }

/-- What `commit_inner` does, said once: it panics on a window it claimed, in the parent lookup,
or at the registration's assertion (the parent found is the surface itself) or `unwrap` (the
parent found has no entry), or it runs the steps on the entry from the state the claim and the
registration leave. -/
theorem commitInner_cases (co : Collaborators) (s : SurfaceId) (b : Option BufferAssignment)
    (st : WprsState) :
    (∃ w p, claimedBy s st = some w ∧ (findX11Parent st (some w) = .error p ∨
      ∃ q, findX11Parent st (some w) = .ok (some q) ∧
        (q.surfaceId = s ∧ p = .assertion "tried to register a surface as a child of itself" ∨
          st.surfaces.lookup q.surfaceId = none ∧ p = .unwrapNone 394)) ∧
      commitInner co s b st = .panic p) ∨
    ∃ parent st₃, findX11Parent st (claimedBy s st) = .ok parent ∧ Registered s st parent st₃ ∧
      commitInner co s b st = updateEntry co s (claimedBy s st) b st₃ := by
  simp only [commitInner, Handler.bind_apply, claimX11Surface_apply]
  rcases resolveParent_cases (claimedBy s st) (st.withX11Surfaces (unclaimed s st)) with
    ⟨parent, hf, hq⟩ | ⟨p, hf, hq⟩ <;> simp only [hq]
  · rcases registerChild_cases s parent (claimedBy s st) (st.withX11Surfaces (unclaimed s st))
      with hr | ⟨q, rfl, -, hne, hr⟩ | ⟨q, p, rfl, hs, hp, hr⟩ <;> simp only [hr]
    · exact .inr ⟨_, _, hf, .inl rfl, rfl⟩
    · exact .inr ⟨_, _, hf, .inr ⟨q, rfl, hne, rfl⟩, rfl⟩
    · obtain ⟨w, hw⟩ := Option.isSome_iff_exists.mp hs
      exact .inl ⟨w, p, hw, .inr ⟨q, hw ▸ hf, hp⟩, rfl⟩
  · cases hc : claimedBy s st with
    | none => rw [hc] at hf; cases hf
    | some w => exact .inl ⟨w, p, rfl, .inl (hc ▸ hf), by rfl⟩

/-- The claim, the parent lookup and the registration. -/
theorem register_effect {s : SurfaceId} {st st₃ : WprsState} {parent : Option X11Parent}
    (hf : findX11Parent st (claimedBy s st) = .ok parent) (hr : Registered s st parent st₃) :
    CommitEffect s st st₃ := by
  rcases hr with rfl | ⟨q, rfl, hne, rfl⟩
  · exact ⟨rfl, fun _ => .inl rfl, fun _ _ => .inl, fun _ => List.Subset.refl _⟩
  obtain ⟨w, parentId, p, hw, ht, hl, hpaired⟩ := findX11Parent_eq_some hf
  refine ⟨by simp, fun k => .inl (bindingOf_modifyEntry_of ?_ _ _ k), fun k c hc => ?_,
    childrenOf_subset_modifyEntry (fun _ _ => List.mem_insert_of_mem)
      (st.withX11Surfaces (unclaimed s st)) q.surfaceId⟩
  · exact fun _ => rfl
  rw [childrenOf_modifyEntry] at hc
  split_ifs at hc with hk
  · subst hk
    simp only [withX11Surfaces_surfaces, hl, Option.map_some', Option.getD_some,
      List.mem_insert_iff] at hc
    rcases hc with rfl | hc
    · exact .inr ⟨rfl, hne, w, parentId, hw, ht, windowOf_of_pairedWith hl hpaired⟩
    · exact .inl (by simpa [childrenOf, hl] using hc)
  · exact .inl hc

/-- A commit of `surface` that leaves a state, returning `Ok` or `Err`, left it as
`CommitEffect` says. -/
theorem commitInner_effect {co : Collaborators} {s : SurfaceId} {b : Option BufferAssignment}
    {st st' : WprsState} (h : (commitInner co s b st).after = some st') :
    CommitEffect s st st' := by
  rcases commitInner_cases co s b st with ⟨_, _, _, _, hc⟩ | ⟨_, st₃, hf, hr, hc⟩ <;>
    rw [hc] at h
  · cases h
  · exact (register_effect hf hr).pair (updateEntry_keeps co s _ b st₃ st' h)

theorem CommitEffect.same {s : SurfaceId} {st st' st'' : WprsState} (h : CommitEffect s st st')
    (h' : SameTopology st' st'') : CommitEffect s st st'' :=
  h.pair (.of_same h')

/-- `execute_or_defer_commit`: the commit's effect; queueing the retry changes nothing more. -/
theorem executeOrDeferCommit_effect {co : Collaborators} {s : SurfaceId}
    {b : Option BufferAssignment} {st st' : WprsState}
    (h : (executeOrDeferCommit co s b st).after = some st') : CommitEffect s st st' := by
  rcases Handler.after_bind h with ⟨e, he⟩ | ⟨⟨⟩, st₁, h₁, h⟩
  · exact commitInner_effect (congrArg Outcome.after he)
  · exact (commitInner_effect (congrArg Outcome.after h₁)).same
      (deferUnlessPaired_keeps s st₁ st' h)

/-- Only `surface`'s window id may change, and only to the claimed window's. -/
theorem CommitEffect.windowOf {s : SurfaceId} {st st' : WprsState} (h : CommitEffect s st st')
    (k : SurfaceId) : windowOf st' k = windowOf st k ∨
      k = s ∧ ∃ w, claimedBy s st = some w ∧ windowOf st' k = some w.windowId := by
  rcases h.binding k with hb | ⟨hk, w, hw, hb⟩
  · exact .inl (by simp [XwaylandXdgShell.windowOf, hb])
  · exact .inr ⟨hk, w, hw, by simp [XwaylandXdgShell.windowOf, hb]⟩

/-- A retry runs on the state with itself taken off the queue, which has the same topology. -/
theorem CommitEffect.of_idle {s : SurfaceId} {st st' : WprsState} {idle : List SurfaceId}
    (h : CommitEffect s { st with idle } st') : CommitEffect s st st' :=
  ⟨h.x11, h.binding, h.children, h.childrenKept⟩

/-! ## Panics -/

/-- `commit_inner` panics only on a window it claimed: in the parent lookup, at the
registration's assertion when the parent found is the surface itself, or at its `unwrap` when the
parent found has no entry. -/
theorem commitInner_panic {co : Collaborators} {s : SurfaceId} {b : Option BufferAssignment}
    {st : WprsState} {p : Panic} (h : commitInner co s b st = .panic p) :
    ∃ w, claimedBy s st = some w ∧ (findX11Parent st (some w) = .error p ∨
      ∃ q, findX11Parent st (some w) = .ok (some q) ∧
        (q.surfaceId = s ∧ p = .assertion "tried to register a surface as a child of itself" ∨
          st.surfaces.lookup q.surfaceId = none ∧ p = .unwrapNone 394)) := by
  rcases commitInner_cases co s b st with ⟨w, _, hw, hp, hc⟩ | ⟨_, st₃, -, -, hc⟩ <;>
    rw [hc] at h
  · cases h; exact ⟨w, hw, hp⟩
  · have := updateEntry_returns co s (claimedBy s st) b st₃
    rw [h] at this
    cases this

/-- A commit and its retry panic only where `commit_inner` does: queueing the retry never
panics. -/
theorem executeOrDeferCommit_panic {co : Collaborators} {s : SurfaceId}
    {b : Option BufferAssignment} {st : WprsState} {p : Panic}
    (h : executeOrDeferCommit co s b st = .panic p) : commitInner co s b st = .panic p := by
  simp only [executeOrDeferCommit, commit, Handler.bind_apply] at h
  cases hc : commitInner co s b st <;> simp only [hc] at h
  · simp only [deferUnlessPaired] at h
    split at h <;> cases h
  all_goals exact h

/-- What a turn of the loop may panic with: what `commit_inner` panics with, on a commit from the
state it is given and on a retry from that state with the retry taken off the queue; the
`unwrap`s of a cursor image (lines 491, 494 and 507); and the `expect`s of the X server's
readiness (lines 143 and 147). -/
theorem dispatch_panic {ev : Event} {st : WprsState} {p : Panic} (h : dispatch ev st = .error p) :
    (∃ co s b, ev = .commit s b co ∧ commitInner co s b st = .panic p) ∨
      (∃ co s b, ev = .idle s b co ∧
        commitInner co s b { st with idle := st.idle.erase s } = .panic p) ∨
      (∃ image hotspot co shown, ev = .cursorImage image hotspot co shown ∧
        (p = .unwrapNone 491 ∨ p = .unwrapNone 494 ∨ p = .unwrapNone 507)) ∨
      ∃ display wmStarted wmNamed, ev = .xwaylandReady display wmStarted wmNamed ∧
        (p = .expect "Failed to attach X11 Window Manager." ∨ p = .expect "Failed to set WM name.") := by
  have hh : ev.handler st = .panic p := by
    unfold dispatch at h
    split at h <;> cases h
    assumption
  cases ev with
  | commit s b co => exact .inl ⟨co, s, b, rfl, executeOrDeferCommit_panic hh⟩
  | idle s b co =>
    simp only [Event.handler] at hh
    split at hh
    · exact .inr (.inl ⟨co, s, b, rfl, executeOrDeferCommit_panic hh⟩)
    · cases hh
  | cursorImage image hotspot co shown =>
    refine .inr (.inr (.inl ⟨image, hotspot, co, shown, rfl, ?_⟩))
    simp only [Event.handler, cursorImage] at hh
    repeat' split at hh
    all_goals cases hh <;> simp
  | xwaylandReady display wmStarted wmNamed =>
    refine .inr (.inr (.inr ⟨display, wmStarted, wmNamed, rfl, ?_⟩))
    simp only [Event.handler, xwaylandReady] at hh
    split_ifs at hh <;> cases hh <;> simp
  | newX11Surface w => cases hh
  | output info => cases hh
  | xwaylandExited => cases hh

/-! ## What an event does -/

/-- What an event may do to the pairing state: a commit or a retry has its commit's effect, an
added window is appended to the unpaired ones, and every other event leaves the pairing state
alone. -/
def Event.Effect : Event → WprsState → WprsState → Prop
  | .commit s _ _, st, st' => CommitEffect s st st'
  | .idle s _ _, st, st' => CommitEffect s st st' ∨ SameTopology st st'
  | .newX11Surface w, st, st' => st'.surfaces = st.surfaces ∧
      st'.compositorState.x11Surfaces = st.compositorState.x11Surfaces ++ [w]
  | _, st, st' => SameTopology st st'

theorem dispatch_after {ev : Event} {st st' : WprsState} (h : dispatch ev st = .ok st') :
    (ev.handler st).after = some st' := by
  unfold dispatch at h
  split at h <;> rename_i he <;> cases h <;> simp [he, Outcome.after]

/-- Every turn of the loop has its event's effect. -/
theorem dispatch_effect {ev : Event} {st st' : WprsState} (h : dispatch ev st = .ok st') :
    ev.Effect st st' := by
  have h := dispatch_after h
  cases ev with
  | commit s b co => exact executeOrDeferCommit_effect h
  | idle s b co =>
    simp only [Event.handler] at h
    split at h
    · exact .inl (executeOrDeferCommit_effect h).of_idle
    · cases h; exact .inr (refl_of SameTopology st)
  | newX11Surface w => cases h; exact ⟨rfl, rfl⟩
  | cursorImage image hotspot co shown =>
    exact (cursorImage_updates co image hotspot shown fun _ _ _ => ⟨rfl, rfl⟩).sameTopology st st' h
  | output info => cases h; exact .of_surfaces (handleOutput_surfaces st info) (handleOutput_x11Surfaces st info)
  | xwaylandReady display wmStarted wmNamed =>
    obtain rfl := xwaylandReady_after h
    exact .of_surfaces rfl rfl
  | xwaylandExited => cases h; exact .of_surfaces rfl rfl

/-- The windows a turn of the loop leaves listed were listed before, or are the one it adds. -/
theorem dispatch_windows {ev : Event} {st st' : WprsState} (h : dispatch ev st = .ok st') :
    ∀ w ∈ st'.compositorState.x11Surfaces, w ∈ st.compositorState.x11Surfaces ∨
      ev = .newX11Surface w := by
  intro w hw
  have he := dispatch_effect h
  cases ev with
  | commit k b co => exact .inl (mem_of_mem_unclaimed (he.x11 ▸ hw))
  | idle k b co =>
    rcases he with he | he
    · exact .inl (mem_of_mem_unclaimed (he.x11 ▸ hw))
    · exact .inl (he.x11 ▸ hw)
  | newX11Surface v =>
    rw [he.2, List.mem_append, List.mem_singleton] at hw
    exact hw.imp_right (congrArg _ ·.symm)
  | _ => exact .inl (he.x11 ▸ hw)

/-- The windows listed along a run were listed at its start, or added by one of its events. -/
theorem Run.windows {Admit : WprsState → X11Surface → Prop} {st₀ st : WprsState}
    {evs : List Event} (h : Run Admit st₀ evs st) :
    ∀ w ∈ st.compositorState.x11Surfaces,
      w ∈ st₀.compositorState.x11Surfaces ∨ Event.newX11Surface w ∈ evs := by
  induction h with
  | nil => exact fun w hw => .inl hw
  | @step evs st st' ev _ _ hd ih =>
    intro w hw
    rcases dispatch_windows hd w hw with hw | rfl
    · exact (ih w hw).imp_right (List.mem_append_left _)
    · exact .inr (by simp)

/-- A property of the pairing state that every commit, every admitted window and every event
that leaves the pairing state alone keep holds in every state a run reaches. -/
theorem Run.of_effects {Admit : WprsState → X11Surface → Prop} {I : WprsState → Prop}
    {st₀ : WprsState} (h₀ : I st₀)
    (hcommit : ∀ s st st', I st → CommitEffect s st st' → I st')
    (hsame : ∀ st st', I st → SameTopology st st' → I st')
    (hadd : ∀ st st' w, I st → Admit st w → st'.surfaces = st.surfaces →
      st'.compositorState.x11Surfaces = st.compositorState.x11Surfaces ++ [w] → I st')
    {evs : List Event} {st : WprsState} (h : Run Admit st₀ evs st) : I st := by
  refine Run.inv I h₀ (fun st ev st' hi hadm hd => ?_) h
  have he := dispatch_effect hd
  cases ev with
  | commit => exact hcommit _ _ _ hi he
  | idle => exact he.elim (hcommit _ _ _ hi) (hsame _ _ hi)
  | newX11Surface w => exact hadd _ _ w hi hadm he.1 he.2
  | _ => exact hsame _ _ hi he

end XwaylandXdgShell
