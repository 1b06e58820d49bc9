import XwaylandXdgShell.EventLoop

/-!
# What each step does to the registry

Every handler changes the registry (`surfaces`) in one of three ways: it creates a missing entry
empty (`XWaylandSurface::new`), changes an entry in place (`get_mut`), or leaves it alone; the
other fields it writes — requests sent, callbacks fired, the outputs — do not matter to the
registry. `EntryUpdates F` is that relation, with the in-place changes limited to
the functions `F` allows at each key, and each handler has one lemma here saying which functions
it uses (`entryOrInsert_updates`, `applyBuffer_updates`, ...). A property of the registry is
then proved once per kind of change instead of once per handler: the pairing state in
`Footprint.lean` is kept by every change that keeps each entry's window and children.

A handler keeps a relation `R` (`Handler.Keeps`) when every state it leaves, by `Ok` or by
`Err`, is `R`-related to the one it started from, and a sequence keeps what each of its parts
keeps when `R` is a preorder (`Handler.Keeps.bind`). The claim of a window changes the unpaired
windows, the queueing of a retry the idle queue, and the X server's signals and the output
descriptors the compositor's own state, so none of them is an `EntryUpdates` step:
`Footprint.lean` treats the first two, `xwaylandReady_after` and the `handleOutput` lemmas of
`Output.lean` say what the others change.

No change removes an entry, so a property of an entry that each in-place change keeps is kept by
the whole step (`EntryUpdates.entriesKeep`); `EntryStable` lists the in-place changes the handlers
make, once, for the properties `Retry.lean` follows along runs.
-/

namespace XwaylandXdgShell

/-! ## Handlers that keep a relation -/

/-- Every state the handler leaves, returning or failing, is `R`-related to its start. -/
def Handler.Keeps (R : WprsState → WprsState → Prop) (h : Handler α) : Prop :=
  ∀ st st', (h st).after = some st' → R st st'

theorem Handler.Keeps.mono {R R' : WprsState → WprsState → Prop} {h : Handler α}
    (hR : ∀ st st', R st st' → R' st st') (hk : h.Keeps R) : h.Keeps R' :=
  fun st st' hs => hR _ _ (hk st st' hs)

theorem Handler.Keeps.bind {R : WprsState → WprsState → Prop} [IsPreorder WprsState R]
    {x : Handler α} {f : α → Handler β} (hx : x.Keeps R) (hf : ∀ a, (f a).Keeps R) :
    (x >>= f).Keeps R := by
  intro st st'' h
  rcases Handler.after_bind h with ⟨e, he⟩ | ⟨a, st', hxa, hfa⟩
  · exact hx st st'' (by simp [he, Outcome.after])
  · exact trans_of R (hx st st' (by simp [hxa, Outcome.after])) (hf a st' st'' hfa)

/-! ## The registry's changes -/

/-- `st'` is `st` with its compositor state (the unpaired windows, the window-manager session, the
outputs) and its idle queue as they were, and its registry changed only by entries created empty
and entries changed in place by functions `F` allows at their key. -/
inductive EntryUpdates (F : SurfaceId → (XWaylandSurface → XWaylandSurface) → Prop) :
    WprsState → WprsState → Prop where
  | same {st st' : WprsState} : st'.surfaces = st.surfaces →
      st'.compositorState = st.compositorState → st'.idle = st.idle → EntryUpdates F st st'
  | modify {st : WprsState} {s : SurfaceId} {f : XWaylandSurface → XWaylandSurface} :
      F s f → EntryUpdates F st (st.modifyEntry s f)
  | create {st : WprsState} {s : SurfaceId} : st.surfaces.lookup s = none →
      EntryUpdates F st { st with surfaces := st.surfaces.insert s .new }
  | trans {st st' st'' : WprsState} : EntryUpdates F st st' → EntryUpdates F st' st'' →
      EntryUpdates F st st''

instance (F : SurfaceId → (XWaylandSurface → XWaylandSurface) → Prop) :
    IsPreorder WprsState (EntryUpdates F) where
  refl _ := .same rfl rfl rfl
  trans _ _ _ := .trans

theorem EntryUpdates.send (F : SurfaceId → (XWaylandSurface → XWaylandSurface) → Prop)
    {st : WprsState} (rs : List Request) : EntryUpdates F st (st.send rs) :=
  .same rfl rfl rfl

/-! ## Each step -/

section Steps

variable {F : SurfaceId → (XWaylandSurface → XWaylandSurface) → Prop}

theorem entryOrInsert_updates (co : Collaborators) (s : SurfaceId) :
    (entryOrInsert co s).Keeps (EntryUpdates F) := by
  intro st st' h
  simp only [entryOrInsert] at h
  split at h
  · cases h; exact refl_of _ st
  next hs =>
    split at h <;> cases h
    exacts [.create hs, refl_of _ st]

theorem pairX11Surface_updates (co : Collaborators) (s : SurfaceId) (x : Option X11Surface)
    (hF : ∀ w, x = some w → F s (·.updateX11Surface s w)) :
    (pairX11Surface co s x).Keeps (EntryUpdates F) := by
  intro st st' h
  simp only [pairX11Surface] at h
  split at h
  next w =>
    split at h <;> cases h
    exacts [.modify (hF w rfl), refl_of _ st]
  · cases h; exact refl_of _ st

theorem applyBuffer_updates (co : Collaborators) (s : SurfaceId) (b : Option BufferAssignment)
    (hF : ∀ buffer, F s fun x => { x with buffer }) :
    (applyBuffer co s b).Keeps (EntryUpdates F) := by
  intro st st' h
  simp only [applyBuffer] at h
  split at h
  · repeat' split at h
    all_goals cases h
    all_goals first | exact refl_of _ st | exact .modify (hF _)
  · cases h; exact .trans (.modify (hF none)) (.send F _)
  · cases h; exact refl_of _ st

theorem drawWindowFrame_updates (s : SurfaceId) (hF : F s XWaylandSurface.drawFrame) :
    (drawWindowFrame s).Keeps (EntryUpdates F) := by
  intro st st' h
  simp only [drawWindowFrame] at h
  repeat' split at h
  all_goals cases h
  exacts [.trans (.modify hF) (.send F _), refl_of _ st, refl_of _ st]

theorem sendFramesIfLocal_updates (co : Collaborators) (s : SurfaceId) :
    (sendFramesIfLocal co s).Keeps (EntryUpdates F) := by
  intro st st' h
  simp only [sendFramesIfLocal] at h
  repeat' split at h
  all_goals cases h
  all_goals exact .same rfl rfl rfl

/-- The steps after the pairing change the entry only by its buffer and its frame. -/
theorem presentEntry_updates (co : Collaborators) (s : SurfaceId) (b : Option BufferAssignment)
    (hb : ∀ buffer, F s fun x => { x with buffer }) (hd : F s XWaylandSurface.drawFrame) :
    (presentEntry co s b).Keeps (EntryUpdates F) :=
  .bind (applyBuffer_updates co s b hb) fun _ => .bind (drawWindowFrame_updates s hd) fun _ =>
  .bind (fun _ _ h => by cases h; exact .send F _) fun _ => sendFramesIfLocal_updates co s

/-- The steps on the surface's own entry create it, pair it with the claimed window, and change
its buffer and its frame. -/
theorem updateEntry_updates (co : Collaborators) (s : SurfaceId) (x : Option X11Surface)
    (b : Option BufferAssignment) (hp : ∀ w, x = some w → F s (·.updateX11Surface s w))
    (hb : ∀ buffer, F s fun x => { x with buffer }) (hd : F s XWaylandSurface.drawFrame) :
    (updateEntry co s x b).Keeps (EntryUpdates F) :=
  .bind (entryOrInsert_updates co s) fun _ => .bind (pairX11Surface_updates co s x hp) fun _ =>
  presentEntry_updates co s b hb hd

/-- A cursor image creates the surface's entry and makes it a cursor. -/
theorem cursorImage_updates (co : Collaborators) (image : CursorImageStatus)
    (hotspot : Option Point) (shown : Bool)
    (hF : ∀ s, image = .surface s → F s fun x => { x with role := some .cursor }) :
    (cursorImage co image hotspot shown).Keeps (EntryUpdates F) := by
  intro st st' h
  simp only [cursorImage] at h
  repeat' split at h
  all_goals cases h
  all_goals try exact refl_of _ st
  all_goals try exact .send F _
  next s _ _ _ st₁ he =>
    exact .trans (entryOrInsert_updates co s st st₁ (by rw [he]; rfl))
      (.trans (.modify (hF s rfl)) (.send F _))

end Steps

/-- A step that only changes the registry leaves the idle queue alone. -/
theorem EntryUpdates.idle {F : SurfaceId → (XWaylandSurface → XWaylandSurface) → Prop}
    {st st' : WprsState} (h : EntryUpdates F st st') : st'.idle = st.idle := by
  induction h with
  | same _ _ hi => exact hi
  | modify _ => exact modifyEntry_idle _ _ _
  | create _ => rfl
  | trans _ _ ih ih' => exact ih'.trans ih

/-- A step that only changes the registry leaves the compositor's own state alone: the unpaired
windows, the window-manager session and the outputs. -/
theorem EntryUpdates.compositorState
    {F : SurfaceId → (XWaylandSurface → XWaylandSurface) → Prop} {st st' : WprsState}
    (h : EntryUpdates F st st') : st'.compositorState = st.compositorState := by
  induction h with
  | same _ hc _ => exact hc
  | modify _ => exact modifyEntry_compositorState _ _ _
  | create _ => rfl
  | trans _ _ ih ih' => exact ih'.trans ih

/-! ## Entry properties that every change keeps -/

/-- Every entry of `st` that has `p` is still there in `st'`, and still has it. -/
def EntriesKeep (p : XWaylandSurface → Bool) (st st' : WprsState) : Prop :=
  ∀ k, (st.surfaces.lookup k).any p → (st'.surfaces.lookup k).any p

instance (p : XWaylandSurface → Bool) : IsPreorder WprsState (EntriesKeep p) where
  refl _ _ := id
  trans _ _ _ h h' k := h' k ∘ h k

theorem EntriesKeep.of_surfaces {p : XWaylandSurface → Bool} {st st' : WprsState}
    (h : st'.surfaces = st.surfaces) : EntriesKeep p st st' := fun k => by
  rw [h]; exact id

theorem EntriesKeep.modifyEntry {p : XWaylandSurface → Bool} {f : XWaylandSurface → XWaylandSurface}
    (hf : ∀ x, p x → p (f x)) (st : WprsState) (s : SurfaceId) :
    EntriesKeep p st (st.modifyEntry s f) := fun k hk => by
  rw [lookup_modifyEntry]
  split_ifs with hks
  · subst hks
    cases hl : st.surfaces.lookup k <;> simp_all
  · exact hk

/-- The in-place changes that keep `p`. -/
def Preserving (p : XWaylandSurface → Bool) (_ : SurfaceId) (f : XWaylandSurface → XWaylandSurface) :
    Prop :=
  ∀ x, p x → p (f x)

/-- A registry change keeps every property of an entry that each of its in-place changes keeps; a
created entry was absent, so it had no property to lose. -/
theorem EntryUpdates.entriesKeep {p : XWaylandSurface → Bool} {st st' : WprsState}
    (h : EntryUpdates (Preserving p) st st') : EntriesKeep p st st' := by
  induction h with
  | same hs _ _ => exact .of_surfaces hs
  | modify hf => exact .modifyEntry hf _ _
  | @create st s hs =>
    intro k hk
    rcases eq_or_ne k s with rfl | hne
    · rw [hs] at hk; cases hk
    · simpa [AList.lookup_insert_ne hne] using hk
  | trans _ _ ih ih' => exact trans_of _ ih ih'

/-- A property of an entry that every in-place change the handlers make keeps: the pairing
(`update_x11_surface`), a new or removed buffer, a redrawn frame, becoming a cursor, and a new
child. -/
structure EntryStable (p : XWaylandSurface → Bool) : Prop where
  pair : ∀ x s w, p x → p (x.updateX11Surface s w)
  buffer : ∀ x b, p x → p { x with buffer := b }
  drawFrame : ∀ x, p x → p x.drawFrame
  cursor : ∀ x, p x → p { x with role := some .cursor }
  adopt : ∀ x s, p x → p { x with children := x.children.insert s }

/-! ## The parent lookup and the registration -/

/-- The parent lookup returns what `find_x11_parent` finds, in the state it was given, or
panics with what it reports. -/
theorem resolveParent_cases (x : Option X11Surface) (st : WprsState) :
    (∃ parent, findX11Parent st x = .ok parent ∧ resolveParent x st = .ok parent st) ∨
      ∃ p, findX11Parent st x = .error p ∧ resolveParent x st = .panic p := by
  unfold resolveParent
  split
  · exact .inl ⟨_, ‹_›, rfl⟩
  · exact .inr ⟨_, ‹_›, rfl⟩

/-- The registration leaves the state as it was, lists `surface` among the children of a
present parent other than itself, or panics: at the assertion when the parent is `surface`
itself, at the `unwrap` when the parent has no entry. -/
theorem registerChild_cases (s : SurfaceId) (parent : Option X11Parent) (x : Option X11Surface)
    (st : WprsState) :
    registerChild s parent x st = .ok () st ∨
      (∃ q, parent = some q ∧ x.isSome ∧ q.surfaceId ≠ s ∧
        registerChild s parent x st = .ok () (st.modifyEntry q.surfaceId
          fun p => { p with children := p.children.insert s })) ∨
      ∃ q p, parent = some q ∧ x.isSome ∧
        (q.surfaceId = s ∧ p = .assertion "tried to register a surface as a child of itself" ∨
          st.surfaces.lookup q.surfaceId = none ∧ p = .unwrapNone 394) ∧
        registerChild s parent x st = .panic p := by
  unfold registerChild
  split
  next q w =>
    split
    next hq => exact .inr (.inr ⟨q, _, rfl, rfl, .inl ⟨hq.symm, rfl⟩, rfl⟩)
    next hq =>
      simp only
      split
      · exact .inr (.inl ⟨q, rfl, rfl, Ne.symm hq, rfl⟩)
      next hl => exact .inr (.inr ⟨q, _, rfl, rfl, .inr ⟨hl, rfl⟩, rfl⟩)
  · exact .inl rfl

/-! ## Panics -/

/-- The handler never panics: every call leaves a state. -/
def Handler.Returns (h : Handler α) : Prop :=
  ∀ st, (h st).after.isSome

theorem Handler.Returns.bind {x : Handler α} {f : α → Handler β} (hx : x.Returns)
    (hf : ∀ a, (f a).Returns) : (x >>= f).Returns := by
  intro st
  have hs := hx st
  rw [Handler.bind_apply]
  cases h : x st with
  | ok a st' => exact hf a st'
  | err e st' => rfl
  | panic p => simp [h, Outcome.after] at hs

/-- The steps on the entry never panic. -/
theorem updateEntry_returns (co : Collaborators) (s : SurfaceId) (x : Option X11Surface)
    (b : Option BufferAssignment) : (updateEntry co s x b).Returns := by
  refine .bind ?_ fun _ => .bind ?_ fun _ => .bind ?_ fun _ => .bind ?_ fun _ =>
    .bind (fun _ => rfl) fun _ => ?_ <;> intro st <;>
    simp only [entryOrInsert, pairX11Surface, applyBuffer, drawWindowFrame, sendFramesIfLocal] <;>
    repeat' split
  all_goals rfl

end XwaylandXdgShell
