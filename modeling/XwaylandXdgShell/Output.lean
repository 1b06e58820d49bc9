import XwaylandXdgShell.State

/-!
# Output reconciliation

`handle_output` is an upsert keyed by the descriptor's id: the first descriptor for an id
creates an `Output` and advertises it as a global, and every descriptor then replaces the
output's current mode, deleting the old mode first when it differs, and marks the new mode
preferred when the descriptor says so. The `Output` methods it calls are smithay's, written
here as smithay's source defines them: `delete_mode` also forgets a current or preferred mode
equal to the one it deletes, `change_current_state` adds the new mode to the list when it is
missing, `set_preferred` never unsets.

## What is proved

`handleOutput_one_mode`: after any sequence of descriptors, from no outputs, there is exactly
one output per id seen, each the one global created for it, and each output advertises exactly
one mode — the last descriptor's — with that descriptor's transform, scale and location; its
preferred mode is unset or that mode.

`handleOutput_preferred_history`: the preferred flag is NOT a function of the last descriptor.
It is set exactly when some descriptor of the trailing run of descriptors for the id with the
last one's mode flagged its mode preferred: `set_preferred` is never undone while the mode
stays. `handleOutput_preferred_sticks` is the two-descriptor case.

Both come from one invariant of the whole sequence (`Reconciled`), kept by one descriptor
(`reconciled_snoc`), which rests on what one descriptor does to one output (`reconcile_modes`).
`Compositor.lean` carries the invariant to every run of the event loop, whatever other events
come between the descriptors (`outputs_reconciled`).
-/

namespace XwaylandXdgShell

/-! ## smithay's `Output` -/

/-- `Output::new`: no mode, the normal transform, scale 1, at the origin. -/
def Output.new (name : String) (physicalProperties : PhysicalProperties) : Output :=
  { name, physicalProperties, modes := [], currentMode := none, preferredMode := none,
    transform := .normal, scale := .integer 1, location := ⟨0, 0⟩ }

/-- `Output::delete_mode`: the mode leaves the list, and stops being current or preferred. -/
def Output.deleteMode (o : Output) (mode : Mode) : Output :=
  { o with modes := o.modes.filter (· != mode),
           currentMode := if o.currentMode = some mode then none else o.currentMode,
           preferredMode := if o.preferredMode = some mode then none else o.preferredMode }

/-- `Output::change_current_state`: a new mode joins the list if missing and becomes current;
each other part is replaced when given. -/
def Output.changeCurrentState (o : Output) (newMode : Option Mode)
    (newTransform : Option Transform) (newScale : Option Scale) (newLocation : Option Point) :
    Output :=
  let o := match newMode with
    | some mode => { o with modes := if mode ∈ o.modes then o.modes else o.modes ++ [mode],
                            currentMode := some mode }
    | none => o
  { o with transform := newTransform.getD o.transform, scale := newScale.getD o.scale,
           location := newLocation.getD o.location }

/-- `Output::set_preferred`: the mode becomes preferred, joining the list if missing. -/
def Output.setPreferred (o : Output) (mode : Mode) : Output :=
  { o with preferredMode := some mode,
           modes := if mode ∈ o.modes then o.modes else o.modes ++ [mode] }

/-! ## `handle_output` -/

/-- The mode a descriptor asks for (`Mode { size, refresh }`, lines 573-576). -/
def ModeInfo.toMode (m : ModeInfo) : Mode := ⟨m.dimensions, m.refreshRate⟩

/-- The closure of `or_insert_with_key` (lines 555-567): an output named `"{id}_{name}"`
(`"None"` for a nameless one), advertised as a new global of the display. -/
def createOutput (dh : DisplayHandle) (output : OutputInfo) : (Output × GlobalId) × DisplayHandle :=
  let newOutput := Output.new (toString output.id ++ "_" ++ output.name.getD "None")
    { size := output.physicalSize, subpixel := output.subpixel, make := output.make,
      model := output.model }
  let globalId := dh.globals.length
  ((newOutput, globalId), ⟨dh.globals ++ [globalId]⟩)

/-- Lines 569-579: the current mode (a zero mode when there is none) is deleted when it
differs from the received one. -/
def Output.dropStaleMode (localOutput : Output) (receivedMode : Mode) : Output :=
  let currentMode := localOutput.currentMode.getD ⟨⟨0, 0⟩, 0⟩
  if currentMode ≠ receivedMode then localOutput.deleteMode currentMode else localOutput

/-- Lines 569-590, on the output's state: drop a stale current mode, make the received one
current with the descriptor's transform, scale and location, and mark it preferred when the
descriptor says so. -/
def Output.reconcile (localOutput : Output) (output : OutputInfo) : Output :=
  let receivedMode := output.mode.toMode
  let localOutput := (localOutput.dropStaleMode receivedMode).changeCurrentState
    (some receivedMode) (some output.transform) (some (.integer output.scaleFactor))
    (some output.location)
  if output.mode.preferred then localOutput.setPreferred receivedMode else localOutput

/-- `handle_output` (lines 550-591). -/
def handleOutput (state : WprsState) (output : OutputInfo) : WprsState :=
  let cs := state.compositorState
  let ((localOutput, globalId), dh) := match cs.outputs.lookup output.id with
    | some entry => (entry, cs.dh)
    | none => createOutput cs.dh output
  { state with compositorState :=
      { cs with dh, outputs := cs.outputs.insert output.id (localOutput.reconcile output, globalId) } }

/-- A descriptor changes only the compositor's outputs and display globals. -/
@[simp] theorem handleOutput_surfaces (st : WprsState) (output : OutputInfo) :
    (handleOutput st output).surfaces = st.surfaces := by
  unfold handleOutput; dsimp only

@[simp] theorem handleOutput_idle (st : WprsState) (output : OutputInfo) :
    (handleOutput st output).idle = st.idle := by
  unfold handleOutput; dsimp only

@[simp] theorem handleOutput_x11Surfaces (st : WprsState) (output : OutputInfo) :
    (handleOutput st output).compositorState.x11Surfaces = st.compositorState.x11Surfaces := by
  unfold handleOutput; dsimp only

@[simp] theorem handleOutput_xwm (st : WprsState) (output : OutputInfo) :
    (handleOutput st output).compositorState.xwm = st.compositorState.xwm := by
  unfold handleOutput; dsimp only

/-! ## One descriptor, one output -/

/-- An output with at most one mode, current when present, preferred only if current. -/
def Output.WellModed (o : Output) : Prop :=
  (o.modes = [] ∧ o.currentMode = none ∧ o.preferredMode = none) ∨
    ∃ m, o.modes = [m] ∧ o.currentMode = some m ∧ (o.preferredMode = none ∨ o.preferredMode = some m)

theorem Output.new_wellModed (name : String) (p : PhysicalProperties) :
    (Output.new name p).WellModed :=
  .inl ⟨rfl, rfl, rfl⟩

/-- Dropping a stale mode leaves a well-moded output either with no mode and nothing preferred
(it was not current already), or untouched (it was current already). -/
theorem dropStaleMode_cases {o : Output} (ho : o.WellModed) (r : Mode) :
    ((o.dropStaleMode r).modes = [] ∧ (o.dropStaleMode r).preferredMode = none ∧
      o.currentMode ≠ some r) ∨
    (o.dropStaleMode r = o ∧ o.modes = [r] ∧ o.currentMode = some r) := by
  unfold Output.dropStaleMode
  rcases ho with ⟨hm, hc, hp⟩ | ⟨m, hm, hc, hp⟩
  · left
    dsimp only
    split <;> simp [Output.deleteMode, hm, hc, hp]
  · by_cases hr : m = r
    · subst hr
      exact .inr ⟨by simp [hc], hm, hc⟩
    · left
      rcases hp with hp | hp <;> simp [Output.deleteMode, hm, hc, hp, hr]

/-- What one descriptor does to a well-moded output: its mode list becomes the received mode
alone, current, with the descriptor's transform, scale and location; it is preferred if the
descriptor says so, and otherwise stays as preferred as before only if it was current already. -/
theorem reconcile_modes {o : Output} (ho : o.WellModed) (d : OutputInfo) :
    (o.reconcile d).modes = [d.mode.toMode] ∧ (o.reconcile d).currentMode = some d.mode.toMode ∧
    (o.reconcile d).transform = d.transform ∧ (o.reconcile d).scale = .integer d.scaleFactor ∧
    (o.reconcile d).location = d.location ∧
    (o.reconcile d).preferredMode = if d.mode.preferred then some d.mode.toMode
      else if o.currentMode = some d.mode.toMode then o.preferredMode else none := by
  rcases dropStaleMode_cases ho d.mode.toMode with ⟨hm, hp, hc⟩ | ⟨he, hm, hc⟩ <;>
    cases hpref : d.mode.preferred <;>
    simp_all [Output.reconcile, Output.changeCurrentState, Output.setPreferred]

/-! ## A sequence of descriptors -/

/-- The last descriptor for `id` in a sequence. -/
def lastFor (ds : List OutputInfo) (id : UInt32) : Option OutputInfo :=
  (ds.filter (·.id == id)).getLast?

/-- The descriptors for `id`, latest first, as far back as they ask for the latest one's mode. -/
def trailingRun (ds : List OutputInfo) (id : UInt32) : List OutputInfo :=
  match lastFor ds id with
  | some d => (ds.filter (·.id == id)).reverse.takeWhile (·.mode.toMode == d.mode.toMode)
  | none => []

/-- What `handle_output` has made of the outputs after a sequence of descriptors. -/
structure Reconciled (st : WprsState) (ds : List OutputInfo) : Prop where
  mem_iff : ∀ i, i ∈ st.compositorState.outputs ↔ i ∈ ds.map (·.id)
  globals_perm :
    (st.compositorState.outputs.entries.map (·.2.2)).Perm st.compositorState.dh.globals
  globals_range : st.compositorState.dh.globals = List.range st.compositorState.dh.globals.length
  last : ∀ d, lastFor ds d.id = some d → ∃ o g,
    st.compositorState.outputs.lookup d.id = some (o, g) ∧
    o.modes = [d.mode.toMode] ∧ o.currentMode = some d.mode.toMode ∧
    o.transform = d.transform ∧ o.scale = .integer d.scaleFactor ∧ o.location = d.location ∧
    o.preferredMode =
      if (trailingRun ds d.id).any (·.mode.preferred) then some d.mode.toMode else none

/-- `Reconciled` reads only the outputs and the display globals. -/
theorem Reconciled.congr {st st' : WprsState} {ds : List OutputInfo} (h : Reconciled st ds)
    (ho : st'.compositorState.outputs = st.compositorState.outputs)
    (hd : st'.compositorState.dh = st.compositorState.dh) : Reconciled st' ds := by
  obtain ⟨h₁, h₂, h₃, h₄⟩ := h
  exact ⟨by rwa [ho], by rwa [ho, hd], by rwa [hd], by rwa [ho]⟩

theorem lastFor_snoc_self (ds : List OutputInfo) (d : OutputInfo) :
    lastFor (ds ++ [d]) d.id = some d := by
  simp [lastFor, List.filter_append]

theorem lastFor_snoc_ne (ds : List OutputInfo) (d : OutputInfo) {i : UInt32} (h : i ≠ d.id) :
    lastFor (ds ++ [d]) i = lastFor ds i := by
  simp [lastFor, List.filter_append, Ne.symm h]

theorem lastFor_eq_none_iff (ds : List OutputInfo) (i : UInt32) :
    lastFor ds i = none ↔ i ∉ ds.map (·.id) := by
  simp [lastFor, List.filter_eq_nil_iff]

/-- A new descriptor for an id opens the trailing run, and extends the previous one exactly
when it asks for the mode the previous last descriptor asked for. -/
theorem trailingRun_snoc_self (ds : List OutputInfo) (d : OutputInfo) :
    trailingRun (ds ++ [d]) d.id = d :: if (lastFor ds d.id).map (·.mode.toMode) = some d.mode.toMode
      then trailingRun ds d.id else [] := by
  have hF : (ds ++ [d]).filter (·.id == d.id) = ds.filter (·.id == d.id) ++ [d] := by
    simp [List.filter_append]
  have hlast : lastFor ds d.id = (ds.filter (·.id == d.id)).reverse.head? := by
    simp [lastFor, List.head?_reverse]
  simp only [trailingRun, lastFor_snoc_self, hF, List.reverse_append, hlast]
  cases (ds.filter (·.id == d.id)).reverse with
  | nil => simp
  | cons e rest =>
    by_cases he : e.mode.toMode = d.mode.toMode <;> simp [List.takeWhile_cons, he]

theorem trailingRun_snoc_ne (ds : List OutputInfo) (d : OutputInfo) {i : UInt32}
    (h : i ≠ d.id) : trailingRun (ds ++ [d]) i = trailingRun ds i := by
  simp [trailingRun, lastFor_snoc_ne ds d h, List.filter_append, Ne.symm h]

theorem lastFor_id {ds : List OutputInfo} {i : UInt32} {e : OutputInfo}
    (h : lastFor ds i = some e) : e.id = i := by
  simpa using List.of_mem_filter (List.mem_of_getLast?_eq_some h)

/-- The entries of a map with a key present: that entry, and the others, up to order. -/
theorem entries_perm_of_lookup {α V : Type} [DecidableEq α] {s : AList (fun _ : α => V)}
    {a : α} {b : V} (h : s.lookup a = some b) :
    s.entries.Perm (⟨a, b⟩ :: s.entries.kerase a) := by
  have hk : a ∈ s.entries.keys := (AList.mem_keys).mp (AList.lookup_isSome.mp (by simp [h]))
  obtain ⟨b', l₁, l₂, hl₁, hs, he⟩ := List.exists_of_kerase hk
  have hb : b' = b := by
    have : s.lookup a = some b' := by
      simp only [AList.lookup, hs, List.dlookup_append, List.dlookup_cons_eq,
        List.dlookup_eq_none.mpr hl₁, Option.none_or]
    rw [h] at this
    exact (Option.some.inj this).symm
  rw [he, hs, hb]
  exact List.perm_middle

/-- What a reconciled output must satisfy before a new descriptor for its id: its current
mode is the last descriptor's, and it is preferred exactly as the trailing run says. -/
def ReadyFor (ds : List OutputInfo) (i : UInt32) (o : Output) : Prop :=
  o.WellModed ∧ o.currentMode = (lastFor ds i).map (·.mode.toMode) ∧
    o.preferredMode = if (trailingRun ds i).any (·.mode.preferred) then o.currentMode else none

/-- The new entry a descriptor leaves at its id is the one `Reconciled` asks for. -/
theorem reconcile_last {ds : List OutputInfo} {d : OutputInfo} {o : Output}
    (ho : ReadyFor ds d.id o) :
    (o.reconcile d).modes = [d.mode.toMode] ∧ (o.reconcile d).currentMode = some d.mode.toMode ∧
    (o.reconcile d).transform = d.transform ∧ (o.reconcile d).scale = .integer d.scaleFactor ∧
    (o.reconcile d).location = d.location ∧
    (o.reconcile d).preferredMode = if (trailingRun (ds ++ [d]) d.id).any (·.mode.preferred)
      then some d.mode.toMode else none := by
  obtain ⟨hw, hc, hp⟩ := ho
  obtain ⟨h1, h2, h3, h4, h5, h6⟩ := reconcile_modes hw d
  refine ⟨h1, h2, h3, h4, h5, ?_⟩
  rw [h6, trailingRun_snoc_self, ← hc]
  by_cases hr : o.currentMode = some d.mode.toMode
  · simp only [if_pos hr, hp, hr]
    cases hpref : d.mode.preferred <;> simp [hpref]
  · simp only [if_neg hr]
    cases hpref : d.mode.preferred <;> simp [hpref]

theorem reconciled_nil {st : WprsState} (ho : st.compositorState.outputs = ∅)
    (hg : st.compositorState.dh.globals = []) : Reconciled st [] where
  mem_iff i := by simp [ho, AList.not_mem_empty]
  globals_perm := by simp [ho, hg, AList.empty_entries]
  globals_range := by simp [hg]
  last d hd := by simp [lastFor] at hd

/-- Before a descriptor, the output at its id — the one `handle_output` finds, or the one it
creates — is ready for it, and the map with the reconciled output at that id keeps the globals
in step with the entries. -/
theorem reconciled_entry {st : WprsState} {ds : List OutputInfo} (h : Reconciled st ds)
    (d : OutputInfo) : ∃ o g dh,
      (handleOutput st d).compositorState =
        { st.compositorState with
          dh := dh
          outputs := st.compositorState.outputs.insert d.id (o.reconcile d, g) } ∧
      ReadyFor ds d.id o ∧
      ((st.compositorState.outputs.insert d.id (o.reconcile d, g)).entries.map (·.2.2)).Perm
        dh.globals ∧ dh.globals = List.range dh.globals.length := by
  have hperm := h.globals_perm
  cases hl : st.compositorState.outputs.lookup d.id with
  | some entry =>
    obtain ⟨o, g⟩ := entry
    have hseen : d.id ∈ ds.map (·.id) :=
      (h.mem_iff _).mp (AList.lookup_isSome.mp (by simp [hl]))
    obtain ⟨e, he⟩ := Option.ne_none_iff_exists'.mp (mt (lastFor_eq_none_iff ds d.id).mp
      (not_not.mpr hseen))
    obtain ⟨o', g', hl', hm, hc, -, -, -, hp⟩ := h.last e (by rwa [lastFor_id he])
    rw [lastFor_id he, hl] at hl'
    cases hl'
    refine ⟨o, g, st.compositorState.dh, by simp [handleOutput, hl], ⟨.inr ⟨_, hm, hc, ?_⟩, ?_, ?_⟩,
      ?_, h.globals_range⟩
    · split at hp <;> simp [hp]
    · simp [hc, he]
    · rw [hp, hc, lastFor_id he]
    · rw [AList.insert_entries]
      exact ((entries_perm_of_lookup hl).map (·.2.2)).symm.trans hperm
  | none =>
    have hnew : d.id ∉ ds.map (·.id) := fun hm =>
      absurd ((h.mem_iff _).mpr hm) (AList.lookup_eq_none.mp hl)
    have hlast := (lastFor_eq_none_iff ds d.id).mpr hnew
    refine ⟨(createOutput st.compositorState.dh d).1.1, st.compositorState.dh.globals.length,
      (createOutput st.compositorState.dh d).2, by simp [handleOutput, hl, createOutput],
      ⟨Output.new_wellModed _ _, by simp [hlast, createOutput, Output.new],
        by simp [trailingRun, hlast, createOutput, Output.new]⟩, ?_, ?_⟩
    · rw [AList.insert_entries_of_neg (AList.lookup_eq_none.mp hl)]
      simpa [createOutput] using (hperm.cons _).trans (List.perm_append_singleton _ _).symm
    · conv_lhs => rw [show (createOutput st.compositorState.dh d).2.globals =
        st.compositorState.dh.globals ++ [st.compositorState.dh.globals.length] from rfl,
        h.globals_range]
      simp [createOutput, List.range_succ]

/-- One descriptor keeps the outputs reconciled with the sequence it extends. -/
theorem reconciled_snoc {st : WprsState} {ds : List OutputInfo} (h : Reconciled st ds)
    (d : OutputInfo) : Reconciled (handleOutput st d) (ds ++ [d]) := by
  obtain ⟨o, g, dh, hcs, hready, hperm, hrange⟩ := reconciled_entry h d
  refine ⟨fun i => ?_, by rwa [hcs], by rwa [hcs], fun e he => ?_⟩
  · simp [hcs, AList.mem_insert, h.mem_iff, or_comm]
  · by_cases hid : e.id = d.id
    · rw [hid, lastFor_snoc_self] at he
      cases he
      obtain ⟨h1, h2, h3, h4, h5, h6⟩ := reconcile_last hready
      exact ⟨_, g, by simp [hcs, AList.lookup_insert], h1, h2, h3, h4, h5, h6⟩
    · rw [lastFor_snoc_ne ds d hid] at he
      obtain ⟨o', g', hl, rest⟩ := h.last e he
      exact ⟨o', g', by simp [hcs, AList.lookup_insert_ne hid, hl], by
        rwa [trailingRun_snoc_ne ds d hid]⟩

/-- From no outputs, every sequence of descriptors leaves the outputs reconciled with it. -/
theorem handleOutputs_reconciled {st : WprsState} (ho : st.compositorState.outputs = ∅)
    (hg : st.compositorState.dh.globals = []) (ds : List OutputInfo) :
    Reconciled (ds.foldl handleOutput st) ds := by
  induction ds using List.reverseRecOn with
  | nil => exact reconciled_nil ho hg
  | append_singleton ds d ih =>
    rw [List.foldl_append, List.foldl_cons, List.foldl_nil]
    exact reconciled_snoc ih d

/-! ## The laws -/

/-- One output per id seen, each advertised by the one global created for it, each with the
last descriptor's mode as its only mode, current, and that descriptor's transform, scale and
location, and nothing but that mode preferred. -/
def OneModePerOutput (st : WprsState) (ds : List OutputInfo) : Prop :=
  (∀ i, i ∈ st.compositorState.outputs ↔ i ∈ ds.map (·.id)) ∧
  (st.compositorState.outputs.entries.map (·.2.2)).Perm st.compositorState.dh.globals ∧
  st.compositorState.dh.globals.Nodup ∧
  ∀ d, lastFor ds d.id = some d → ∃ o g,
    st.compositorState.outputs.lookup d.id = some (o, g) ∧
    o.modes = [d.mode.toMode] ∧ o.currentMode = some d.mode.toMode ∧
    o.transform = d.transform ∧ o.scale = .integer d.scaleFactor ∧ o.location = d.location ∧
    (o.preferredMode = none ∨ o.preferredMode = some d.mode.toMode)

/-- **No stale mode accumulates.** From no outputs and no globals, every sequence of
descriptors leaves one output per id seen, created with one global, advertising exactly the
last descriptor's mode. -/
theorem handleOutput_one_mode {st : WprsState} (ho : st.compositorState.outputs = ∅)
    (hg : st.compositorState.dh.globals = []) (ds : List OutputInfo) :
    OneModePerOutput (ds.foldl handleOutput st) ds := by
  have h := handleOutputs_reconciled ho hg ds
  refine ⟨h.mem_iff, h.globals_perm, h.globals_range ▸ List.nodup_range _, fun d hd => ?_⟩
  obtain ⟨o, g, hl, h1, h2, h3, h4, h5, h6⟩ := h.last d hd
  exact ⟨o, g, hl, h1, h2, h3, h4, h5, by split at h6 <;> simp [h6]⟩

/-- Two descriptors for one id, the second with another mode and the first preferred. -/
def modeChange : List OutputInfo :=
  [⟨1, some "eDP-1", ⟨300, 200⟩, .unknown, "m", "n", ⟨⟨800, 600⟩, 60, false⟩, .normal, 1, ⟨0, 0⟩⟩,
   ⟨1, some "eDP-1", ⟨300, 200⟩, .unknown, "m", "n", ⟨⟨1920, 1080⟩, 60, true⟩, ._90, 2, ⟨5, 0⟩⟩]

theorem handleOutput_one_mode_modeChange :
    (WprsState.new ⟨true, 0, []⟩).compositorState.outputs = ∅ ∧
    (WprsState.new ⟨true, 0, []⟩).compositorState.dh.globals = [] ∧
    OneModePerOutput (modeChange.foldl handleOutput (WprsState.new ⟨true, 0, []⟩)) modeChange :=
  ⟨rfl, rfl, handleOutput_one_mode rfl rfl modeChange⟩

/-- **The preferred mode remembers.** After any sequence of descriptors from no outputs, an
output's mode is preferred exactly when a descriptor of the trailing run for its id with the
last descriptor's mode flagged it preferred. -/
theorem handleOutput_preferred_history {st : WprsState} (ho : st.compositorState.outputs = ∅)
    (hg : st.compositorState.dh.globals = []) (ds : List OutputInfo) (d : OutputInfo)
    (hd : lastFor ds d.id = some d) :
    ∃ o g, (ds.foldl handleOutput st).compositorState.outputs.lookup d.id = some (o, g) ∧
      o.preferredMode =
        if (trailingRun ds d.id).any (·.mode.preferred) then some d.mode.toMode else none := by
  obtain ⟨o, g, hl, -, -, -, -, -, hp⟩ := (handleOutputs_reconciled ho hg ds).last d hd
  exact ⟨o, g, hl, hp⟩

theorem handleOutput_preferred_history_modeChange :
    (WprsState.new ⟨true, 0, []⟩).compositorState.outputs = ∅ ∧
    (WprsState.new ⟨true, 0, []⟩).compositorState.dh.globals = [] ∧
    lastFor modeChange 1 = modeChange.getLast? ∧
    ∃ o g, (modeChange.foldl handleOutput (WprsState.new ⟨true, 0, []⟩)).compositorState.outputs.lookup
        1 = some (o, g) ∧ o.preferredMode = some ⟨⟨1920, 1080⟩, 60⟩ :=
  ⟨rfl, rfl, rfl, by
    obtain ⟨o, g, hl, hp⟩ := @handleOutput_preferred_history (WprsState.new ⟨true, 0, []⟩)
      rfl rfl modeChange (modeChange.getLast?.get rfl) rfl
    exact ⟨o, g, hl, by rw [hp]; rfl⟩⟩

/-- The same mode, sent preferred and then not: the second descriptor leaves it preferred,
where that descriptor alone, on a fresh output, leaves nothing preferred. -/
def preferredThenNot : List OutputInfo :=
  [⟨1, none, ⟨300, 200⟩, .unknown, "m", "n", ⟨⟨800, 600⟩, 60, true⟩, .normal, 1, ⟨0, 0⟩⟩,
   ⟨1, none, ⟨300, 200⟩, .unknown, "m", "n", ⟨⟨800, 600⟩, 60, false⟩, .normal, 1, ⟨0, 0⟩⟩]

theorem handleOutput_preferred_sticks :
    (preferredThenNot.getLast?.map (·.mode.preferred)) = some false ∧
    ((preferredThenNot.foldl handleOutput (WprsState.new ⟨true, 0, []⟩)).compositorState.outputs.lookup
      1).map (·.1.preferredMode) = some (some ⟨⟨800, 600⟩, 60⟩) ∧
    (((preferredThenNot.drop 1).foldl handleOutput
      (WprsState.new ⟨true, 0, []⟩)).compositorState.outputs.lookup 1).map
      (·.1.preferredMode) = some none := by
  decide

end XwaylandXdgShell
