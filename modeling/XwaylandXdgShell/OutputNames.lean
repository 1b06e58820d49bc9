import XwaylandXdgShell.Compositor

/-!
# What names an output

`handle_output` creates an output only for an id it has not seen (`or_insert_with_key`, lines
551-567). It names the output `"{id}_{name}"`, with `"None"` for a nameless descriptor, and gives
it that first descriptor's physical properties. Later descriptors for the id change the output's
mode, transform, scale and location (`Reconciled`), and never its name or physical properties.

**The law** (`output_identity`): along every run from the start, each output has the name and
physical properties of the first descriptor dispatched for its id, whatever later descriptors
say, and no two outputs share a name, as `wl_output` names must not. The name begins with the
decimal digits of the id, none of which is the separator `_`, so the id reads back from the name
(`outputName_id`) however the remote side names its outputs.

**What it does not establish.** A monitor that the remote side renames, or whose physical size
changes, under the same id keeps its first name and size here.
-/

namespace XwaylandXdgShell

/-! ## The name, and reading the id back -/

/-- The name `handle_output` gives the output it creates for a descriptor (line 557). -/
def OutputInfo.outputName (output : OutputInfo) : String :=
  toString output.id ++ "_" ++ output.name.getD "None"

/-- The physical properties it gives that output (lines 558-563). -/
def OutputInfo.physicalProperties (output : OutputInfo) : PhysicalProperties :=
  { size := output.physicalSize, subpixel := output.subpixel, make := output.make,
    model := output.model }

/-- The number a list of decimal digits spells, most significant first. -/
def decimalValue (digits : List Char) : Nat :=
  digits.foldl (fun n c => 10 * n + (c.toNat - '0'.toNat)) 0

/-- The id an output name starts with: the digits before the first `_`. -/
def outputId (name : String) : Nat :=
  decimalValue (name.data.takeWhile (· != '_'))

theorem decimalValue_snoc (digits : List Char) (c : Char) :
    decimalValue (digits ++ [c]) = 10 * decimalValue digits + (c.toNat - '0'.toNat) := by
  simp [decimalValue]

/-- `Nat.toDigitsCore` with enough fuel puts before what it has so far the decimal digits of its
number, none of them `_`. -/
theorem toDigitsCore_decimal (fuel n : Nat) (acc : List Char) (hn : n < fuel) :
    ∃ digits, Nat.toDigitsCore 10 fuel n acc = digits ++ acc ∧ decimalValue digits = n ∧
      '_' ∉ digits := by
  induction fuel generalizing n acc with
  | zero => omega
  | succ fuel ih =>
    have hdigit : ∀ k < 10, (Nat.digitChar k).toNat - '0'.toNat = k ∧ Nat.digitChar k ≠ '_' := by
      decide
    obtain ⟨hv, hu⟩ := hdigit (n % 10) (Nat.mod_lt _ (by decide))
    have hstep : Nat.toDigitsCore 10 (fuel + 1) n acc =
        if n / 10 = 0 then Nat.digitChar (n % 10) :: acc
        else Nat.toDigitsCore 10 fuel (n / 10) (Nat.digitChar (n % 10) :: acc) := rfl
    rw [hstep]
    split
    next h0 =>
      refine ⟨[Nat.digitChar (n % 10)], rfl, ?_, by simpa using hu.symm⟩
      simp only [decimalValue, List.foldl_cons, List.foldl_nil] at hv ⊢
      omega
    next h0 =>
      obtain ⟨digits, hd, hval, hnu⟩ := ih (n / 10) (Nat.digitChar (n % 10) :: acc) (by omega)
      refine ⟨digits ++ [Nat.digitChar (n % 10)], by simp [hd], ?_, by simp [hnu, hu.symm]⟩
      rw [decimalValue_snoc, hval, hv]
      omega

/-- An output's name reads back as its id. -/
theorem outputName_id (output : OutputInfo) : outputId output.outputName = output.id.toNat := by
  obtain ⟨digits, hd, hval, hnu⟩ :=
    toDigitsCore_decimal (output.id.toNat + 1) output.id.toNat [] (Nat.lt_succ_self _)
  have hname : output.outputName.data = digits ++ '_' :: (output.name.getD "None").data := by
    rw [← List.append_nil digits, ← hd]
    simp [OutputInfo.outputName, String.append]
    rfl
  have hpos : ∀ c ∈ digits, (c != '_') = true := fun c hc => by
    simpa using ne_of_mem_of_not_mem hc hnu
  rw [outputId, hname, List.takeWhile_append_of_pos hpos,
    List.takeWhile_cons_of_neg (by simp), List.append_nil, hval]

/-- Two descriptors give their outputs the same name only if they are for the same id. -/
theorem outputName_inj {d e : OutputInfo} (h : d.outputName = e.outputName) : d.id = e.id :=
  UInt32.toNat.inj (by rw [← outputName_id d, ← outputName_id e, h])

/-! ## One descriptor -/

/-- The first descriptor for `id` in a sequence. -/
def firstFor (ds : List OutputInfo) (id : UInt32) : Option OutputInfo :=
  ds.find? (·.id == id)

/-- The name and physical properties of each output: those of the first descriptor for its
id. -/
def Identified (st : WprsState) (ds : List OutputInfo) : Prop :=
  ∀ i, (st.compositorState.outputs.lookup i).map (fun e => (e.1.name, e.1.physicalProperties)) =
    (firstFor ds i).map fun d => (d.outputName, d.physicalProperties)

/-- Reconciling an output with a descriptor keeps its name and physical properties. -/
theorem reconcile_identity (o : Output) (d : OutputInfo) :
    (o.reconcile d).name = o.name ∧ (o.reconcile d).physicalProperties = o.physicalProperties := by
  simp only [Output.reconcile, Output.dropStaleMode]
  split_ifs <;> exact ⟨rfl, rfl⟩

/-- A descriptor keeps the outputs identified with the sequence it extends: it creates an output
only for an id no earlier descriptor had, and reconciles the one it finds otherwise. -/
theorem identified_snoc {st : WprsState} {ds : List OutputInfo} (h : Identified st ds)
    (d : OutputInfo) : Identified (handleOutput st d) (ds ++ [d]) := by
  intro i
  rcases eq_or_ne i d.id with rfl | hne
  · have hfirst : firstFor (ds ++ [d]) d.id = (firstFor ds d.id).or (some d) := by
      simp [firstFor, List.find?_append]
    have hd := h d.id
    cases hl : st.compositorState.outputs.lookup d.id with
    | none =>
      rw [hl, Option.map_none', eq_comm, Option.map_eq_none'] at hd
      simp [handleOutput, hl, hfirst, hd, AList.lookup_insert, createOutput,
        OutputInfo.outputName, OutputInfo.physicalProperties, reconcile_identity, Output.new]
    | some e =>
      rw [hl, Option.map_some'] at hd
      obtain ⟨f, hf, he⟩ := Option.map_eq_some'.mp hd.symm
      simp [handleOutput, hl, hfirst, hf, AList.lookup_insert, reconcile_identity, ← he]
  · have hfirst : firstFor (ds ++ [d]) i = firstFor ds i := by
      simp [firstFor, List.find?_append, Ne.symm hne]
    simpa [handleOutput, hfirst, AList.lookup_insert_ne hne] using h i

/-! ## Along runs -/

/-- Along every run from the start, the outputs are identified with the descriptors dispatched
so far, whatever other events come between them. -/
theorem outputs_identified {Admit : WprsState → X11Surface → Prop} {cs : ClientState}
    {evs : List Event} {st : WprsState} (h : Run Admit (WprsState.new cs) evs st) :
    Identified st (evs.filterMap Event.outputInfo) := by
  induction h with
  | nil => intro i; simp [WprsState.new, WprsCompositorState.new, firstFor]
  | @step evs st st' ev _ _ hd ih =>
    have hc := congrArg (·.outputs) (dispatch_compositorState hd)
    intro i
    rw [List.filterMap_append]
    cases ev with
    | output info =>
      rw [show st'.compositorState.outputs = (handleOutput st info).compositorState.outputs from hc]
      exact identified_snoc ih info i
    | _ =>
      simp only [List.filterMap_cons, Event.outputInfo, List.filterMap_nil, List.append_nil]
      rw [show st'.compositorState.outputs = st.compositorState.outputs from hc]
      exact ih i

/-- Identified outputs with the same name are the same output: each name reads back as the id of
the descriptor that gave it, which is the output's own id. -/
theorem Identified.name_inj {st : WprsState} {ds : List OutputInfo} (hid : Identified st ds)
    {i j : UInt32} {o o' : Output} {g g' : GlobalId}
    (hi : st.compositorState.outputs.lookup i = some (o, g))
    (hj : st.compositorState.outputs.lookup j = some (o', g')) (hn : o.name = o'.name) : i = j := by
  have hfi := hid i
  have hfj := hid j
  rw [hi, Option.map_some'] at hfi
  rw [hj, Option.map_some'] at hfj
  obtain ⟨d, hd, hdn⟩ := Option.map_eq_some'.mp hfi.symm
  obtain ⟨e, he, hen⟩ := Option.map_eq_some'.mp hfj.symm
  have hdi : d.id = i := by simpa using List.find?_some hd
  have hej : e.id = j := by simpa using List.find?_some he
  rw [← hdi, ← hej]
  exact outputName_inj ((congrArg Prod.fst hdn).trans (hn.trans (congrArg Prod.fst hen).symm))

/-- **Outputs keep the identity they were created with, and their names are unique.** Along
every run from the start, each output has the name and physical properties of the first
descriptor dispatched for its id, and two outputs with the same name are the same output. -/
theorem output_identity {Admit : WprsState → X11Surface → Prop} {cs : ClientState}
    {evs : List Event} {st : WprsState} (h : Run Admit (WprsState.new cs) evs st) :
    Identified st (evs.filterMap Event.outputInfo) ∧
      ∀ i j o o' g g', st.compositorState.outputs.lookup i = some (o, g) →
        st.compositorState.outputs.lookup j = some (o', g') → o.name = o'.name → i = j :=
  ⟨outputs_identified h, fun _ _ _ _ _ _ => (outputs_identified h).name_inj⟩

/-- Two outputs, the second renamed and resized by a later descriptor: each keeps the name its
first descriptor gave it, and the names differ. -/
def renamedOutputs : List OutputInfo :=
  [⟨1, some "eDP-1", ⟨300, 200⟩, .unknown, "m", "n", ⟨⟨800, 600⟩, 60, false⟩, .normal, 1, ⟨0, 0⟩⟩,
   ⟨12, none, ⟨300, 200⟩, .unknown, "m", "n", ⟨⟨800, 600⟩, 60, false⟩, .normal, 1, ⟨0, 0⟩⟩,
   ⟨12, some "HDMI-1", ⟨600, 400⟩, .unknown, "m", "n", ⟨⟨800, 600⟩, 60, false⟩, .normal, 1, ⟨0, 0⟩⟩]

theorem output_identity_renamed :
    ∃ st, Run (fun _ _ => True) (WprsState.new ⟨true, 0, []⟩)
      (renamedOutputs.map Event.output) st ∧
      (Identified st ((renamedOutputs.map Event.output).filterMap Event.outputInfo) ∧
        ∀ i j o o' g g', st.compositorState.outputs.lookup i = some (o, g) →
          st.compositorState.outputs.lookup j = some (o', g') → o.name = o'.name → i = j) ∧
      (st.compositorState.outputs.lookup 12).map (·.1.name) = some "12_None" := by
  have h : Run (fun _ _ => True) (WprsState.new ⟨true, 0, []⟩)
      ([] ++ [.output (renamedOutputs.get ⟨0, by decide⟩)] ++
        [.output (renamedOutputs.get ⟨1, by decide⟩)] ++
        [.output (renamedOutputs.get ⟨2, by decide⟩)]) _ :=
    .step (.step (.step .nil trivial rfl) trivial rfl) trivial rfl
  exact ⟨_, h, output_identity h, by decide⟩

end XwaylandXdgShell
