/-
Runs of the chemistry solver: `PhreeqcIO::doWaterChemistryCalculation` once per time step. Each
step may see any engine answer, any dump file contents, any transport values and any step length.
Along every run the configuration of the object never changes: the mesh map, the output schema,
the surface list, the process id map, the file names and every name the result reader looks up.
The solutions change only for the chemical systems, and the per-node arrays only at the bulk node
ids of the systems.
-/
import OgsProofs.ChemistryLib.Calculation
import OgsProofs.ChemistryLib.ResultFile
import OgsProofs.ChemistryLib.Footprint

namespace Ogs.ChemistryLib

variable {V : Type}

/-! ## What no step changes -/

/-- The members of `PhreeqcIO` that configure it, every name the result reader looks up, and the
name of the dump file. -/
def PhreeqcIO.configuration (io : PhreeqcIO V) :=
  (io.phreeqcInputFile, io.mesh, io.database, io.reactionRates, io.surface, io.output, io.knobs,
    io.processIdToComponentNameMap, io.lookupNames, io.dump.map (·.dumpFile))

/-- What a chemistry step leaves as it is: the configuration, the solutions from local id `N` on,
and every per-node entry at a global id no system has. -/
structure StepFrame (io io' : PhreeqcIO V) : Prop where
  configuration : io'.configuration = io.configuration
  solutions : ∀ k, io.mesh.numberOfBaseNodes ≤ k → io'.aqueousSolutions k = io.aqueousSolutions k
  phases : ∀ g, (∀ k < io.mesh.numberOfBaseNodes, io.mesh.bulkNodeIds k ≠ g) →
    io'.equilibriumPhases.map (·.amount g) = io.equilibriumPhases.map (·.amount g)
  reactants : ∀ g, (∀ k < io.mesh.numberOfBaseNodes, io.mesh.bulkNodeIds k ≠ g) →
    io'.kineticReactants.map (·.amount g) = io.kineticReactants.map (·.amount g)
  secondaryVariables : ∀ g, (∀ k < io.mesh.numberOfBaseNodes, io.mesh.bulkNodeIds k ≠ g) →
    io'.userPunch.map (·.secondaryVariables.map (·.value g)) =
      io.userPunch.map (·.secondaryVariables.map (·.value g))

section StepFrame

variable {io io' io'' : PhreeqcIO V}

theorem StepFrame.mesh (h : StepFrame io io') : io'.mesh = io.mesh :=
  congrArg (·.2.1) h.configuration

theorem StepFrame.footprint (h : StepFrame io io') : io'.Footprint = io.Footprint := by
  have hmap : io'.processIdToComponentNameMap = io.processIdToComponentNameMap :=
    congrArg (·.2.2.2.2.2.2.2.1) h.configuration
  funext p g
  simp only [ PhreeqcIO.Footprint, h.mesh, hmap]

theorem StepFrame.lookupNames (h : StepFrame io io') : io'.lookupNames = io.lookupNames :=
  congrArg (·.2.2.2.2.2.2.2.2.1) h.configuration

theorem StepFrame.refl (io : PhreeqcIO V) : StepFrame io io :=
  ⟨rfl, fun _ _ => rfl, fun _ _ => rfl, fun _ _ => rfl, fun _ _ => rfl⟩

theorem StepFrame.trans (h₁ : StepFrame io io') (h₂ : StepFrame io' io'') : StepFrame io io'' := by
  have hm := h₁.mesh
  exact ⟨h₂.configuration.trans h₁.configuration,
    fun k hk => (h₂.solutions k (hm ▸ hk)).trans (h₁.solutions k hk),
    fun g hg => (h₂.phases g (hm ▸ hg)).trans (h₁.phases g hg),
    fun g hg => (h₂.reactants g (hm ▸ hg)).trans (h₁.reactants g hg),
    fun g hg => (h₂.secondaryVariables g (hm ▸ hg)).trans (h₁.secondaryVariables g hg)⟩

theorem ReadFrame.stepFrame (h : ReadFrame io.mesh.numberOfBaseNodes io.mesh.bulkNodeIds io io') :
    StepFrame io io' := by
  have hm := h.members
  simp only [ PhreeqcIO.otherMembers, Prod.mk.injEq] at hm
  obtain ⟨h1, h2, h3, h4, h5, h6, h7, h8, h9, -⟩ := hm
  exact ⟨by simp only [ PhreeqcIO.configuration, h1, h2, h3, h4, h5, h6, h7, h8, h9, h.names],
    h.solutions, h.phases, h.reactants, h.secondaryVariables⟩

end StepFrame

theorem readOutputs_stepFrame (ndebug : Bool) (toDouble : String → Option V) (io : PhreeqcIO V)
    (lines : List String) : StepFrame io (leftState (readOutputs ndebug toDouble io lines)) := by
  rw [readOutputs_eq_rowPositions]
  exact (foldlM_readRowAt_frame ndebug toDouble io.output _ _ _ lines _
    (fun k hk => List.mem_range.1 hk) io).stepFrame

/-! ## The parts of a step -/

theorem setAqueousSolutionsPrevFromDumpFile_stepFrame
    (readDumpFile : String → Nat → Option (List (AqueousSolution V))) (io io' : PhreeqcIO V)
    (h : setAqueousSolutionsPrevFromDumpFile readDumpFile io = .ok io') : StepFrame io io' := by
  unfold setAqueousSolutionsPrevFromDumpFile at h
  split at h
  · cases h; exact StepFrame.refl io
  · rename_i d hd
    split at h
    · cases h
    · cases h
      exact ⟨by simp [ PhreeqcIO.configuration, PhreeqcIO.lookupNames, hd], fun _ _ => rfl,
        fun _ _ => rfl, fun _ _ => rfl, fun _ _ => rfl⟩

section Parts

variable [Neg V] (cm : Cmath V)

theorem setting_stepFrame (io : PhreeqcIO V) (ps : Nat → Nat → V) :
    StepFrame io (setAqueousSolutionsOrUpdateProcessSolutions cm io ps .settingAqueousSolutions).1 := by
  have hnames := fun k => ((runPass_setting_frame cm io ⟨io.aqueousSolutions, ps⟩).2 k).2.1
  refine ⟨?_, fun k hk => ?_, fun _ _ => rfl, fun _ _ => rfl, fun _ _ => rfl⟩
  · simp only [ PhreeqcIO.configuration, setAqueousSolutionsOrUpdateProcessSolutions,
      PhreeqcIO.lookupNames, hnames]
  · simp only [setAqueousSolutionsOrUpdateProcessSolutions, runPass_setting]
    rw [if_neg (by omega)]

theorem prepareInputs_stepFrame (readDumpFile : String → Nat → Option (List (AqueousSolution V)))
    (io : PhreeqcIO V) (ps : Nat → Nat → V) (dt : V) (inputs : PhreeqcIO V)
    (h : prepareInputs cm readDumpFile io ps dt = .ok inputs) : StepFrame io inputs := by
  unfold prepareInputs at h
  cases hd : setAqueousSolutionsPrevFromDumpFile readDumpFile
      (setAqueousSolutionsOrUpdateProcessSolutions cm io ps .settingAqueousSolutions).1 with
  | error e => simp only [hd] at h; cases h
  | ok io' =>
    simp only [hd] at h; cases h
    exact ((setting_stepFrame cm io ps).trans
      (setAqueousSolutionsPrevFromDumpFile_stepFrame readDumpFile _ io' hd)).trans
      ⟨rfl, fun _ _ => rfl, fun _ _ => rfl, fun _ _ => rfl, fun _ _ => rfl⟩

theorem doWaterChemistryCalculation_stepFrame (ndebug : Bool) (toDouble : String → Option V)
    (pr : Printers V) (readDumpFile : String → Nat → Option (List (AqueousSolution V)))
    (runFile : String → Option (List String)) (io : PhreeqcIO V) (ps : Nat → Nat → V) (dt : V)
    {io' : PhreeqcIO V} {ps' : Nat → Nat → V}
    (h : doWaterChemistryCalculation ndebug toDouble cm pr readDumpFile runFile io ps dt = .ok (io', ps')) :
    StepFrame io io' := by
  obtain ⟨inputs, -, lines, read, hinputs, -, -, hread, hupdate⟩ :=
    doWaterChemistryCalculation_eq_ok ndebug toDouble cm pr readDumpFile runFile io ps dt h
  have hframe := readOutputs_stepFrame ndebug toDouble inputs lines
  rw [hread] at hframe
  have hio : io' = read := by rw [← updating_fst cm read ps, hupdate]
  subst hio
  exact (prepareInputs_stepFrame cm readDumpFile io ps dt inputs hinputs).trans hframe

/-- A chemistry step is local to its footprint, the transport cells `(process id of the map, m[k])`
of the systems. Transport values that agree on the footprint give the same outcome: the same
failure, or the same state and the same values on the footprint, while every other transport value
is passed through as it came in. A value off the footprint is never read and never written. -/
theorem doWaterChemistryCalculation_local (ndebug : Bool) (toDouble : String → Option V)
    (pr : Printers V) (readDumpFile : String → Nat → Option (List (AqueousSolution V)))
    (runFile : String → Option (List String)) (io : PhreeqcIO V) (ps ps' : Nat → Nat → V) (dt : V)
    (h : ∀ p g, io.Footprint p g → ps' p g = ps p g) :
    doWaterChemistryCalculation ndebug toDouble cm pr readDumpFile runFile io ps' dt =
      (fun r => (r.1, fun p g => if io.Footprint p g then r.2 p g else ps' p g)) <$>
        doWaterChemistryCalculation ndebug toDouble cm pr readDumpFile runFile io ps dt := by
  have hprep : prepareInputs cm readDumpFile io ps' dt = prepareInputs cm readDumpFile io ps dt := by
    simp only [prepareInputs, setting_eq_of_agreeOn_footprint cm io ps ps' h]
  unfold doWaterChemistryCalculation
  rw [hprep]
  cases hinputs : prepareInputs cm readDumpFile io ps dt with
  | error e => rfl
  | ok inputs =>
    dsimp only
    cases writeInputs inputs with
    | none => rfl
    | some script =>
      dsimp only
      cases runFile (render pr script) with
      | none => rfl
      | some lines =>
        dsimp only
        cases hread : readOutputs ndebug toDouble inputs lines with
        | error r => rfl
        | ok read =>
          dsimp only
          have hframe := readOutputs_stepFrame ndebug toDouble inputs lines
          rw [hread] at hframe
          have hfp : read.Footprint = io.Footprint :=
            ((prepareInputs_stepFrame cm readDumpFile io ps dt inputs hinputs).trans hframe).footprint
          rw [updating_eq_of_agreeOn_footprint cm read ps ps' fun p g hr => h p g (hfp ▸ hr)]
          simp only [hfp]
          exact congrArg Except.ok (Prod.ext (updating_fst cm read ps).symm rfl)

/-- A chemistry step whose engine answers with a table laid out as `operator>>` reads it, with
one numeral per schema entry in the kept columns of each row and every schema name resolving,
succeeds: the state is the one the specification describes for the table's values, and the
transport values are those the updating pass writes from it. -/
theorem doWaterChemistryCalculation_table_eq_ok (ndebug : Bool) (toDouble : String → Option V)
    (pr : Printers V) (readDumpFile : String → Nat → Option (List (AqueousSolution V)))
    (runFile : String → Option (List String)) (io : PhreeqcIO V) (ps : Nat → Nat → V) (dt : V)
    (inputs : PhreeqcIO V) (hinputs : prepareInputs cm readDumpFile io ps dt = .ok inputs)
    (script : List (Line V)) (hscript : writeInputs inputs = some script)
    (header : String) (skipped : Nat → List String) (rows : Nat → String) (values : Nat → List V)
    (hrun : runFile (render pr script) =
      some (header :: (List.range io.mesh.numberOfBaseNodes).flatMap fun k => skipped k ++ [rows k]))
    (hskipped : ∀ k, (skipped k).length = if io.surface.isEmpty then 1 else 2)
    (hnumerals : ∀ k < io.mesh.numberOfBaseNodes, List.Forall₂ (IsNumeral toDouble)
      (keptItems io.output.droppedItemIds 0 (tokenize (rows k))) (values k))
    (harity : ∀ k < io.mesh.numberOfBaseNodes, (values k).length = io.output.acceptedItems.length)
    (hresolve : ∀ k < io.mesh.numberOfBaseNodes, ∀ item ∈ io.output.acceptedItems,
      io.lookupNames.Resolves k item) :
    doWaterChemistryCalculation ndebug toDouble cm pr readDumpFile runFile io ps dt =
      .ok (readSpec inputs values, (setAqueousSolutionsOrUpdateProcessSolutions cm
        (readSpec inputs values) ps .updatingProcessSolutions).2) := by
  have hframe := prepareInputs_stepFrame cm readDumpFile io ps dt inputs hinputs
  obtain ⟨-, hmesh, -, houtput, hsurface⟩ := prepareInputs_ok cm readDumpFile io ps dt inputs hinputs
  rw [← hmesh] at hrun hnumerals harity hresolve
  rw [← houtput] at hnumerals harity hresolve
  rw [← hsurface] at hskipped
  rw [← hframe.lookupNames] at hresolve
  have hread : readOutputs ndebug toDouble inputs
      (header :: (List.range inputs.mesh.numberOfBaseNodes).flatMap fun k => skipped k ++ [rows k]) =
        .ok (readSpec inputs values) := by
    rw [readOutputs_table ndebug toDouble inputs header skipped rows hskipped]
    exact foldlM_readRow_eq_ok ndebug toDouble inputs.output inputs.mesh.bulkNodeIds rows values
      inputs.lookupNames _ inputs
      (fun k hk => (acceptItems_eq_ok_iff toDouble _ _ 0 _ _).2
        ((hnumerals k (List.mem_range.1 hk)).imp fun _ _ h => h.1))
      (fun k hk => harity k (List.mem_range.1 hk)) (fun k hk => hresolve k (List.mem_range.1 hk)) rfl
  unfold doWaterChemistryCalculation
  simp only [hinputs, hscript, hrun, hread]
  exact congrArg Except.ok (Prod.ext (updating_fst cm _ ps) rfl)

end Parts

/-- The step of `calciumSystem` whose engine answers pH `-2` and calcium `5`. -/
theorem calcium_step_reads_table :
    (prepareInputs ⟨id, id⟩ (fun _ _ => none) calciumSystem (fun p _ => if p = 0 then 5 else 2) 0 =
        .ok calciumInputs ∧
      writeInputs calciumInputs = some ((writeInputs calciumInputs).getD []) ∧
      (fun _ => some ["pH Ca", "initial", "-2 5"] : String → Option (List String))
          (render blankPrinters ((writeInputs calciumInputs).getD [])) =
        some ("pH Ca" :: (List.range calciumSystem.mesh.numberOfBaseNodes).flatMap
          fun _ => ["initial"] ++ ["-2 5"]) ∧
      (∀ _ : Nat, (["initial"] : List String).length = if calciumSystem.surface.isEmpty then 1 else 2) ∧
      (∀ k < calciumSystem.mesh.numberOfBaseNodes, List.Forall₂ (IsNumeral calciumNumerals)
        (keptItems calciumSystem.output.droppedItemIds 0 (tokenize "-2 5")) [-2, 5]) ∧
      (∀ k < calciumSystem.mesh.numberOfBaseNodes,
        [-2, 5].length = calciumSystem.output.acceptedItems.length) ∧
      ∀ k < calciumSystem.mesh.numberOfBaseNodes, ∀ item ∈ calciumSystem.output.acceptedItems,
        calciumSystem.lookupNames.Resolves k item) ∧
    doWaterChemistryCalculation false calciumNumerals ⟨id, id⟩ blankPrinters (fun _ _ => none)
        (fun _ => some ["pH Ca", "initial", "-2 5"]) calciumSystem (fun p _ => if p = 0 then 5 else 2) 0 =
      .ok (readSpec calciumInputs fun _ => [-2, 5], (setAqueousSolutionsOrUpdateProcessSolutions ⟨id, id⟩
        (readSpec calciumInputs fun _ => [-2, 5]) (fun p _ => if p = 0 then 5 else 2)
        .updatingProcessSolutions).2) := by
  refine ⟨⟨?inputs, ?script, ?run, ?skipped, ?numerals, ?arity, ?resolve⟩,
    doWaterChemistryCalculation_table_eq_ok ⟨id, id⟩ false calciumNumerals blankPrinters _ _ calciumSystem
      _ 0 calciumInputs ?inputs _ ?script "pH Ca" (fun _ => ["initial"]) (fun _ => "-2 5")
      (fun _ => [-2, 5]) ?run ?skipped ?numerals ?arity ?resolve⟩
  case skipped => exact fun _ => rfl
  all_goals first | rfl | decide

/-- A chemistry step succeeds exactly when each of its stages does: the dump file is read, the
script has defined behaviour, the engine answers, and `operator>>` accepts every system's row of
the answer. -/
theorem doWaterChemistryCalculation_ok_iff [Neg V] (cm : Cmath V) (ndebug : Bool)
    (toDouble : String → Option V) (pr : Printers V)
    (readDumpFile : String → Nat → Option (List (AqueousSolution V)))
    (runFile : String → Option (List String)) (io : PhreeqcIO V) (ps : Nat → Nat → V) (dt : V) :
    (∃ r, doWaterChemistryCalculation ndebug toDouble cm pr readDumpFile runFile io ps dt = .ok r) ↔
      ∃ inputs script lines, prepareInputs cm readDumpFile io ps dt = .ok inputs ∧
        writeInputs inputs = some script ∧ runFile (render pr script) = some lines ∧
        ∀ k < io.mesh.numberOfBaseNodes, RowAccepted ndebug toDouble io.output io.mesh.bulkNodeIds
          (if io.surface.isEmpty then 1 else 2) lines io.lookupNames k := by
  have hread : ∀ inputs lines, prepareInputs cm readDumpFile io ps dt = .ok inputs →
      ((∃ read, readOutputs ndebug toDouble inputs lines = .ok read) ↔
        ∀ k < io.mesh.numberOfBaseNodes, RowAccepted ndebug toDouble io.output io.mesh.bulkNodeIds
          (if io.surface.isEmpty then 1 else 2) lines io.lookupNames k) := by
    intro inputs lines hinputs
    obtain ⟨-, hmesh, -, houtput, hsurface⟩ := prepareInputs_ok cm readDumpFile io ps dt inputs hinputs
    rw [readOutputs_eq_rowPositions, foldlM_readRowAt_isOk_iff ndebug toDouble inputs.output _ _ lines
      inputs.lookupNames _ inputs rfl, ← hmesh, ← houtput, ← hsurface,
      ← (prepareInputs_stepFrame cm readDumpFile io ps dt inputs hinputs).lookupNames]
    simp only [List.mem_range]
  unfold doWaterChemistryCalculation
  constructor
  · rintro ⟨r, h⟩
    split at h; · cases h
    rename_i inputs hinputs
    split at h; · cases h
    rename_i script hscript
    split at h; · cases h
    rename_i lines hlines
    split at h; · cases h
    rename_i read hrd
    exact ⟨inputs, script, lines, hinputs, hscript, hlines, (hread inputs lines hinputs).1 ⟨read, hrd⟩⟩
  · rintro ⟨inputs, script, lines, hinputs, hscript, hlines, hrows⟩
    obtain ⟨read, hrd⟩ := (hread inputs lines hinputs).2 hrows
    exact ⟨setAqueousSolutionsOrUpdateProcessSolutions cm read ps .updatingProcessSolutions,
      by simp only [hinputs, hscript, hlines, hrd]⟩

/-! ## Runs -/

/-- The states a simulation reaches from `io` by chemistry steps. The build, `strtod`, the
`<cmath>` calls and the printers are fixed; each step has its own engine, dump file contents,
transport values and step length. -/
inductive Reachable [Neg V] (ndebug : Bool) (toDouble : String → Option V) (cm : Cmath V)
    (pr : Printers V) (io : PhreeqcIO V) : PhreeqcIO V → Prop
  | init : Reachable ndebug toDouble cm pr io io
  | step {io' io'' : PhreeqcIO V} (readDumpFile : String → Nat → Option (List (AqueousSolution V)))
      (runFile : String → Option (List String)) (processSolutions processSolutions' : Nat → Nat → V)
      (dt : V) : Reachable ndebug toDouble cm pr io io' →
      doWaterChemistryCalculation ndebug toDouble cm pr readDumpFile runFile io' processSolutions dt =
        .ok (io'', processSolutions') →
      Reachable ndebug toDouble cm pr io io''

/-- Along every run of chemistry steps the configuration of the object stays as it was, and so
does every name the result reader looks up. No solution from local id `N` on changes, and no
entry of a per-node array at a global id that no chemical system has. -/
theorem reachable_stepFrame [Neg V] (ndebug : Bool) (toDouble : String → Option V) (cm : Cmath V)
    (pr : Printers V) (io io' : PhreeqcIO V) (h : Reachable ndebug toDouble cm pr io io') :
    StepFrame io io' := by
  induction h with
  | init => exact StepFrame.refl io
  | step readDumpFile runFile ps _ dt _ hstep ih =>
    exact ih.trans (doWaterChemistryCalculation_stepFrame cm ndebug toDouble pr readDumpFile runFile
      _ ps dt hstep)

theorem quiet_step_keeps_configuration :
    ∃ io', Reachable false calciumNumerals ⟨id, id⟩ blankPrinters calciumSystem io' ∧
      StepFrame calciumSystem io' := by
  have h : Reachable false calciumNumerals ⟨id, id⟩ blankPrinters calciumSystem _ :=
    .step (fun _ _ => none) (fun _ => some ["pH Ca", "initial", "-2 5"])
      (fun p _ => if p = 0 then 5 else 2) _ 0 .init rfl
  exact ⟨_, h, reachable_stepFrame _ _ _ _ _ _ h⟩

/-- The step of `calciumSystem` with transport values changed at every node but its bulk node 0. -/
theorem calcium_step_ignores_other_nodes :
    let ps : Nat → Nat → Int := fun p _ => if p = 0 then 5 else 2
    let ps' : Nat → Nat → Int := fun p g => if g = 0 then ps p g else 9
    (∀ p g, calciumSystem.Footprint p g → ps' p g = ps p g) ∧
      doWaterChemistryCalculation false calciumNumerals ⟨id, id⟩ blankPrinters (fun _ _ => none)
          (fun _ => some ["pH Ca", "initial", "-2 5"]) calciumSystem ps' 0 =
        (fun r => (r.1, fun p g => if calciumSystem.Footprint p g then r.2 p g else ps' p g)) <$>
          doWaterChemistryCalculation false calciumNumerals ⟨id, id⟩ blankPrinters (fun _ _ => none)
            (fun _ => some ["pH Ca", "initial", "-2 5"]) calciumSystem ps 0 := by
  intro ps ps'
  have h : ∀ p g, calciumSystem.Footprint p g → ps' p g = ps p g := by
    rintro p g ⟨k, hk, e, -, hpg⟩
    have hg : g = k := (Prod.mk.inj hpg).2
    have hk : k < 1 := hk
    show (if g = 0 then ps p g else 9) = ps p g
    rw [if_pos (by omega)]
  exact ⟨h, doWaterChemistryCalculation_local _ false calciumNumerals blankPrinters _ _ _ ps ps' 0 h⟩

end Ogs.ChemistryLib
