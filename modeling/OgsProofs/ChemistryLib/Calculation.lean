/-
`PhreeqcIO::doWaterChemistryCalculation`: one chemistry step of the operator splitting. The
transport values are copied into the aqueous solutions, the previous solutions are read from the
dump file, the script is written, the engine runs on it, its result table is read back and the
solutions are copied into the transport values. The engine (`RunFile` of IPhreeqc) and the dump
file reader (`Dump::readDumpFile`) are not in the sources: they are the parameters `runFile`,
from the text of the input file to the lines of the result file, and `readDumpFile`. `runFile`
also stands for the file system: writing the text to the input file, which `writeInputsToFile`
checks twice with an `OGS_FATAL` (the file cannot be opened, or writing it fails), and opening
the result file. A failure of any of these is `runFile` returning `none`, reported as the
`execute` error. The code opens the input file before `operator<<` runs, the model after it.
-/
import OgsProofs.ChemistryLib.Coupling
import OgsProofs.ChemistryLib.Script
import OgsProofs.ChemistryLib.Result

namespace Ogs.ChemistryLib

variable {V : Type}

/-! ## The step -/

/-- How a chemistry step stops: a dump file that cannot be read, undefined behaviour in
`operator<<`, a failed engine run or file access (`execute`), or a failure of `operator>>` with the
state it leaves. -/
inductive CalculationError (V : Type)
  | dumpFile (message : String)
  | undefinedInputs
  | execute (message : String)
  | readOutputs (e : ReadError) (io : PhreeqcIO V)

/-- `PhreeqcIO::setAqueousSolutionsPrevFromDumpFile`: without a dump nothing happens, else the
solutions of the last step are read from the dump file for every chemical system. -/
def setAqueousSolutionsPrevFromDumpFile
    (readDumpFile : String → Nat → Option (List (AqueousSolution V))) (io : PhreeqcIO V) :
    Except (CalculationError V) ( PhreeqcIO V) :=
  match io.dump with
  | none => .ok io
  | some d =>
    match readDumpFile d.dumpFile io.mesh.numberOfBaseNodes with
    | none => .error (.dumpFile ("Error when reading phreeqc dump file '" ++ d.dumpFile ++ "'"))
    | some prev => .ok { io with dump := some { d with aqueousSolutionsPrev := prev } }

/-- The state the script is written from: the transport values copied in, the previous solutions
read, and the step length stored by `*this << dt`. -/
def prepareInputs [Neg V] (cm : Cmath V)
    (readDumpFile : String → Nat → Option (List (AqueousSolution V))) (io : PhreeqcIO V)
    (processSolutions : Nat → Nat → V) (dt : V) : Except (CalculationError V) ( PhreeqcIO V) :=
  let io := (setAqueousSolutionsOrUpdateProcessSolutions cm io processSolutions
    .settingAqueousSolutions).1
  (setAqueousSolutionsPrevFromDumpFile readDumpFile io).map fun io => { io with dt := dt }

/-- `PhreeqcIO::doWaterChemistryCalculation`, returning the state and the transport values. -/
def doWaterChemistryCalculation [Neg V] (ndebug : Bool) (toDouble : String → Option V)
    (cm : Cmath V) (pr : Printers V)
    (readDumpFile : String → Nat → Option (List (AqueousSolution V)))
    (runFile : String → Option (List String)) (io : PhreeqcIO V)
    (processSolutions : Nat → Nat → V) (dt : V) :
    Except (CalculationError V) ( PhreeqcIO V × (Nat → Nat → V)) :=
  match prepareInputs cm readDumpFile io processSolutions dt with
  | .error e => .error e
  | .ok io =>
    match writeInputs io with
    | none => .error .undefinedInputs
    | some script =>
      match runFile (render pr script) with
      | none => .error (.execute ("Failed in performing speciation calculation with the " ++
          "generated phreeqc input file '" ++ io.phreeqcInputFile ++ "'."))
      | some lines =>
        match readOutputs ndebug toDouble io lines with
        | .error (e, io) => .error (.readOutputs e io)
        | .ok io =>
          .ok (setAqueousSolutionsOrUpdateProcessSolutions cm io processSolutions
            .updatingProcessSolutions)

/-- `PhreeqcIO::executeInitialCalculation`: the setting pass, `writeInputsToFile()` with the default
step length of its declaration in `PhreeqcIO.h`, which is not in the sources (the parameter
`defaultDt`), the engine run, the result read back and the updating pass. No dump file is read. -/
def executeInitialCalculation [Neg V] (ndebug : Bool) (toDouble : String → Option V)
    (cm : Cmath V) (pr : Printers V) (runFile : String → Option (List String)) (defaultDt : V)
    (io : PhreeqcIO V) (processSolutions : Nat → Nat → V) :
    Except (CalculationError V) ( PhreeqcIO V × (Nat → Nat → V)) :=
  let io := { (setAqueousSolutionsOrUpdateProcessSolutions cm io processSolutions
    .settingAqueousSolutions).1 with dt := defaultDt }
  match writeInputs io with
  | none => .error .undefinedInputs
  | some script =>
    match runFile (render pr script) with
    | none => .error (.execute ("Failed in performing speciation calculation with the " ++
        "generated phreeqc input file '" ++ io.phreeqcInputFile ++ "'."))
    | some lines =>
      match readOutputs ndebug toDouble io lines with
      | .error (e, io) => .error (.readOutputs e io)
      | .ok io =>
        .ok (setAqueousSolutionsOrUpdateProcessSolutions cm io processSolutions
          .updatingProcessSolutions)

/-- The initial calculation is a chemistry step of length `defaultDt` whose dump file holds the
previous solutions the object already has; without a dump the two are the same call. -/
theorem executeInitialCalculation_eq_step [Neg V] (ndebug : Bool) (toDouble : String → Option V)
    (cm : Cmath V) (pr : Printers V) (runFile : String → Option (List String)) (defaultDt : V)
    (io : PhreeqcIO V) (processSolutions : Nat → Nat → V) :
    executeInitialCalculation ndebug toDouble cm pr runFile defaultDt io processSolutions =
      doWaterChemistryCalculation ndebug toDouble cm pr
        (fun _ _ => io.dump.map (·.aqueousSolutionsPrev)) runFile io processSolutions defaultDt := by
  have hprep : prepareInputs cm (fun _ _ => io.dump.map (·.aqueousSolutionsPrev)) io processSolutions
      defaultDt = .ok { (setAqueousSolutionsOrUpdateProcessSolutions cm io processSolutions
        .settingAqueousSolutions).1 with dt := defaultDt } := by
    unfold prepareInputs setAqueousSolutionsPrevFromDumpFile
    cases hd : io.dump <;> simp [hd, setAqueousSolutionsOrUpdateProcessSolutions, Except.map]
  rw [executeInitialCalculation, doWaterChemistryCalculation, hprep]

theorem doWaterChemistryCalculation_eq_ok [Neg V] (ndebug : Bool) (toDouble : String → Option V)
    (cm : Cmath V) (pr : Printers V) (readDumpFile : String → Nat → Option (List (AqueousSolution V)))
    (runFile : String → Option (List String)) (io : PhreeqcIO V) (processSolutions : Nat → Nat → V)
    (dt : V) {io' : PhreeqcIO V} {processSolutions' : Nat → Nat → V}
    (h : doWaterChemistryCalculation ndebug toDouble cm pr readDumpFile runFile io processSolutions dt =
      .ok (io', processSolutions')) :
    ∃ inputs script lines read, prepareInputs cm readDumpFile io processSolutions dt = .ok inputs ∧
      writeInputs inputs = some script ∧ runFile (render pr script) = some lines ∧
      readOutputs ndebug toDouble inputs lines = .ok read ∧
      setAqueousSolutionsOrUpdateProcessSolutions cm read processSolutions .updatingProcessSolutions =
        (io', processSolutions') := by
  unfold doWaterChemistryCalculation at h
  split at h
  · cases h
  · rename_i inputs hinputs
    split at h
    · cases h
    · rename_i script hscript
      split at h
      · cases h
      · rename_i lines hlines
        split at h
        · cases h
        · rename_i read hread
          exact ⟨inputs, script, lines, read, hinputs, hscript, hlines, hread, Except.ok.inj h⟩

theorem setAqueousSolutionsOrUpdateProcessSolutions_congr [Neg V] (cm : Cmath V)
    (io io' : PhreeqcIO V) (processSolutions : Nat → Nat → V) (status : Status)
    (hsolutions : io'.aqueousSolutions = io.aqueousSolutions) (hmesh : io'.mesh = io.mesh)
    (hmap : io'.processIdToComponentNameMap = io.processIdToComponentNameMap) :
    (setAqueousSolutionsOrUpdateProcessSolutions cm io' processSolutions status).2 =
      (setAqueousSolutionsOrUpdateProcessSolutions cm io processSolutions status).2 := by
  simp only [setAqueousSolutionsOrUpdateProcessSolutions, runPass, hsolutions, hmesh, hmap]

theorem setAqueousSolutionsPrevFromDumpFile_eq_ok
    (readDumpFile : String → Nat → Option (List (AqueousSolution V))) (io io' : PhreeqcIO V)
    (h : setAqueousSolutionsPrevFromDumpFile readDumpFile io = .ok io') :
    ∃ dump, io' = { io with dump := dump } := by
  unfold setAqueousSolutionsPrevFromDumpFile at h
  split at h
  · cases h; exact ⟨_, rfl⟩
  · split at h
    · cases h
    · cases h; exact ⟨_, rfl⟩

theorem prepareInputs_eq_ok [Neg V] (cm : Cmath V)
    (readDumpFile : String → Nat → Option (List (AqueousSolution V))) (io : PhreeqcIO V)
    (processSolutions : Nat → Nat → V) (dt : V) (inputs : PhreeqcIO V)
    (h : prepareInputs cm readDumpFile io processSolutions dt = .ok inputs) :
    ∃ dump, inputs = { (setAqueousSolutionsOrUpdateProcessSolutions cm io processSolutions
        .settingAqueousSolutions).1 with dump := dump, dt := dt } := by
  unfold prepareInputs at h
  cases hd : setAqueousSolutionsPrevFromDumpFile readDumpFile
      (setAqueousSolutionsOrUpdateProcessSolutions cm io processSolutions .settingAqueousSolutions).1 with
  | error e => simp only [hd] at h; cases h
  | ok io' =>
    simp only [hd] at h; cases h
    obtain ⟨dump, rfl⟩ := setAqueousSolutionsPrevFromDumpFile_eq_ok readDumpFile _ io' hd
    exact ⟨dump, rfl⟩

theorem prepareInputs_ok [Neg V] (cm : Cmath V)
    (readDumpFile : String → Nat → Option (List (AqueousSolution V))) (io : PhreeqcIO V)
    (processSolutions : Nat → Nat → V) (dt : V) (inputs : PhreeqcIO V)
    (h : prepareInputs cm readDumpFile io processSolutions dt = .ok inputs) :
    inputs.aqueousSolutions = (setAqueousSolutionsOrUpdateProcessSolutions cm io processSolutions
        .settingAqueousSolutions).1.aqueousSolutions ∧
      inputs.mesh = io.mesh ∧ inputs.processIdToComponentNameMap = io.processIdToComponentNameMap ∧
      inputs.output = io.output ∧ inputs.surface = io.surface := by
  obtain ⟨dump, rfl⟩ := prepareInputs_eq_ok cm readDumpFile io processSolutions dt inputs h
  exact ⟨rfl, rfl, rfl, rfl, rfl⟩

theorem prepareInputs_aqueousSolutionsPrev [Neg V] (cm : Cmath V)
    (readDumpFile : String → Nat → Option (List (AqueousSolution V))) (io : PhreeqcIO V)
    (processSolutions : Nat → Nat → V) (dt : V) (inputs : PhreeqcIO V)
    (h : prepareInputs cm readDumpFile io processSolutions dt = .ok inputs) :
    inputs.dump.map (·.aqueousSolutionsPrev) =
      io.dump.bind fun d => readDumpFile d.dumpFile io.mesh.numberOfBaseNodes := by
  unfold prepareInputs setAqueousSolutionsPrevFromDumpFile at h
  cases hd : io.dump with
  | none =>
    simp only [hd, setAqueousSolutionsOrUpdateProcessSolutions, Except.map, Except.ok.injEq] at h
    subst h; simp [hd]
  | some d =>
    cases hr : readDumpFile d.dumpFile io.mesh.numberOfBaseNodes with
    | none => simp only [hd, hr, setAqueousSolutionsOrUpdateProcessSolutions, Except.map, reduceCtorEq] at h
    | some prev =>
      simp only [hd, hr, setAqueousSolutionsOrUpdateProcessSolutions, Except.map, Except.ok.injEq] at h
      subst h; simp [hr]

theorem setting_processSolutions [Neg V] (cm : Cmath V) (io : PhreeqcIO V)
    (processSolutions : Nat → Nat → V) :
    (setAqueousSolutionsOrUpdateProcessSolutions cm io processSolutions
      .settingAqueousSolutions).2 = processSolutions := by
  simp only [setAqueousSolutionsOrUpdateProcessSolutions, runPass_setting]

/-! ## The dump file and `operator<<` -/

/-- The dump file read of a chemistry step succeeds and `operator<<` has defined behaviour on the
state it leaves, with the step length stored, exactly when: without a dump there are no surface
sites (or no systems), and with one the dump file is read and its list of previous solutions is
empty or has one for every system. The checks `writeInputsToFile` makes on the input file are not
part of this. -/
theorem prepareInputs_writeInputs_defined_iff [Neg V] (cm : Cmath V)
    (readDumpFile : String → Nat → Option (List (AqueousSolution V))) (io : PhreeqcIO V)
    (processSolutions : Nat → Nat → V) (dt : V) :
    (∃ inputs script, prepareInputs cm readDumpFile io processSolutions dt = .ok inputs ∧
        writeInputs inputs = some script) ↔
      (io.dump = none → io.mesh.numberOfBaseNodes = 0 ∨ io.surface = []) ∧
      ∀ d, io.dump = some d → ∃ prev, readDumpFile d.dumpFile io.mesh.numberOfBaseNodes = some prev ∧
        (io.mesh.numberOfBaseNodes = 0 ∨ prev = [] ∨ io.mesh.numberOfBaseNodes ≤ prev.length) := by
  have hscript : ∀ inputs : PhreeqcIO V, (∃ script, writeInputs inputs = some script) ↔
      inputs.mesh.numberOfBaseNodes = 0 ∨ ((inputs.surface = [] ∨ inputs.dump.isSome) ∧
        ∀ d, inputs.dump = some d → d.aqueousSolutionsPrev = [] ∨
          inputs.mesh.numberOfBaseNodes ≤ d.aqueousSolutionsPrev.length) :=
    fun inputs => Option.isSome_iff_exists.symm.trans (writeInputs_isSome_iff inputs)
  simp only [exists_and_left, hscript]
  unfold prepareInputs setAqueousSolutionsPrevFromDumpFile
  cases hd : io.dump with
  | none =>
    simp only [hd, setAqueousSolutionsOrUpdateProcessSolutions, Except.map, Except.ok.injEq,
      exists_eq_left', Option.isSome_none, Bool.false_eq_true, or_false, reduceCtorEq,
      false_implies, implies_true, and_true, true_implies]
  | some d =>
    cases hr : readDumpFile d.dumpFile io.mesh.numberOfBaseNodes with
    | none =>
      simp only [hd, hr, setAqueousSolutionsOrUpdateProcessSolutions, Except.map, reduceCtorEq,
        false_and, exists_false, false_iff, Option.some.injEq, forall_eq', exists_const, and_false,
        not_false_eq_true]
    | some prev =>
      simp only [hd, hr, setAqueousSolutionsOrUpdateProcessSolutions, Except.map, Except.ok.injEq,
        exists_eq_left', Option.isSome_some, or_true, true_and, Option.some.injEq, forall_eq',
        exists_eq_left, reduceCtorEq, false_implies]

/-! ## The script of a step -/

/-- The script a chemistry step hands the engine integrates the kinetics over the step's own `dt`:
for each system in local id order it prints every equilibrium phase and every kinetic reactant for
the system's bulk node, and with kinetic reactants one `-steps dt`. -/
theorem doWaterChemistryCalculation_reaction_lines [Neg V] (cm : Cmath V)
    (readDumpFile : String → Nat → Option (List (AqueousSolution V))) (io : PhreeqcIO V)
    (processSolutions : Nat → Nat → V) (dt : V) (inputs : PhreeqcIO V) (script : List (Line V))
    (hinputs : prepareInputs cm readDumpFile io processSolutions dt = .ok inputs)
    (hscript : writeInputs inputs = some script) :
    script.filterMap Line.reactionData? =
      (List.range io.mesh.numberOfBaseNodes).flatMap fun k =>
        io.equilibriumPhases.map (.equilibriumPhase · (io.mesh.bulkNodeIds k)) ++
          if io.kineticReactants.isEmpty then []
          else io.kineticReactants.map (.kineticReactant · (io.mesh.bulkNodeIds k)) ++ [.steps dt] := by
  obtain ⟨dump, rfl⟩ := prepareInputs_eq_ok cm readDumpFile io processSolutions dt inputs hinputs
  exact writeInputs_reactionData _ script hscript

/-- Two systems at bulk nodes 3 and 4, a phase whose amount is the node id and a kinetic reactant:
each block prints both for its own node and steps over the step's `dt`. -/
theorem calcite_step_reaction_lines :
    let io : PhreeqcIO Int :=
      { phreeqcInputFile := "", mesh := ⟨2, (· + 3)⟩, database := "", aqueousSolutions := fun _ => ⟨7, 4, []⟩,
        equilibriumPhases := [⟨"Calcite", fun g => g⟩], kineticReactants := [⟨"Dolomite", fun _ => 1⟩],
        reactionRates := [], surface := [], userPunch := none, output := ⟨"", [], []⟩, dump := none,
        knobs := "", processIdToComponentNameMap := [], dt := 0 }
    ∃ inputs script, (prepareInputs ⟨id, id⟩ (fun _ _ => none) io (fun _ _ => 0) 5 = .ok inputs ∧
        writeInputs inputs = some script) ∧
      script.filterMap Line.reactionData? =
        (List.range io.mesh.numberOfBaseNodes).flatMap fun k =>
          io.equilibriumPhases.map (.equilibriumPhase · (io.mesh.bulkNodeIds k)) ++
            if io.kineticReactants.isEmpty then []
            else io.kineticReactants.map (.kineticReactant · (io.mesh.bulkNodeIds k)) ++ [.steps 5] :=
  ⟨_, _, ⟨rfl, rfl⟩,
    doWaterChemistryCalculation_reaction_lines ⟨id, id⟩ (fun _ _ => none) _ (fun _ _ => 0) 5 _ _ rfl rfl⟩

/-- The script a chemistry step hands the engine carries, for each system in local id order, the
solution after the setting pass on this step's transport values, then the previous solution the
dump file read gives for that system. -/
theorem doWaterChemistryCalculation_solution_lines [Neg V] (cm : Cmath V)
    (readDumpFile : String → Nat → Option (List (AqueousSolution V))) (io : PhreeqcIO V)
    (processSolutions : Nat → Nat → V) (dt : V) (inputs : PhreeqcIO V) (script : List (Line V))
    (hinputs : prepareInputs cm readDumpFile io processSolutions dt = .ok inputs)
    (hscript : writeInputs inputs = some script) :
    script.filterMap Line.aqueousSolution? =
      (List.range io.mesh.numberOfBaseNodes).flatMap fun k =>
        .solution ((setAqueousSolutionsOrUpdateProcessSolutions cm io processSolutions
            .settingAqueousSolutions).1.aqueousSolutions k) "\n" ::
          ((io.dump.bind fun d => readDumpFile d.dumpFile io.mesh.numberOfBaseNodes).getD [])[k]?.toList.map
            (.solution · "\n\n") := by
  obtain ⟨hsol, hmesh, -⟩ := prepareInputs_ok cm readDumpFile io processSolutions dt inputs hinputs
  rw [writeInputs_aqueousSolutions inputs script hscript, hsol, hmesh,
    prepareInputs_aqueousSolutionsPrev cm readDumpFile io processSolutions dt inputs hinputs]

/-- Two systems, calcium 5 in transport and a dump file that gives two previous solutions: each
`SOLUTION` block carries calcium 5 and is followed by its previous solution. -/
theorem calcium_step_solution_lines :
    let io : PhreeqcIO Int :=
      { phreeqcInputFile := "", mesh := ⟨2, id⟩, database := "",
        aqueousSolutions := fun _ => ⟨7, 4, [⟨"Ca", 0⟩]⟩, equilibriumPhases := [], kineticReactants := [],
        reactionRates := [], surface := [], userPunch := none, output := ⟨"", [], []⟩,
        dump := some ⟨"calcium.dmp", []⟩, knobs := "", processIdToComponentNameMap := [(0, "Ca")], dt := 0 }
    let readDumpFile : String → Nat → Option (List (AqueousSolution Int)) := fun _ _ =>
      some [⟨6, 4, [⟨"Ca", 1⟩]⟩, ⟨8, 4, [⟨"Ca", 3⟩]⟩]
    ∃ inputs script, (prepareInputs ⟨id, id⟩ readDumpFile io (fun _ _ => 5) 1 = .ok inputs ∧
        writeInputs inputs = some script) ∧
      script.filterMap Line.aqueousSolution? =
        (List.range io.mesh.numberOfBaseNodes).flatMap fun k =>
          .solution ((setAqueousSolutionsOrUpdateProcessSolutions ⟨id, id⟩ io (fun _ _ => 5)
              .settingAqueousSolutions).1.aqueousSolutions k) "\n" ::
            ((io.dump.bind fun d => readDumpFile d.dumpFile io.mesh.numberOfBaseNodes).getD [])[k]?.toList.map
              (.solution · "\n\n") := by
  intro io readDumpFile
  exact ⟨_, _, ⟨rfl, rfl⟩,
    doWaterChemistryCalculation_solution_lines ⟨id, id⟩ readDumpFile io (fun _ _ => 5) 1 _ _ rfl rfl⟩

/-! ## An engine that reports the state it was given -/

/-- The value schema entry `item` has for system `localId` at bulk node `globalId`: pH, pe, the
amount of the first component of that name, or entry `globalId` of the first phase, reactant or
secondary variable of that name. -/
def currentValue (io : PhreeqcIO V) (localId globalId : Nat) (item : OutputItem) : Option V :=
  match item.itemType with
  | .pH => some (io.aqueousSolutions localId).pH
  | .pe => some (io.aqueousSolutions localId).pe
  | .component =>
    ((io.aqueousSolutions localId).components.find? (·.name == item.name)).map (·.amount)
  | .equilibriumPhase => (io.equilibriumPhases.find? (·.name == item.name)).map (·.amount globalId)
  | .kineticReactant => (io.kineticReactants.find? (·.name == item.name)).map (·.amount globalId)
  | .secondaryVariable => io.userPunch.bind fun u =>
    (u.secondaryVariables.find? (·.name == item.name)).map (·.value globalId)

theorem updateSolution_of_eq (io : PhreeqcIO V) (localId : Nat)
    (f : AqueousSolution V → AqueousSolution V)
    (h : f (io.aqueousSolutions localId) = io.aqueousSolutions localId) :
    io.updateSolution localId f = io := by
  rw [ PhreeqcIO.updateSolution, h, Function.update_eq_self]

theorem storeEntry_current (io : PhreeqcIO V) (localId globalId : Nat) (item : OutputItem) (v : V)
    (h : currentValue io localId globalId item = some v) :
    storeEntry localId globalId io (item, v) = io := by
  cases ht : item.itemType <;> simp only [currentValue, ht] at h <;> simp only [storeEntry, ht]
  case pH | pe => exact updateSolution_of_eq io localId _ (by rw [← Option.some.inj h])
  case component =>
    obtain ⟨c, hc, rfl⟩ := Option.map_eq_some'.1 h
    exact updateSolution_of_eq io localId _ (by rw [updateFirst_of_find? _ _ _ hc rfl])
  case equilibriumPhase | kineticReactant =>
    obtain ⟨a, ha, rfl⟩ := Option.map_eq_some'.1 h
    rw [updateFirst_of_find? _ _ _ ha (by simp)]
  case secondaryVariable =>
    cases hu : io.userPunch with
    | none => simp [hu] at h
    | some u =>
      simp only [hu, Option.some_bind] at h
      obtain ⟨w, hw, rfl⟩ := Option.map_eq_some'.1 h
      simp only [Option.map_some']
      rw [updateFirst_of_find? _ _ _ hw (by simp)]
      show { io with userPunch := some u } = io
      rw [← hu]

theorem resolves_of_currentValue (io : PhreeqcIO V) (localId globalId : Nat) (item : OutputItem)
    (v : V) (h : currentValue io localId globalId item = some v) :
    io.lookupNames.Resolves localId item := by
  have hmem : ∀ {α : Type} (name : α → String) (l : List α) (a : α),
      l.find? (name · == item.name) = some a → item.name ∈ l.map name := fun name l a ha =>
    List.mem_map.2 ⟨a, List.mem_of_find?_eq_some ha, by simpa using List.find?_some ha⟩
  cases ht : item.itemType <;> simp only [currentValue, ht] at h <;>
    simp only [LookupNames.Resolves, PhreeqcIO.lookupNames, ht]
  case component | equilibriumPhase | kineticReactant =>
    obtain ⟨a, ha, -⟩ := Option.map_eq_some'.1 h
    exact hmem _ _ _ ha
  case secondaryVariable =>
    cases hu : io.userPunch with
    | none => simp [hu] at h
    | some u =>
      simp only [hu, Option.some_bind] at h
      obtain ⟨w, hw, -⟩ := Option.map_eq_some'.1 h
      simpa using hmem _ _ _ hw

theorem foldl_storeEntry_current (io : PhreeqcIO V) (localId globalId : Nat)
    {items : List OutputItem} {values : List V}
    (h : List.Forall₂ (fun item v => currentValue io localId globalId item = some v) items values) :
    (items.zip values).foldl (storeEntry localId globalId) io = io := by
  induction h with
  | nil => rfl
  | cons hv _ ih => rw [List.zip_cons_cons, List.foldl_cons, storeEntry_current io _ _ _ _ hv, ih]

theorem readSpec_current (io : PhreeqcIO V) (values : Nat → List V)
    (h : ∀ k < io.mesh.numberOfBaseNodes, List.Forall₂
      (fun item v => currentValue io k (io.mesh.bulkNodeIds k) item = some v)
      io.output.acceptedItems (values k)) :
    readSpec io values = io := by
  unfold readSpec
  suffices ∀ ks : List Nat, (∀ k ∈ ks, k < io.mesh.numberOfBaseNodes) →
      ks.foldl (fun state k => (io.output.acceptedItems.zip (values k)).foldl
        (storeEntry k (io.mesh.bulkNodeIds k)) state) io = io from
    this _ fun k hk => List.mem_range.1 hk
  intro ks hks
  induction ks with
  | nil => rfl
  | cons k ks ih =>
    rw [List.foldl_cons, foldl_storeEntry_current io k _ (h k (hks k (.head _)))]
    exact ih fun k' hk' => hks k' (.tail _ hk')

theorem forall₂_exists_right {α β : Type} {R : α → β → Prop} :
    ∀ {l₁ : List α} {l₂ : List β}, List.Forall₂ R l₁ l₂ → ∀ a ∈ l₁, ∃ b, R a b
  | _, _, .nil, _, h => absurd h (List.not_mem_nil _)
  | _, _, .cons hab hl, _, h => (List.mem_cons.1 h).elim (fun e => e ▸ ⟨_, hab⟩)
      (forall₂_exists_right hl _)

/-- A chemistry step whose engine reports back the state it was given leaves every transport
value as it was. The engine's table is laid out as `operator>>` reads it, and its row for system
`k` holds, in the columns not dropped, numerals of the values the schema entries have in the
state the script was written from; the component names of the process id map are distinct, and
each hydrogen concentration survives `pow(10, -(-log10(c)))`. -/
theorem doWaterChemistryCalculation_reported_state [Neg V] (ndebug : Bool)
    (toDouble : String → Option V) (cm : Cmath V) (pr : Printers V)
    (readDumpFile : String → Nat → Option (List (AqueousSolution V)))
    (runFile : String → Option (List String)) (io : PhreeqcIO V)
    (processSolutions : Nat → Nat → V) (dt : V)
    (hnames : (io.processIdToComponentNameMap.map Prod.snd).Nodup)
    (hinv : ∀ k < io.mesh.numberOfBaseNodes, ∀ e ∈ io.processIdToComponentNameMap, e.2 = "H" →
      cm.pow10 (-(-cm.log10 (processSolutions e.1 (io.mesh.bulkNodeIds k)))) =
        processSolutions e.1 (io.mesh.bulkNodeIds k))
    (inputs : PhreeqcIO V) (hinputs : prepareInputs cm readDumpFile io processSolutions dt = .ok inputs)
    (script : List (Line V)) (hscript : writeInputs inputs = some script)
    (header : String) (skipped : Nat → List String) (rows : Nat → String) (values : Nat → List V)
    (hrun : runFile (render pr script) =
      some (header :: (List.range io.mesh.numberOfBaseNodes).flatMap fun k => skipped k ++ [rows k]))
    (hskipped : ∀ k, (skipped k).length = if io.surface.isEmpty then 1 else 2)
    (hnumerals : ∀ k < io.mesh.numberOfBaseNodes, List.Forall₂ (IsNumeral toDouble)
      (keptItems io.output.droppedItemIds 0 (tokenize (rows k))) (values k))
    (hreported : ∀ k < io.mesh.numberOfBaseNodes, List.Forall₂
      (fun item v => currentValue inputs k (io.mesh.bulkNodeIds k) item = some v)
      io.output.acceptedItems (values k)) :
    (doWaterChemistryCalculation ndebug toDouble cm pr readDumpFile runFile io processSolutions
      dt).map Prod.snd = .ok processSolutions := by
  obtain ⟨hsolutions, hmesh, hmap, houtput, hsurface⟩ :=
    prepareInputs_ok cm readDumpFile io processSolutions dt inputs hinputs
  rw [← hmesh, ← houtput] at hreported hnumerals
  rw [← hsurface] at hskipped
  rw [← hmesh] at hrun
  have hread : readOutputs ndebug toDouble inputs
      (header :: (List.range inputs.mesh.numberOfBaseNodes).flatMap fun k => skipped k ++ [rows k]) =
        .ok inputs := by
    rw [readOutputs_table ndebug toDouble inputs header skipped rows hskipped,
      foldlM_readRow_eq_ok ndebug toDouble inputs.output inputs.mesh.bulkNodeIds rows values
        inputs.lookupNames _ inputs
        (fun k hk => (acceptItems_eq_ok_iff toDouble _ _ 0 _ _).2
          ((hnumerals k (List.mem_range.1 hk)).imp fun _ _ h => h.1))
        (fun k hk => (hreported k (List.mem_range.1 hk)).length_eq.symm)
        (fun k hk item hitem =>
          let ⟨v, hv⟩ := forall₂_exists_right (hreported k (List.mem_range.1 hk)) item hitem
          resolves_of_currentValue inputs k _ item v hv) rfl]
    exact congrArg Except.ok (readSpec_current inputs values hreported)
  have hround := round_trip_of_inverse cm io processSolutions hnames hinv
  simp only [setting_processSolutions] at hround
  unfold doWaterChemistryCalculation
  simp only [hinputs, hscript, hrun, hread]
  exact congrArg Except.ok ((setAqueousSolutionsOrUpdateProcessSolutions_congr cm _ inputs
    processSolutions _ hsolutions hmesh hmap).trans hround)

/-- One system at bulk node 0 whose transport carries calcium (process 0) and hydrogen
(process 1), read back with the schema pH, calcium. -/
def calciumSystem : PhreeqcIO Int where
  phreeqcInputFile := "phreeqc.inp"
  mesh := ⟨1, id⟩
  database := "phreeqc.dat"
  aqueousSolutions := fun _ => ⟨7, 4, [⟨"Ca", 0⟩]⟩
  equilibriumPhases := []
  kineticReactants := []
  reactionRates := []
  surface := []
  userPunch := none
  output := ⟨"phreeqc.out", [⟨"pH", .pH⟩, ⟨"Ca", .component⟩], []⟩
  dump := none
  knobs := ""
  processIdToComponentNameMap := [(0, "Ca"), (1, "H")]
  dt := 0

/-- The state the script of `calciumSystem` is written from, with `log10` and `pow10` the
identity, calcium 5 and hydrogen 2 in transport. -/
def calciumInputs : PhreeqcIO Int :=
  { (setAqueousSolutionsOrUpdateProcessSolutions ⟨id, id⟩ calciumSystem
      (fun p _ => if p = 0 then 5 else 2) .settingAqueousSolutions).1 with dt := 0 }

/-- The conversion of the two numerals the engine answers with. -/
def calciumNumerals (s : String) : Option Int :=
  if s = "-2" then some (-2) else if s = "5" then some 5 else none

def blankPrinters : Printers Int :=
  ⟨fun _ => "", fun _ => "", fun _ => "", fun _ _ => "", fun _ _ => "", toString, fun _ _ => ""⟩

theorem quiet_engine_calcium_system :
    ((calciumSystem.processIdToComponentNameMap.map Prod.snd).Nodup ∧
      (∀ k < calciumSystem.mesh.numberOfBaseNodes, ∀ e ∈ calciumSystem.processIdToComponentNameMap,
        e.2 = "H" → (⟨id, id⟩ : Cmath Int).pow10 (-(-(⟨id, id⟩ : Cmath Int).log10
          ((fun p _ => if p = 0 then 5 else 2 : Nat → Nat → Int) e.1 (calciumSystem.mesh.bulkNodeIds k)))) =
          (fun p _ => if p = 0 then 5 else 2 : Nat → Nat → Int) e.1 (calciumSystem.mesh.bulkNodeIds k)) ∧
      prepareInputs ⟨id, id⟩ (fun _ _ => none) calciumSystem (fun p _ => if p = 0 then 5 else 2) 0 =
        .ok calciumInputs ∧
      writeInputs calciumInputs = some ((writeInputs calciumInputs).getD []) ∧
      (fun _ => some ["pH Ca", "initial", "-2 5"] : String → Option (List String))
          (render blankPrinters ((writeInputs calciumInputs).getD [])) =
        some ("pH Ca" :: (List.range calciumSystem.mesh.numberOfBaseNodes).flatMap
          fun _ => ["initial"] ++ ["-2 5"]) ∧
      (∀ _ : Nat, (["initial"] : List String).length = if calciumSystem.surface.isEmpty then 1 else 2) ∧
      (∀ k < calciumSystem.mesh.numberOfBaseNodes, List.Forall₂ (IsNumeral calciumNumerals)
        (keptItems calciumSystem.output.droppedItemIds 0 (tokenize "-2 5")) [-2, 5]) ∧
      ∀ k < calciumSystem.mesh.numberOfBaseNodes, List.Forall₂
        (fun item v => currentValue calciumInputs k (calciumSystem.mesh.bulkNodeIds k) item = some v)
        calciumSystem.output.acceptedItems [-2, 5]) ∧
    (doWaterChemistryCalculation false calciumNumerals ⟨id, id⟩ blankPrinters (fun _ _ => none)
      (fun _ => some ["pH Ca", "initial", "-2 5"]) calciumSystem (fun p _ => if p = 0 then 5 else 2)
      0).map Prod.snd = .ok (fun p _ => if p = 0 then 5 else 2) := by
  refine ⟨⟨?nodup, ?inv, ?inputs, ?script, ?run, ?skipped, ?numerals, ?reported⟩,
    doWaterChemistryCalculation_reported_state false calciumNumerals ⟨id, id⟩ blankPrinters
      (fun _ _ => none) (fun _ => some ["pH Ca", "initial", "-2 5"]) calciumSystem
      (fun p _ => if p = 0 then 5 else 2) 0 ?nodup ?inv calciumInputs ?inputs _ ?script "pH Ca"
      (fun _ => ["initial"]) (fun _ => "-2 5") (fun _ => [-2, 5]) ?run ?skipped ?numerals ?reported⟩
  case inv => exact fun _ _ _ _ _ => neg_neg _
  case skipped => exact fun _ => rfl
  all_goals first | rfl | decide

end Ogs.ChemistryLib
