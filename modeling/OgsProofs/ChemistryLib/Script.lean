/-
`operator<<(std::ostream&, PhreeqcIO const&)`: the batch script written before each engine run.
Each insertion chain of the source is one `Line`; the numbered keywords carry the block numbers,
and the entities whose own `operator<<` is not in the sources are kept as values, printed by
`Printers` only when a script is rendered to text. Undefined behaviour (a null `_dump`, an index
past the end of `aqueous_solutions_prev`) gives no script.
-/
import OgsProofs.ChemistryLib.Data
import Mathlib.Data.List.Forall2
import Mathlib.Data.List.Nodup

namespace Ogs.ChemistryLib

variable {V : Type}

/-! ## Lines -/

/-- The keywords written with a block number after them. -/
inductive Key
  | solution
  | useSolution
  | equilibriumPhases
  | kinetics
  | surface
  | equilibrateWithSolution
  | saveSolution
  deriving DecidableEq, Repr

/-- The text before the number and the line end after it. -/
def Key.text : Key → String × String
  | .solution => ("SOLUTION ", "\n")
  | .useSolution => ("USE solution ", "\n\n")
  | .equilibriumPhases => ("EQUILIBRIUM_PHASES ", "\n")
  | .kinetics => ("KINETICS ", "\n")
  | .surface => ("SURFACE ", "\n")
  | .equilibrateWithSolution => ("-equilibrate with solution ", "\n")
  | .saveSolution => ("SAVE solution ", "\n")

/-- One insertion chain of `operator<<`, with its line ends. -/
inductive Line (V : Type)
  | text (s : String)
  | numbered (key : Key) (n : Nat)
  | output (o : Output)
  | userPunch (u : UserPunch V)
  | solution (s : AqueousSolution V) (terminator : String)
  | equilibriumPhase (p : EquilibriumPhase V) (globalId : Nat)
  | kineticReactant (r : KineticReactant V) (globalId : Nat)
  | steps (dt : V)
  | dump (d : Dump V) (numChemicalSystems : Nat)

/-- The `operator<<`s of the `PhreeqcIOData` records and of `double`, absent from the sources. -/
structure Printers (V : Type) where
  output : Output → String
  userPunch : UserPunch V → String
  aqueousSolution : AqueousSolution V → String
  equilibriumPhase : EquilibriumPhase V → Nat → String
  kineticReactant : KineticReactant V → Nat → String
  double : V → String
  dump : Dump V → Nat → String

def Line.render (pr : Printers V) : Line V → String
  | .text s => s
  | .numbered key n => key.text.1 ++ toString n ++ key.text.2
  | .output o => pr.output o ++ "\n"
  | .userPunch u => pr.userPunch u ++ "\n"
  | .solution s terminator => pr.aqueousSolution s ++ terminator
  | .equilibriumPhase p globalId => pr.equilibriumPhase p globalId
  | .kineticReactant r globalId => pr.kineticReactant r globalId
  | .steps dt => "-steps " ++ pr.double dt ++ "\n" ++ "\n"
  | .dump d n => pr.dump d n

/-- The number a line opens a block with: every numbered keyword but the equilibration index,
which refers to another block. -/
def Line.blockNumber? : Line V → Option Nat
  | .numbered .equilibrateWithSolution _ => none
  | .numbered _ n => some n
  | _ => none

/-- The number of a `SOLUTION` header. -/
def Line.solutionNumber? : Line V → Option Nat
  | .numbered .solution n => some n
  | _ => none

/-- The solution a `SURFACE` block equilibrates with. -/
def Line.equilibrationIndex? : Line V → Option Nat
  | .numbered .equilibrateWithSolution n => some n
  | _ => none

/-- The lines that define, use or save a solution, with the solution's number. -/
def Line.solutionReference? : Line V → Option (Key × Nat)
  | .numbered .solution n => some (.solution, n)
  | .numbered .useSolution n => some (.useSolution, n)
  | .numbered .saveSolution n => some (.saveSolution, n)
  | _ => none

/-- The lines that print reaction data: an equilibrium phase or a kinetic reactant with the node it
is printed for, and the step length of a `KINETICS` block. -/
def Line.reactionData? : Line V → Option (Line V)
  | .equilibriumPhase p globalId => some (.equilibriumPhase p globalId)
  | .kineticReactant r globalId => some (.kineticReactant r globalId)
  | .steps dt => some (.steps dt)
  | _ => none

theorem filterMap_reactionData_map {α : Type} (f : α → Line V)
    (hf : ∀ a, (f a).reactionData? = some (f a)) :
    ∀ l : List α, (l.map f).filterMap Line.reactionData? = l.map f
  | [] => rfl
  | a :: l => by rw [List.map_cons, List.filterMap_cons_some (hf a), filterMap_reactionData_map f hf l]

/-- The lines that print an aqueous solution: the current one of a system (`"\n"` after it) and
the previous one read from the dump (`"\n\n"` after it). -/
def Line.aqueousSolution? : Line V → Option (Line V)
  | .solution s terminator => some (.solution s terminator)
  | _ => none

/-- The `SOLUTION` numbers of a script, in order. -/
def solutionNumbers (script : List (Line V)) : List Nat := script.filterMap Line.solutionNumber?

/-- The equilibration indices of the `SURFACE` blocks of a script, in order. -/
def equilibrationIndices (script : List (Line V)) : List Nat :=
  script.filterMap Line.equilibrationIndex?

/-! ## The script -/

section Script

variable (io : PhreeqcIO V)

/-- Knobs, selected output, the optional `USER_PUNCH` block and the optional `RATES` block. -/
def preamble : List (Line V) :=
  [.text (io.knobs ++ "\n"), .output io.output] ++
    (match io.userPunch with
      | none => []
      | some u => [.userPunch u]) ++
    (if io.reactionRates.isEmpty then [] else [.text "RATES\n", .text (String.join io.reactionRates ++ "\n")])

/-- The previous solution written after the current one: read when a dump is configured and its
list is not empty, where `aqueous_solutions_prev[local_id]` must be in range. -/
def prevLines (localId : Nat) : Option (List (Line V)) :=
  match io.dump with
  | none => some []
  | some d =>
    if d.aqueousSolutionsPrev.isEmpty then some []
    else d.aqueousSolutionsPrev[localId]?.map fun s => [.solution s "\n\n"]

def phaseLines (globalId : Nat) : List (Line V) :=
  if io.equilibriumPhases.isEmpty then []
  else .numbered .equilibriumPhases (globalId + 1) ::
    io.equilibriumPhases.map (.equilibriumPhase · globalId) ++ [.text "\n"]

def kineticLines (globalId : Nat) : List (Line V) :=
  if io.kineticReactants.isEmpty then []
  else .numbered .kinetics (globalId + 1) ::
    io.kineticReactants.map (.kineticReactant · globalId) ++ [.steps io.dt]

/-- The `SURFACE` block. It reads `dump->aqueous_solutions_prev` without checking `_dump`, so a
state with surface sites and no dump dereferences a null pointer. -/
def surfaceLines (globalId : Nat) : Option (List (Line V)) :=
  if io.surface.isEmpty then some []
  else io.dump.map fun d =>
    let aqueousSolutionId := if d.aqueousSolutionsPrev.isEmpty then globalId + 1
      else io.mesh.numberOfBaseNodes + globalId + 1
    [.numbered .surface (globalId + 1), .numbered .equilibrateWithSolution aqueousSolutionId,
      .text "-sites_units DENSITY\n", .text (String.join io.surface ++ "\n"),
      .numbered .saveSolution (globalId + 1)]

/-- The loop body of `operator<<` for the chemical system `localId`. -/
def blockGroup (localId : Nat) : Option (List (Line V)) := do
  let globalId := io.mesh.bulkNodeIds localId
  let prev ← prevLines io localId
  let surface ← surfaceLines io globalId
  pure ([.numbered .solution (globalId + 1), .solution (io.aqueousSolutions localId) "\n"] ++ prev ++
    [.text "USE solution none\n", .text "END\n\n", .numbered .useSolution (globalId + 1)] ++
    phaseLines io globalId ++ kineticLines io globalId ++ surface ++ [.text "END\n\n"])

def dumpLines : List (Line V) :=
  match io.dump with
  | none => []
  | some d => [.dump d io.mesh.numberOfBaseNodes]

/-- `operator<<(std::ostream&, PhreeqcIO const&)`: the inputs `writeInputsToFile` writes. -/
def writeInputs : Option (List (Line V)) := do
  let groups ← (List.range io.mesh.numberOfBaseNodes).mapM (blockGroup io)
  pure (preamble io ++ groups.flatten ++ dumpLines io)

/-- The text of a script. -/
def render (pr : Printers V) (script : List (Line V)) : String :=
  String.join (script.map (Line.render pr))

end Script

/-! ## The loop over chemical systems -/

theorem mapM_eq_some {α β : Type} (f : α → Option β) :
    ∀ (l : List α) (ys : List β), l.mapM f = some ys ↔ List.Forall₂ (fun a b => f a = some b) l ys
  | [], ys => by
    rw [List.mapM_nil, List.forall₂_nil_left_iff]
    exact ⟨fun h => (Option.some.inj h).symm, fun h => h ▸ rfl⟩
  | a :: l, ys => by
    rw [List.mapM_cons, List.forall₂_cons_left_iff]
    simp only [Option.bind_eq_bind, Option.bind_eq_some, mapM_eq_some f l, Option.pure_def,
      Option.some.injEq]
    constructor
    · rintro ⟨b, hb, bs, hbs, rfl⟩; exact ⟨b, bs, hb, hbs, rfl⟩
    · rintro ⟨b, bs, hb, hbs, rfl⟩; exact ⟨b, hb, bs, hbs, rfl⟩

theorem mapM_isSome {α β : Type} (f : α → Option β) :
    ∀ l : List α, (l.mapM f).isSome ↔ ∀ a ∈ l, (f a).isSome
  | [] => by rw [List.mapM_nil]; simp
  | a :: l => by
    rw [List.mapM_cons, List.forall_mem_cons, ← mapM_isSome f l]
    cases f a <;> cases l.mapM f <;> simp

theorem filterMap_flatten_of_forall₂ {α β γ : Type} {R : α → List β → Prop} (F : β → Option γ)
    (G : α → List γ) (hG : ∀ a g, R a g → g.filterMap F = G a) :
    ∀ {l : List α} {gs : List (List β)}, List.Forall₂ R l gs → gs.flatten.filterMap F = l.flatMap G
  | _, _, .nil => rfl
  | _, _, .cons h hs => by
    rw [List.flatten_cons, List.filterMap_append, hG _ _ h, filterMap_flatten_of_forall₂ F G hG hs,
      List.flatMap_cons]

section Script

variable (io : PhreeqcIO V)

theorem writeInputs_eq_some (script : List (Line V)) :
    writeInputs io = some script ↔
      ∃ groups, List.Forall₂ (fun k g => blockGroup io k = some g)
          (List.range io.mesh.numberOfBaseNodes) groups ∧
        script = preamble io ++ groups.flatten ++ dumpLines io := by
  unfold writeInputs
  simp only [Option.bind_eq_bind, Option.bind_eq_some, Option.pure_def, Option.some.injEq,
    mapM_eq_some]
  exact ⟨fun ⟨g, h1, h2⟩ => ⟨g, h1, h2.symm⟩, fun ⟨g, h1, h2⟩ => ⟨g, h1, h2.symm⟩⟩

theorem blockGroup_eq_some (localId : Nat) (g : List (Line V)) :
    blockGroup io localId = some g ↔
      ∃ prev surface, prevLines io localId = some prev ∧
        surfaceLines io (io.mesh.bulkNodeIds localId) = some surface ∧
        g = [.numbered .solution (io.mesh.bulkNodeIds localId + 1),
            .solution (io.aqueousSolutions localId) "\n"] ++ prev ++
          [.text "USE solution none\n", .text "END\n\n",
            .numbered .useSolution (io.mesh.bulkNodeIds localId + 1)] ++
          phaseLines io (io.mesh.bulkNodeIds localId) ++ kineticLines io (io.mesh.bulkNodeIds localId) ++
          surface ++ [.text "END\n\n"] := by
  unfold blockGroup
  simp only [Option.bind_eq_bind, Option.bind_eq_some, Option.pure_def, Option.some.injEq]
  constructor
  · rintro ⟨prev, hp, surface, hs, rfl⟩; exact ⟨prev, surface, hp, hs, rfl⟩
  · rintro ⟨prev, surface, hp, hs, rfl⟩; exact ⟨prev, hp, surface, hs, rfl⟩

theorem prevLines_isSome (localId : Nat) :
    (prevLines io localId).isSome ↔ ∀ d, io.dump = some d →
      d.aqueousSolutionsPrev = [] ∨ localId < d.aqueousSolutionsPrev.length := by
  unfold prevLines
  cases io.dump with
  | none => simp
  | some d =>
    by_cases he : d.aqueousSolutionsPrev = []
    · simp [he]
    · simp [he, Option.isSome_iff_ne_none, List.getElem?_eq_none_iff]

theorem surfaceLines_isSome (globalId : Nat) :
    (surfaceLines io globalId).isSome ↔ io.surface = [] ∨ io.dump.isSome := by
  unfold surfaceLines
  cases io.dump <;> by_cases hs : io.surface = [] <;> simp [hs]

/-- `operator<<` has defined behaviour exactly when there are no systems, or the `SURFACE`
branch finds a dump whenever there are surface sites and every `aqueous_solutions_prev[k]` it
reads is in range. -/
theorem writeInputs_isSome_iff :
    (writeInputs io).isSome ↔ io.mesh.numberOfBaseNodes = 0 ∨
      ((io.surface = [] ∨ io.dump.isSome) ∧
        ∀ d, io.dump = some d → d.aqueousSolutionsPrev = [] ∨
          io.mesh.numberOfBaseNodes ≤ d.aqueousSolutionsPrev.length) := by
  have hgroup : ∀ k, (blockGroup io k).isSome ↔ (prevLines io k).isSome ∧
      (surfaceLines io (io.mesh.bulkNodeIds k)).isSome := by
    intro k
    simp only [Option.isSome_iff_exists, blockGroup_eq_some]
    constructor
    · rintro ⟨_, prev, surface, hp, hs, -⟩; exact ⟨⟨prev, hp⟩, ⟨surface, hs⟩⟩
    · rintro ⟨⟨prev, hp⟩, ⟨surface, hs⟩⟩; exact ⟨_, prev, surface, hp, hs, rfl⟩
  have hinsert : (writeInputs io).isSome =
      ((List.range io.mesh.numberOfBaseNodes).mapM (blockGroup io)).isSome := by
    unfold writeInputs
    cases (List.range io.mesh.numberOfBaseNodes).mapM (blockGroup io) <;> rfl
  rw [hinsert, mapM_isSome]
  simp only [List.mem_range, hgroup, prevLines_isSome, surfaceLines_isSome]
  constructor
  · intro h
    rcases Nat.eq_zero_or_pos io.mesh.numberOfBaseNodes with hN | hN
    · exact .inl hN
    · obtain ⟨h1, h2⟩ := h (io.mesh.numberOfBaseNodes - 1) (by omega)
      exact .inr ⟨h2, fun d hd => (h1 d hd).imp_right fun _ => by omega⟩
  · rintro (hN | ⟨h2, h1⟩) k hk
    · omega
    · exact ⟨fun d hd => (h1 d hd).imp_right fun _ => by omega, h2⟩

/-- A state with surface sites, no dump and at least one chemical system has no script: the
`SURFACE` branch dereferences the null `_dump`. -/
theorem writeInputs_surface_without_dump (hN : 0 < io.mesh.numberOfBaseNodes)
    (hsurface : io.surface ≠ []) (hdump : io.dump = none) : writeInputs io = none := by
  rw [← Option.not_isSome_iff_eq_none, writeInputs_isSome_iff, hdump]
  simp [hsurface]
  omega

/-! ## Projections of the script -/

section Projection

variable {β : Type} (F : Line V → Option β)

theorem filterMap_outside_groups (htext : ∀ s, F (.text s) = none) (houtput : ∀ o, F (.output o) = none)
    (huser : ∀ u, F (.userPunch u) = none) (hdump : ∀ d n, F (.dump d n) = none) :
    (preamble io).filterMap F = [] ∧ (dumpLines io).filterMap F = [] := by
  unfold preamble dumpLines
  constructor
  · cases io.userPunch <;> split_ifs <;> simp [htext, houtput, huser]
  · cases io.dump <;> simp [hdump]

theorem filterMap_prevLines (hsol : ∀ s, F (.solution s "\n\n") = none) (localId : Nat)
    (prev : List (Line V)) (h : prevLines io localId = some prev) : prev.filterMap F = [] := by
  unfold prevLines at h
  split at h
  · cases h; rfl
  · split_ifs at h
    · cases h; rfl
    · obtain ⟨s, -, rfl⟩ := Option.map_eq_some'.1 h; simp [hsol]

theorem filterMap_reactionLines (hphases : ∀ n, F (.numbered .equilibriumPhases n) = none)
    (hkinetics : ∀ n, F (.numbered .kinetics n) = none) (hphase : ∀ p g, F (.equilibriumPhase p g) = none)
    (hreactant : ∀ r g, F (.kineticReactant r g) = none) (hsteps : ∀ dt, F (.steps dt) = none)
    (htext : ∀ s, F (.text s) = none) (globalId : Nat) :
    (phaseLines io globalId).filterMap F = [] ∧ (kineticLines io globalId).filterMap F = [] := by
  unfold phaseLines kineticLines
  constructor <;> split_ifs <;>
    simp [hphases, hkinetics, hphase, hreactant, hsteps, htext, List.filterMap_eq_nil_iff]

theorem filterMap_surfaceLines (hsurface : ∀ n, F (.numbered .surface n) = none)
    (hequilibrate : ∀ n, F (.numbered .equilibrateWithSolution n) = none)
    (hsave : ∀ n, F (.numbered .saveSolution n) = none) (htext : ∀ s, F (.text s) = none)
    (globalId : Nat) (surface : List (Line V)) (h : surfaceLines io globalId = some surface) :
    surface.filterMap F = [] := by
  unfold surfaceLines at h
  split_ifs at h
  · cases h; rfl
  · obtain ⟨d, -, rfl⟩ := Option.map_eq_some'.1 h; simp [hsurface, hequilibrate, hsave, htext]

theorem filterMap_writeInputs_flatMap (G : Nat → List β) (hpre : (preamble io).filterMap F = [])
    (hdump : (dumpLines io).filterMap F = [])
    (hG : ∀ k g, blockGroup io k = some g → g.filterMap F = G k) (script : List (Line V))
    (h : writeInputs io = some script) :
    script.filterMap F = (List.range io.mesh.numberOfBaseNodes).flatMap G := by
  obtain ⟨groups, hg, rfl⟩ := (writeInputs_eq_some io script).1 h
  rw [List.filterMap_append, List.filterMap_append, hpre, hdump, filterMap_flatten_of_forall₂ F G hG hg,
    List.nil_append, List.append_nil]

end Projection

/-! ## Block numbers -/

theorem preamble_filterMap :
    (preamble io).filterMap Line.solutionNumber? = [] ∧
      (preamble io).filterMap Line.equilibrationIndex? = [] :=
  ⟨(filterMap_outside_groups io _ (fun _ => rfl) (fun _ => rfl) (fun _ => rfl) fun _ _ => rfl).1,
    (filterMap_outside_groups io _ (fun _ => rfl) (fun _ => rfl) (fun _ => rfl) fun _ _ => rfl).1⟩

theorem dumpLines_filterMap :
    (dumpLines io).filterMap Line.solutionNumber? = [] ∧
      (dumpLines io).filterMap Line.equilibrationIndex? = [] :=
  ⟨(filterMap_outside_groups io _ (fun _ => rfl) (fun _ => rfl) (fun _ => rfl) fun _ _ => rfl).2,
    (filterMap_outside_groups io _ (fun _ => rfl) (fun _ => rfl) (fun _ => rfl) fun _ _ => rfl).2⟩

theorem prevLines_filterMap (localId : Nat) (prev : List (Line V))
    (h : prevLines io localId = some prev) :
    prev.filterMap Line.solutionNumber? = [] ∧ prev.filterMap Line.equilibrationIndex? = [] :=
  ⟨filterMap_prevLines io _ (fun _ => rfl) localId prev h, filterMap_prevLines io _ (fun _ => rfl) localId prev h⟩

theorem phaseLines_filterMap (globalId : Nat) :
    (phaseLines io globalId).filterMap Line.solutionNumber? = [] ∧
      (phaseLines io globalId).filterMap Line.equilibrationIndex? = [] :=
  ⟨(filterMap_reactionLines io _ (fun _ => rfl) (fun _ => rfl) (fun _ _ => rfl) (fun _ _ => rfl)
      (fun _ => rfl) (fun _ => rfl) globalId).1,
    (filterMap_reactionLines io _ (fun _ => rfl) (fun _ => rfl) (fun _ _ => rfl) (fun _ _ => rfl)
      (fun _ => rfl) (fun _ => rfl) globalId).1⟩

theorem kineticLines_filterMap (globalId : Nat) :
    (kineticLines io globalId).filterMap Line.solutionNumber? = [] ∧
      (kineticLines io globalId).filterMap Line.equilibrationIndex? = [] :=
  ⟨(filterMap_reactionLines io _ (fun _ => rfl) (fun _ => rfl) (fun _ _ => rfl) (fun _ _ => rfl)
      (fun _ => rfl) (fun _ => rfl) globalId).2,
    (filterMap_reactionLines io _ (fun _ => rfl) (fun _ => rfl) (fun _ _ => rfl) (fun _ _ => rfl)
      (fun _ => rfl) (fun _ => rfl) globalId).2⟩

theorem blockGroup_filterMap (localId : Nat) (g : List (Line V)) (h : blockGroup io localId = some g) :
    g.filterMap Line.solutionNumber? = [io.mesh.bulkNodeIds localId + 1] ∧
      ∀ d, io.dump = some d → g.filterMap Line.equilibrationIndex? =
        if io.surface.isEmpty then []
        else [if d.aqueousSolutionsPrev.isEmpty then io.mesh.bulkNodeIds localId + 1
          else io.mesh.numberOfBaseNodes + io.mesh.bulkNodeIds localId + 1] := by
  obtain ⟨prev, surface, hp, hs, rfl⟩ := (blockGroup_eq_some io localId g).1 h
  obtain ⟨p1, p2⟩ := prevLines_filterMap io localId prev hp
  obtain ⟨a1, a2⟩ := phaseLines_filterMap io (io.mesh.bulkNodeIds localId)
  obtain ⟨k1, k2⟩ := kineticLines_filterMap io (io.mesh.bulkNodeIds localId)
  simp only [List.filterMap_append, p1, p2, a1, a2, k1, k2, List.nil_append, List.append_nil]
  unfold surfaceLines at hs
  constructor
  · split_ifs at hs
    · cases hs; rfl
    · obtain ⟨d, -, rfl⟩ := Option.map_eq_some'.1 hs; rfl
  · intro d hd
    split_ifs at hs with hsurf
    · cases hs; rw [if_pos hsurf]; rfl
    · rw [hd] at hs; cases hs; rw [if_neg hsurf]; rfl

theorem filterMap_writeInputs (script : List (Line V)) (h : writeInputs io = some script)
    (F : Line V → Option Nat) (G : Nat → Nat) (hpre : (preamble io).filterMap F = [])
    (hdump : (dumpLines io).filterMap F = [])
    (hG : ∀ k g, blockGroup io k = some g → g.filterMap F = [G k]) :
    script.filterMap F = (List.range io.mesh.numberOfBaseNodes).map G := by
  rw [filterMap_writeInputs_flatMap io F (fun k => [G k]) hpre hdump hG script h, List.map_eq_flatMap]

/-- The block numbers of a script: a `SOLUTION m[k] + 1` for every system in local id order,
pairwise distinct for an injective map. With surface sites and a non-empty previous-state list the
equilibration index of system `k` is `N + m[k] + 1`; it equals a `SOLUTION` number exactly when
some `m[k'] = N + m[k]`, so none collides when every bulk node id is below `N`. -/
theorem writeInputs_block_numbers (script : List (Line V)) (h : writeInputs io = some script)
    (hinj : ∀ i < io.mesh.numberOfBaseNodes, ∀ j < io.mesh.numberOfBaseNodes,
      io.mesh.bulkNodeIds i = io.mesh.bulkNodeIds j → i = j)
    (hsurface : io.surface ≠ []) (d : Dump V) (hd : io.dump = some d)
    (hprev : d.aqueousSolutionsPrev ≠ []) :
    solutionNumbers script = (List.range io.mesh.numberOfBaseNodes).map (io.mesh.bulkNodeIds · + 1) ∧
      (solutionNumbers script).Nodup ∧
      equilibrationIndices script =
        (List.range io.mesh.numberOfBaseNodes).map (io.mesh.numberOfBaseNodes + io.mesh.bulkNodeIds · + 1) ∧
      (∀ n, n ∈ equilibrationIndices script ∧ n ∈ solutionNumbers script ↔
        ∃ k < io.mesh.numberOfBaseNodes, ∃ k' < io.mesh.numberOfBaseNodes,
          io.mesh.bulkNodeIds k' = io.mesh.numberOfBaseNodes + io.mesh.bulkNodeIds k ∧
          n = io.mesh.numberOfBaseNodes + io.mesh.bulkNodeIds k + 1) ∧
      ((∀ k < io.mesh.numberOfBaseNodes, io.mesh.bulkNodeIds k < io.mesh.numberOfBaseNodes) →
        ∀ n ∈ equilibrationIndices script, n ∉ solutionNumbers script) := by
  unfold solutionNumbers equilibrationIndices
  rw [filterMap_writeInputs io script h _ (io.mesh.bulkNodeIds · + 1) (preamble_filterMap io).1
      (dumpLines_filterMap io).1 fun k g hk => (blockGroup_filterMap io k g hk).1,
    filterMap_writeInputs io script h _ (io.mesh.numberOfBaseNodes + io.mesh.bulkNodeIds · + 1)
      (preamble_filterMap io).2 (dumpLines_filterMap io).2 fun k g hk => by
        rw [(blockGroup_filterMap io k g hk).2 d hd]
        simp [List.isEmpty_iff, hsurface, hprev]]
  refine ⟨rfl, ?_, rfl, fun n => ?_, fun hlt n hn hn' => ?_⟩
  · exact (List.nodup_range _).map_on fun i hi j hj hij =>
      hinj i (List.mem_range.1 hi) j (List.mem_range.1 hj) (by omega)
  · simp only [List.mem_map, List.mem_range]
    constructor
    · rintro ⟨⟨k, hk, rfl⟩, ⟨k', hk', he⟩⟩; exact ⟨k, hk, k', hk', by omega, rfl⟩
    · rintro ⟨k, hk, k', hk', he, rfl⟩; exact ⟨⟨k, hk, rfl⟩, ⟨k', hk', by omega⟩⟩
  · simp only [List.mem_map, List.mem_range] at hn hn'
    obtain ⟨k, hk, rfl⟩ := hn
    obtain ⟨k', hk', he⟩ := hn'
    have := hlt k' hk'
    omega

/-! ## Solution references -/

theorem blockGroup_solutionReferences (localId : Nat) (g : List (Line V))
    (h : blockGroup io localId = some g) :
    g.filterMap Line.solutionReference? =
      [(.solution, io.mesh.bulkNodeIds localId + 1), (.useSolution, io.mesh.bulkNodeIds localId + 1)] ++
        if io.surface.isEmpty then [] else [(.saveSolution, io.mesh.bulkNodeIds localId + 1)] := by
  obtain ⟨prev, surface, hp, hs, rfl⟩ := (blockGroup_eq_some io localId g).1 h
  obtain ⟨hphase, hkinetic⟩ := filterMap_reactionLines io Line.solutionReference? (fun _ => rfl)
    (fun _ => rfl) (fun _ _ => rfl) (fun _ _ => rfl) (fun _ => rfl) (fun _ => rfl) (io.mesh.bulkNodeIds localId)
  simp only [List.filterMap_append, filterMap_prevLines io Line.solutionReference? (fun _ => rfl) localId
    prev hp, hphase, hkinetic, List.append_nil]
  unfold surfaceLines at hs
  split_ifs at hs with hsurf
  · cases hs; rw [if_pos hsurf]; rfl
  · obtain ⟨d, -, rfl⟩ := Option.map_eq_some'.1 hs; rw [if_neg hsurf]; rfl

/-- The solution numbers of a script: for each system in local id order, `SOLUTION m[k] + 1`, then
`USE solution m[k] + 1`, then with surface sites `SAVE solution m[k] + 1`. Every solution the
script uses or saves is the one it defined just before, so no `USE` names a solution the script
has not defined. -/
theorem writeInputs_solution_references (script : List (Line V)) (h : writeInputs io = some script) :
    script.filterMap Line.solutionReference? =
      (List.range io.mesh.numberOfBaseNodes).flatMap fun k =>
        [(.solution, io.mesh.bulkNodeIds k + 1), (.useSolution, io.mesh.bulkNodeIds k + 1)] ++
          if io.surface.isEmpty then [] else [(.saveSolution, io.mesh.bulkNodeIds k + 1)] := by
  have hout := filterMap_outside_groups io Line.solutionReference? (fun _ => rfl) (fun _ => rfl)
    (fun _ => rfl) fun _ _ => rfl
  exact filterMap_writeInputs_flatMap io _ _ hout.1 hout.2 (blockGroup_solutionReferences io) script h

/-! ## Reaction data -/

theorem blockGroup_reactionData (localId : Nat) (g : List (Line V))
    (h : blockGroup io localId = some g) :
    g.filterMap Line.reactionData? =
      io.equilibriumPhases.map (.equilibriumPhase · (io.mesh.bulkNodeIds localId)) ++
        if io.kineticReactants.isEmpty then []
        else io.kineticReactants.map (.kineticReactant · (io.mesh.bulkNodeIds localId)) ++ [.steps io.dt] := by
  obtain ⟨prev, surface, hp, hs, rfl⟩ := (blockGroup_eq_some io localId g).1 h
  have hphase : (phaseLines io (io.mesh.bulkNodeIds localId)).filterMap Line.reactionData? =
      io.equilibriumPhases.map (.equilibriumPhase · (io.mesh.bulkNodeIds localId)) := by
    unfold phaseLines
    split_ifs with he
    · rw [List.isEmpty_iff.1 he]; rfl
    · simp only [List.filterMap_append, List.filterMap_cons, Line.reactionData?, List.filterMap_nil,
        List.append_nil]
      exact filterMap_reactionData_map (.equilibriumPhase · (io.mesh.bulkNodeIds localId)) (fun _ => rfl) _
  have hkinetic : (kineticLines io (io.mesh.bulkNodeIds localId)).filterMap Line.reactionData? =
      if io.kineticReactants.isEmpty then []
      else io.kineticReactants.map (.kineticReactant · (io.mesh.bulkNodeIds localId)) ++ [.steps io.dt] := by
    unfold kineticLines
    split_ifs
    · rfl
    · simp only [List.filterMap_append, List.filterMap_cons, Line.reactionData?, List.filterMap_nil,
        filterMap_reactionData_map (.kineticReactant · (io.mesh.bulkNodeIds localId)) fun _ => rfl]
  simp only [List.filterMap_append, filterMap_prevLines io Line.reactionData? (fun _ => rfl) localId prev hp,
    filterMap_surfaceLines io Line.reactionData? (fun _ => rfl) (fun _ => rfl) (fun _ => rfl) (fun _ => rfl)
      _ surface hs,
    hphase, hkinetic, List.filterMap_cons, List.filterMap_nil, Line.reactionData?, List.nil_append,
    List.append_nil]

theorem writeInputs_reactionData (script : List (Line V)) (h : writeInputs io = some script) :
    script.filterMap Line.reactionData? =
      (List.range io.mesh.numberOfBaseNodes).flatMap fun k =>
        io.equilibriumPhases.map (.equilibriumPhase · (io.mesh.bulkNodeIds k)) ++
          if io.kineticReactants.isEmpty then []
          else io.kineticReactants.map (.kineticReactant · (io.mesh.bulkNodeIds k)) ++ [.steps io.dt] := by
  have hout := filterMap_outside_groups io Line.reactionData? (fun _ => rfl) (fun _ => rfl)
    (fun _ => rfl) fun _ _ => rfl
  exact filterMap_writeInputs_flatMap io _ _ hout.1 hout.2 (blockGroup_reactionData io) script h

/-! ## Solution lines -/

theorem blockGroup_aqueousSolutions (localId : Nat) (g : List (Line V))
    (h : blockGroup io localId = some g) :
    g.filterMap Line.aqueousSolution? =
      .solution (io.aqueousSolutions localId) "\n" ::
        ((io.dump.map (·.aqueousSolutionsPrev)).getD [])[localId]?.toList.map (.solution · "\n\n") := by
  obtain ⟨prev, surface, hp, hs, rfl⟩ := (blockGroup_eq_some io localId g).1 h
  obtain ⟨hphase, hkinetic⟩ := filterMap_reactionLines io Line.aqueousSolution? (fun _ => rfl)
    (fun _ => rfl) (fun _ _ => rfl) (fun _ _ => rfl) (fun _ => rfl) (fun _ => rfl) (io.mesh.bulkNodeIds localId)
  have hprev : prev.filterMap Line.aqueousSolution? =
      ((io.dump.map (·.aqueousSolutionsPrev)).getD [])[localId]?.toList.map (.solution · "\n\n") := by
    unfold prevLines at hp
    cases hd : io.dump with
    | none => simp only [hd] at hp; cases hp; rfl
    | some d =>
      simp only [hd] at hp
      split_ifs at hp with he
      · cases hp; simp [List.isEmpty_iff.1 he]
      · obtain ⟨s, hs, rfl⟩ := Option.map_eq_some'.1 hp; simp [hs]; rfl
  simp only [List.filterMap_append, hprev, hphase, hkinetic, List.filterMap_cons,
    filterMap_surfaceLines io Line.aqueousSolution? (fun _ => rfl) (fun _ => rfl) (fun _ => rfl)
      (fun _ => rfl) _ surface hs,
    List.filterMap_nil, Line.aqueousSolution?, List.nil_append, List.append_nil, List.cons_append]

theorem writeInputs_aqueousSolutions (script : List (Line V)) (h : writeInputs io = some script) :
    script.filterMap Line.aqueousSolution? =
      (List.range io.mesh.numberOfBaseNodes).flatMap fun k =>
        .solution (io.aqueousSolutions k) "\n" ::
          ((io.dump.map (·.aqueousSolutionsPrev)).getD [])[k]?.toList.map (.solution · "\n\n") := by
  have hout := filterMap_outside_groups io Line.aqueousSolution? (fun _ => rfl) (fun _ => rfl)
    (fun _ => rfl) fun _ _ => rfl
  exact filterMap_writeInputs_flatMap io _ _ hout.1 hout.2 (blockGroup_aqueousSolutions io) script h

end Script

/-- Two systems with surface sites: each solution is defined, used and saved in turn. -/
theorem solution_references_with_surface :
    let io : PhreeqcIO Nat :=
      { phreeqcInputFile := "", mesh := ⟨2, id⟩, database := "", aqueousSolutions := fun _ => ⟨7, 4, []⟩,
        equilibriumPhases := [], kineticReactants := [], reactionRates := [], surface := ["site"],
        userPunch := none, output := ⟨"", [], []⟩, dump := some ⟨"", []⟩, knobs := "",
        processIdToComponentNameMap := [], dt := 0 }
    ∃ script, writeInputs io = some script ∧
      script.filterMap Line.solutionReference? =
        (List.range io.mesh.numberOfBaseNodes).flatMap fun k =>
          [(.solution, io.mesh.bulkNodeIds k + 1), (.useSolution, io.mesh.bulkNodeIds k + 1)] ++
            if io.surface.isEmpty then [] else [(.saveSolution, io.mesh.bulkNodeIds k + 1)] :=
  ⟨_, rfl, writeInputs_solution_references _ _ rfl⟩

/-- The state of a submesh whose bulk node ids reach `N`: two systems at bulk nodes 0 and 2,
surface sites and a previous-state list. -/
theorem block_numbers_collide_on_submesh :
    let sol : AqueousSolution Nat := ⟨7, 4, []⟩
    let io : PhreeqcIO Nat :=
      { phreeqcInputFile := "", mesh := ⟨2, (2 * ·)⟩, database := "", aqueousSolutions := fun _ => sol,
        equilibriumPhases := [], kineticReactants := [], reactionRates := [], surface := ["site"],
        userPunch := none, output := ⟨"", [], []⟩, dump := some ⟨"", [sol, sol]⟩, knobs := "",
        processIdToComponentNameMap := [], dt := 0 }
    (∀ i < 2, ∀ j < 2, io.mesh.bulkNodeIds i = io.mesh.bulkNodeIds j → i = j) ∧
      (writeInputs io).map (fun script => (solutionNumbers script,
        equilibrationIndices script)) = some ([1, 3], [3, 5]) :=
  ⟨by decide, rfl⟩

/-- On a whole mesh, where the bulk node ids are the local ids, the indices do not collide. -/
theorem block_numbers_whole_mesh :
    let sol : AqueousSolution Nat := ⟨7, 4, []⟩
    let d : Dump Nat := ⟨"", [sol, sol]⟩
    let io : PhreeqcIO Nat :=
      { phreeqcInputFile := "", mesh := ⟨2, id⟩, database := "", aqueousSolutions := fun _ => sol,
        equilibriumPhases := [], kineticReactants := [], reactionRates := [], surface := ["site"],
        userPunch := none, output := ⟨"", [], []⟩, dump := some d, knobs := "",
        processIdToComponentNameMap := [], dt := 0 }
    ∃ script, (writeInputs io = some script ∧
      (∀ i < io.mesh.numberOfBaseNodes, ∀ j < io.mesh.numberOfBaseNodes,
        io.mesh.bulkNodeIds i = io.mesh.bulkNodeIds j → i = j) ∧
      io.surface ≠ [] ∧ io.dump = some d ∧ d.aqueousSolutionsPrev ≠ []) ∧
    (solutionNumbers script = (List.range io.mesh.numberOfBaseNodes).map (io.mesh.bulkNodeIds · + 1) ∧
      (solutionNumbers script).Nodup ∧
      equilibrationIndices script =
        (List.range io.mesh.numberOfBaseNodes).map (io.mesh.numberOfBaseNodes + io.mesh.bulkNodeIds · + 1) ∧
      (∀ n, n ∈ equilibrationIndices script ∧ n ∈ solutionNumbers script ↔
        ∃ k < io.mesh.numberOfBaseNodes, ∃ k' < io.mesh.numberOfBaseNodes,
          io.mesh.bulkNodeIds k' = io.mesh.numberOfBaseNodes + io.mesh.bulkNodeIds k ∧
          n = io.mesh.numberOfBaseNodes + io.mesh.bulkNodeIds k + 1) ∧
      ((∀ k < io.mesh.numberOfBaseNodes, io.mesh.bulkNodeIds k < io.mesh.numberOfBaseNodes) →
        ∀ n ∈ equilibrationIndices script, n ∉ solutionNumbers script)) :=
  ⟨_, ⟨rfl, by decide, by decide, rfl, List.cons_ne_nil _ _⟩,
    writeInputs_block_numbers _ _ rfl (by decide) (by decide) _ rfl (List.cons_ne_nil _ _)⟩

/-- The failing input of the `SURFACE` branch: one system, one surface site, dumping disabled. -/
theorem surface_without_dump_failing_input :
    let io : PhreeqcIO Nat :=
      { phreeqcInputFile := "", mesh := ⟨1, id⟩, database := "", aqueousSolutions := fun _ => ⟨7, 4, []⟩,
        equilibriumPhases := [], kineticReactants := [], reactionRates := [], surface := ["site"],
        userPunch := none, output := ⟨"", [], []⟩, dump := none, knobs := "",
        processIdToComponentNameMap := [], dt := 0 }
    (0 < io.mesh.numberOfBaseNodes ∧ io.surface ≠ [] ∧ io.dump = none) ∧ writeInputs io = none :=
  ⟨⟨by decide, by decide, rfl⟩, writeInputs_surface_without_dump _ (by decide) (by decide) rfl⟩

end Ogs.ChemistryLib
