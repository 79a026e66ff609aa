/-
The lockstep of the two text interfaces of `PhreeqcIO`. `operator<<` writes one block group per
chemical system, in local id order, numbered after the system's bulk node, `m[k] + 1`; the engine
answers each group with a fixed number of lines; `operator>>` walks the answer in the same order
and routes row `k` to solution `k` and to entry `m[k]` of the per-node arrays. So the results of a
block land at the global id it was written for, whatever the map.
-/
import OgsProofs.ChemistryLib.Script
import OgsProofs.ChemistryLib.Result

namespace Ogs.ChemistryLib

variable {V : Type}

/-! ## The block group of a system -/

/-- A line of the block group of the system at bulk node `globalId`: its block numbers are
`globalId + 1`, and the phase and reactant lines print entry `globalId`. The equilibration index
names another block. -/
def Line.ForNode (globalId : Nat) : Line V → Prop
  | .numbered .equilibrateWithSolution _ => True
  | .numbered _ n => n = globalId + 1
  | .equilibriumPhase _ g => g = globalId
  | .kineticReactant _ g => g = globalId
  | _ => True

section Group

variable (io : PhreeqcIO V) (globalId : Nat)

theorem prevLines_forNode (localId : Nat) (prev : List (Line V))
    (h : prevLines io localId = some prev) : ∀ l ∈ prev, l.ForNode globalId := by
  unfold prevLines at h
  split at h
  · cases h; simp
  · split_ifs at h
    · cases h; simp
    · obtain ⟨s, -, rfl⟩ := Option.map_eq_some'.1 h
      simp [Line.ForNode]

theorem surfaceLines_forNode (surface : List (Line V)) (h : surfaceLines io globalId = some surface) :
    ∀ l ∈ surface, l.ForNode globalId := by
  unfold surfaceLines at h
  split_ifs at h
  · cases h; simp
  · obtain ⟨d, -, rfl⟩ := Option.map_eq_some'.1 h
    simp [Line.ForNode]

theorem phaseLines_forNode : ∀ l ∈ phaseLines io globalId, l.ForNode globalId := by
  unfold phaseLines
  split_ifs
  · simp
  · simp only [List.mem_cons, List.mem_append, List.mem_map, List.not_mem_nil, or_false]
    rintro l ((rfl | ⟨p, -, rfl⟩) | rfl) <;> simp [Line.ForNode]

theorem kineticLines_forNode : ∀ l ∈ kineticLines io globalId, l.ForNode globalId := by
  unfold kineticLines
  split_ifs
  · simp
  · simp only [List.mem_cons, List.mem_append, List.mem_map, List.not_mem_nil, or_false]
    rintro l ((rfl | ⟨r, -, rfl⟩) | rfl) <;> simp [Line.ForNode]

theorem blockGroup_forNode (localId : Nat) (g : List (Line V)) (h : blockGroup io localId = some g) :
    g.take 2 = [.numbered .solution (io.mesh.bulkNodeIds localId + 1),
        .solution (io.aqueousSolutions localId) "\n"] ∧
      ∀ l ∈ g, l.ForNode (io.mesh.bulkNodeIds localId) := by
  obtain ⟨prev, surface, hp, hs, rfl⟩ := (blockGroup_eq_some io localId g).1 h
  have hprev := prevLines_forNode io (io.mesh.bulkNodeIds localId) localId prev hp
  have hsurface := surfaceLines_forNode io _ surface hs
  have hphase := phaseLines_forNode io (io.mesh.bulkNodeIds localId)
  have hkinetic := kineticLines_forNode io (io.mesh.bulkNodeIds localId)
  refine ⟨rfl, ?_⟩
  simp only [List.forall_mem_append]
  refine ⟨⟨⟨⟨⟨⟨?_, hprev⟩, ?_⟩, hphase⟩, hkinetic⟩, hsurface⟩, ?_⟩ <;> simp [Line.ForNode]

end Group

theorem forall₂_getElem? {α β : Type} {R : α → β → Prop} :
    ∀ {l₁ : List α} {l₂ : List β}, List.Forall₂ R l₁ l₂ → ∀ {k : Nat} {b : β},
      l₂[k]? = some b → ∃ a, l₁[k]? = some a ∧ R a b
  | _, _, .nil, _, _, h => by simp at h
  | _, _, .cons hab _, 0, _, h => by
    rw [List.getElem?_cons_zero, Option.some.injEq] at h
    exact ⟨_, List.getElem?_cons_zero, h ▸ hab⟩
  | _, _, .cons _ hl, _ + 1, _, h => by
    rw [List.getElem?_cons_succ] at h
    simpa only [List.getElem?_cons_succ] using forall₂_getElem? hl h

/-! ## Lockstep -/

/-- The lockstep of `operator<<` and `operator>>`. The script holds one block group per system,
in local id order: group `k` opens with `SOLUTION m[k] + 1` and the solution of system `k`, and
every block number in it is `m[k] + 1` and every per-node entry it prints is `m[k]`. On a table
laid out as the engine answers the script, `operator>>` reads the `k`-th data row for system `k`
at bulk node `m[k]`, and that row stores its kept items, converted in column order, under the
schema entries in order, into solution `k` and entry `m[k]` of the per-node arrays, and changes
nothing else. -/
theorem writeInputs_readOutputs_lockstep (ndebug : Bool) (toDouble : String → Option V)
    (io : PhreeqcIO V) (script : List (Line V)) (hscript : writeInputs io = some script)
    (header : String) (skipped : Nat → List String) (rows : Nat → String)
    (hskipped : ∀ k, (skipped k).length = if io.surface.isEmpty then 1 else 2) :
    (∃ groups : List (List (Line V)), script = preamble io ++ groups.flatten ++ dumpLines io ∧
      groups.length = io.mesh.numberOfBaseNodes ∧
      ∀ k (g : List (Line V)), groups[k]? = some g →
        g.take 2 = [.numbered .solution (io.mesh.bulkNodeIds k + 1),
          .solution (io.aqueousSolutions k) "\n"] ∧
        ∀ l ∈ g, l.ForNode (io.mesh.bulkNodeIds k)) ∧
    readOutputs ndebug toDouble io
        (header :: (List.range io.mesh.numberOfBaseNodes).flatMap fun k => skipped k ++ [rows k]) =
      (List.range io.mesh.numberOfBaseNodes).foldlM (fun state k =>
        readRow ndebug toDouble io.output k (io.mesh.bulkNodeIds k) (rows k) state) io ∧
    ∀ k row (state state' : PhreeqcIO V),
      readRow ndebug toDouble io.output k (io.mesh.bulkNodeIds k) row state = .ok state' →
        (∃ values, acceptItems toDouble io.output.droppedItemIds (io.mesh.bulkNodeIds k) 0
            (tokenize row) = .ok values ∧
          state' = (io.output.acceptedItems.zip values).foldl (storeEntry k (io.mesh.bulkNodeIds k)) state) ∧
        RowFrame k (io.mesh.bulkNodeIds k) state state' := by
  obtain ⟨groups, hgroups, rfl⟩ := (writeInputs_eq_some io script).1 hscript
  refine ⟨⟨groups, rfl, by rw [← hgroups.length_eq, List.length_range], fun k g hg => ?_⟩,
    readOutputs_table ndebug toDouble io header skipped rows hskipped, fun k row state state' h => ?_⟩
  · obtain ⟨k', hk', hblock⟩ := forall₂_getElem? hgroups hg
    have hk : k < io.mesh.numberOfBaseNodes := by
      have := (List.getElem?_eq_some_iff.1 hk').1
      rwa [List.length_range] at this
    rw [List.getElem?_range hk, Option.some.injEq] at hk'
    subst hk'
    exact blockGroup_forNode io k g hblock
  · obtain ⟨values, hvalues, rfl⟩ := readRow_ok ndebug toDouble io.output k _ row state state' h
    exact ⟨⟨values, hvalues, rfl⟩, rowFrame_foldl k _ _ state⟩

/-- Two systems on a mesh whose bulk node ids run backwards, system 0 at node 1 and system 1 at
node 0, with schema pH and no surface sites. -/
def reversedPair : PhreeqcIO String where
  phreeqcInputFile := "phreeqc.inp"
  mesh := ⟨2, fun k => 1 - k⟩
  database := "phreeqc.dat"
  aqueousSolutions := fun k => ⟨if k = 0 then "7" else "8", "4", []⟩
  equilibriumPhases := []
  kineticReactants := []
  reactionRates := []
  surface := []
  userPunch := none
  output := ⟨"phreeqc.out", [⟨"pH", .pH⟩], []⟩
  dump := none
  knobs := ""
  processIdToComponentNameMap := []
  dt := "0"

theorem lockstep_reversed_map :
    (writeInputs reversedPair = some ((writeInputs reversedPair).getD []) ∧
      ∀ _ : Nat, (["initial"] : List String).length = if reversedPair.surface.isEmpty then 1 else 2) ∧
    (∃ groups : List (List (Line String)), (writeInputs reversedPair).getD [] =
        preamble reversedPair ++ groups.flatten ++ dumpLines reversedPair ∧
      groups.length = reversedPair.mesh.numberOfBaseNodes ∧
      ∀ k (g : List (Line String)), groups[k]? = some g →
        g.take 2 = [.numbered .solution (reversedPair.mesh.bulkNodeIds k + 1),
          .solution (reversedPair.aqueousSolutions k) "\n"] ∧
        ∀ l ∈ g, l.ForNode (reversedPair.mesh.bulkNodeIds k)) ∧
    readOutputs false some reversedPair
        ("pH" :: (List.range reversedPair.mesh.numberOfBaseNodes).flatMap fun _ => ["initial"] ++ ["8.5"]) =
      (List.range reversedPair.mesh.numberOfBaseNodes).foldlM (fun state k =>
        readRow false some reversedPair.output k (reversedPair.mesh.bulkNodeIds k) "8.5" state) reversedPair ∧
    ∀ k row (state state' : PhreeqcIO String),
      readRow false some reversedPair.output k (reversedPair.mesh.bulkNodeIds k) row state = .ok state' →
        (∃ values, acceptItems some reversedPair.output.droppedItemIds (reversedPair.mesh.bulkNodeIds k) 0
            (tokenize row) = .ok values ∧
          state' = (reversedPair.output.acceptedItems.zip values).foldl
            (storeEntry k (reversedPair.mesh.bulkNodeIds k)) state) ∧
        RowFrame k (reversedPair.mesh.bulkNodeIds k) state state' :=
  ⟨⟨rfl, fun _ => rfl⟩, writeInputs_readOutputs_lockstep false some reversedPair _ rfl "pH"
    (fun _ => ["initial"]) (fun _ => "8.5") fun _ => rfl⟩

end Ogs.ChemistryLib
