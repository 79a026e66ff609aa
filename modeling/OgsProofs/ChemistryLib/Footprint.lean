/-
What the coupling pass `PhreeqcIO::setAqueousSolutionsOrUpdateProcessSolutions` depends on and what
it overwrites: it reads and writes transport values only on the cells of the map and the chemical
systems, a setting pass overwrites all an earlier one wrote, and the updating pass leaves in each
cell its last write, so that running it twice is running it once.
-/
import OgsProofs.ChemistryLib.Coupling

namespace Ogs.ChemistryLib

variable {V : Type}

/-! ## Locality -/

/-- The transport vector entries the two passes couple with: `(process id of an entry of the map,
m[k])` for a chemical system `k < N`. -/
def PhreeqcIO.Footprint (io : PhreeqcIO V) (p g : Nat) : Prop :=
  ∃ k < io.mesh.numberOfBaseNodes, ∃ e ∈ io.processIdToComponentNameMap,
    (p, g) = (e.1, io.mesh.bulkNodeIds k)

instance (io : PhreeqcIO V) (p g : Nat) : Decidable (io.Footprint p g) :=
  inferInstanceAs (Decidable (∃ k < io.mesh.numberOfBaseNodes, ∃ e ∈ io.processIdToComponentNameMap,
    (p, g) = (e.1, io.mesh.bulkNodeIds k)))

/-- Two states of the pass with the same solutions whose transport values agree on the cells `S`. -/
def Coupling.AgreeOn (S : Nat → Nat → Prop) (t t' : Coupling V) : Prop :=
  t'.aqueousSolutions = t.aqueousSolutions ∧ ∀ p g, S p g → t'.processSolutions p g = t.processSolutions p g

theorem Coupling.set_set (s : Coupling V) (processId globalId : Nat) (v w : V) :
    (s.set processId globalId v).set processId globalId w = s.set processId globalId w := by
  simp [Coupling.set]

theorem Coupling.AgreeOn.set {S : Nat → Nat → Prop} {t t' : Coupling V} (h : t.AgreeOn S t')
    (processId globalId : Nat) (v : V) :
    (t.set processId globalId v).AgreeOn S (t'.set processId globalId v) := by
  refine ⟨h.1, fun p g hS => ?_⟩
  by_cases hpg : (p, g) = (processId, globalId)
  · obtain ⟨rfl, rfl⟩ := Prod.mk.inj hpg
    simp only [Coupling.set_processSolutions_self]
  · rw [Coupling.set_processSolutions_of_ne _ _ hpg, Coupling.set_processSolutions_of_ne _ _ hpg,
      h.2 p g hS]

section Locality

variable [Neg V] (cm : Cmath V)

theorem entryState_updating_eq (localId globalId : Nat) (t : Coupling V) (entry : Nat × String) :
    entryState cm .updatingProcessSolutions localId globalId t entry =
      match updatedValue cm (t.aqueousSolutions localId) entry with
      | none => t
      | some v => t.set entry.1 globalId v := by
  unfold entryState hydrogenBranch updatedValue componentBranch
  split_ifs with hH <;> cases (t.aqueousSolutions localId).components.find? (·.name == entry.2) <;>
    simp [Coupling.set_set]

theorem setting_eq_of_agreeOn_footprint (io : PhreeqcIO V) (ps ps' : Nat → Nat → V)
    (h : ∀ p g, io.Footprint p g → ps' p g = ps p g) :
    (setAqueousSolutionsOrUpdateProcessSolutions cm io ps' .settingAqueousSolutions).1 =
      (setAqueousSolutionsOrUpdateProcessSolutions cm io ps .settingAqueousSolutions).1 := by
  simp only [setAqueousSolutionsOrUpdateProcessSolutions, runPass_setting]
  congr 1
  funext k
  split_ifs with hk
  · exact List.foldl_ext _ _ _ fun sol e he => by
      simp only [settingEntry, h e.1 (io.mesh.bulkNodeIds k) ⟨k, hk, e, he, rfl⟩]
  · rfl

theorem updating_eq_of_agreeOn_footprint (io : PhreeqcIO V) (ps ps' : Nat → Nat → V)
    (h : ∀ p g, io.Footprint p g → ps' p g = ps p g) :
    setAqueousSolutionsOrUpdateProcessSolutions cm io ps' .updatingProcessSolutions =
      (io, fun p g => if io.Footprint p g then
        (setAqueousSolutionsOrUpdateProcessSolutions cm io ps .updatingProcessSolutions).2 p g
        else ps' p g) := by
  refine Prod.ext (updating_fst cm io ps') (funext fun p => funext fun g => ?_)
  dsimp only
  split_ifs with hF
  · have hagree : Coupling.AgreeOn io.Footprint
        (runPass cm .updatingProcessSolutions io ⟨io.aqueousSolutions, ps⟩).1
        (runPass cm .updatingProcessSolutions io ⟨io.aqueousSolutions, ps'⟩).1 := by
      rw [runPass_updating_pairs, runPass_updating_pairs]
      refine List.foldl_rel (fun t t' => Coupling.AgreeOn io.Footprint t t') ⟨rfl, h⟩ ?_
      intro ke _ t t' ht
      rw [entryState_updating_eq, entryState_updating_eq, ht.1]
      cases updatedValue cm (t.aqueousSolutions ke.1) ke.2 with
      | none => exact ht
      | some v => exact ht.set _ _ v
    exact hagree.2 p g hF
  · exact (runPass_updating_frame cm io _).2 p g fun k hk e he hpg => hF ⟨k, hk, e, he, hpg⟩

end Locality

/-! ## Setting twice -/

section Twice

variable [Neg V] (cm : Cmath V)

/-- The loop body in direction settingAqueousSolutions, field by field: an update of a name no
component has changes nothing, so the membership test only saves work. -/
theorem settingEntry_eq (ps : Nat → Nat → V) (globalId : Nat) (sol : AqueousSolution V)
    (entry : Nat × String) :
    settingEntry cm ps globalId sol entry =
      ⟨if entry.2 = "H" then -cm.log10 (ps entry.1 globalId) else sol.pH, sol.pe,
        updateFirst (·.name == entry.2) (fun c => { c with amount := ps entry.1 globalId }) sol.components⟩ := by
  unfold settingEntry AqueousSolution.setAmount
  by_cases hn : entry.2 ∈ sol.components.map (·.name)
  · simp only [hn, if_true]; split_ifs <;> rfl
  · rw [updateFirst_of_forall_not _ _ _ fun a ha => ?_]
    · simp only [hn, if_false]; split_ifs <;> rfl
    · simpa using fun h => hn (List.mem_map.2 ⟨a, ha, h⟩)

theorem settingEntry_overwrite (ps ps' : Nat → Nat → V) (globalId : Nat) (sol : AqueousSolution V)
    (e e' : Nat × String) (h : e.2 = e'.2) :
    settingEntry cm ps' globalId (settingEntry cm ps globalId sol e) e' =
      settingEntry cm ps' globalId sol e' := by
  simp only [settingEntry_eq, h]
  rw [updateFirst_updateFirst]
  · by_cases hH : e'.2 = "H" <;> simp only [hH, if_true, if_false] <;> rfl
  · exact fun _ => rfl

theorem settingEntry_comm (ps ps' : Nat → Nat → V) (globalId : Nat) (sol : AqueousSolution V)
    (e e' : Nat × String) (h : e.2 ≠ e'.2) :
    settingEntry cm ps' globalId (settingEntry cm ps globalId sol e) e' =
      settingEntry cm ps globalId (settingEntry cm ps' globalId sol e') e := by
  simp only [settingEntry_eq]
  rw [updateFirst_comm]
  · by_cases hH : e.2 = "H"
    · simp [hH, hH ▸ h.symm]
    · simp [hH]
  · intro a ha
    simp only [beq_iff_eq] at ha
    simpa [ha] using h.symm
  all_goals exact fun _ => rfl

theorem foldl_settingEntry_absorb (ps ps' : Nat → Nat → V) (globalId : Nat) :
    ∀ (L : List (Nat × String)) (sol : AqueousSolution V) (e : Nat × String), e.2 ∈ L.map Prod.snd →
      L.foldl (settingEntry cm ps' globalId) (settingEntry cm ps globalId sol e) =
        L.foldl (settingEntry cm ps' globalId) sol
  | [], _, _, he => nomatch he
  | e' :: L, sol, e, he => by
    rw [List.foldl_cons, List.foldl_cons]
    by_cases h : e.2 = e'.2
    · rw [settingEntry_overwrite cm ps ps' globalId sol e e' h]
    · rw [settingEntry_comm cm ps ps' globalId sol e e' h]
      exact foldl_settingEntry_absorb ps ps' globalId L _ e (by simpa [h] using he)

theorem foldl_settingEntry_foldl (ps ps' : Nat → Nat → V) (globalId : Nat) (L : List (Nat × String)) :
    ∀ (M : List (Nat × String)) (sol : AqueousSolution V), (∀ e ∈ M, e.2 ∈ L.map Prod.snd) →
      L.foldl (settingEntry cm ps' globalId) (M.foldl (settingEntry cm ps globalId) sol) =
        L.foldl (settingEntry cm ps' globalId) sol
  | [], _, _ => rfl
  | e :: M, sol, h => by
    rw [List.foldl_cons, foldl_settingEntry_foldl ps ps' globalId L M _
        fun e' he' => h e' (List.mem_cons_of_mem e he'),
      foldl_settingEntry_absorb cm ps ps' globalId L sol e (h e (List.mem_cons_self e M))]

/-- A setting pass overwrites all that an earlier setting pass wrote: after two setting passes the
solutions are those the second leaves, whatever transport values the first read. -/
theorem setting_absorbs_setting (io : PhreeqcIO V) (ps ps' : Nat → Nat → V) :
    (setAqueousSolutionsOrUpdateProcessSolutions cm
        (setAqueousSolutionsOrUpdateProcessSolutions cm io ps .settingAqueousSolutions).1 ps'
        .settingAqueousSolutions).1 =
      (setAqueousSolutionsOrUpdateProcessSolutions cm io ps' .settingAqueousSolutions).1 := by
  simp only [setAqueousSolutionsOrUpdateProcessSolutions, runPass_setting]
  congr 1
  funext k
  split_ifs with hk
  · exact foldl_settingEntry_foldl cm ps ps' _ _ _ _ fun e he => List.mem_map_of_mem _ he
  · rfl

end Twice

/-! ## The last write of the updating pass -/

/-- A fold whose every step keeps the accumulator or replaces it ends with the last replacement,
or with the start. -/
theorem foldl_getD_eq_getLast? {α β : Type} (w : α → Option β) :
    ∀ (L : List α) (x : β), L.foldl (fun x a => (w a).getD x) x = ((L.filterMap w).getLast?).getD x
  | [], _ => rfl
  | a :: L, x => by
    rw [List.foldl_cons, foldl_getD_eq_getLast? w L, List.filterMap_cons]
    cases w a with
    | none => rfl
    | some b => simp [List.getLast?_cons]

section Overwrites

variable [Neg V] (cm : Cmath V)

theorem processSolutions_entryState_updating (localId globalId : Nat) (t : Coupling V)
    (entry : Nat × String) (p g : Nat) :
    (entryState cm .updatingProcessSolutions localId globalId t entry).processSolutions p g =
      (if (entry.1, globalId) = (p, g) then updatedValue cm (t.aqueousSolutions localId) entry
        else none).getD (t.processSolutions p g) := by
  rw [entryState_updating_eq]
  cases updatedValue cm (t.aqueousSolutions localId) entry with
  | none => split_ifs <;> rfl
  | some v =>
    by_cases hc : (entry.1, globalId) = (p, g)
    · obtain ⟨rfl, rfl⟩ := Prod.mk.inj hc
      simp
    · rw [if_neg hc]
      exact Coupling.set_processSolutions_of_ne _ _ (Ne.symm hc)

theorem processSolutions_foldl_updating (p g : Nat) (globalIdOf : Nat → Nat)
    (sols : Nat → AqueousSolution V) :
    ∀ (L : List (Nat × (Nat × String))) (t : Coupling V), t.aqueousSolutions = sols →
      (L.foldl (fun t ke => entryState cm .updatingProcessSolutions ke.1 (globalIdOf ke.1) t ke.2)
          t).processSolutions p g =
        L.foldl (fun x ke => (if (ke.2.1, globalIdOf ke.1) = (p, g) then updatedValue cm (sols ke.1) ke.2
          else none).getD x) (t.processSolutions p g)
  | [], _, _ => rfl
  | ke :: L, t, ht => by
    rw [List.foldl_cons, List.foldl_cons, processSolutions_foldl_updating p g globalIdOf sols L _
      ((entryState_updating_aqueousSolutions cm _ _ t _).trans ht), processSolutions_entryState_updating, ht]

/-- The updating pass leaves in each transport cell the value of the last entry, in loop order,
that writes it, and keeps the old value where no entry writes; duplicate process ids, names or
bulk node ids included. -/
theorem updating_last_write (io : PhreeqcIO V) (ps : Nat → Nat → V) (p g : Nat) :
    (setAqueousSolutionsOrUpdateProcessSolutions cm io ps .updatingProcessSolutions).2 p g =
      (((List.range io.mesh.numberOfBaseNodes).flatMap fun k =>
          io.processIdToComponentNameMap.filterMap fun e =>
            if (e.1, io.mesh.bulkNodeIds k) = (p, g) then updatedValue cm (io.aqueousSolutions k) e
            else none).getLast?).getD (ps p g) := by
  simp only [setAqueousSolutionsOrUpdateProcessSolutions, runPass_updating_pairs]
  rw [processSolutions_foldl_updating cm p g _ io.aqueousSolutions _ _ rfl, foldl_getD_eq_getLast?,
    List.filterMap_flatMap]
  simp only [List.filterMap_map, Function.comp_def]

/-- Updating twice is updating once. -/
theorem updating_idempotent (io : PhreeqcIO V) (ps : Nat → Nat → V) :
    setAqueousSolutionsOrUpdateProcessSolutions cm io
        (setAqueousSolutionsOrUpdateProcessSolutions cm io ps .updatingProcessSolutions).2
        .updatingProcessSolutions =
      setAqueousSolutionsOrUpdateProcessSolutions cm io ps .updatingProcessSolutions := by
  refine Prod.ext ((updating_fst cm io _).trans (updating_fst cm io ps).symm) (funext fun p => funext fun g => ?_)
  simp only [setAqueousSolutionsOrUpdateProcessSolutions, runPass_updating_pairs]
  rw [processSolutions_foldl_updating cm p g _ io.aqueousSolutions _ _ rfl,
    processSolutions_foldl_updating cm p g _ io.aqueousSolutions _ _ rfl, foldl_getD_eq_getLast?,
    foldl_getD_eq_getLast?]
  cases List.getLast? _ <;> rfl

end Overwrites

end Ogs.ChemistryLib
