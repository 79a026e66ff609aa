/-
`PhreeqcIO::setAqueousSolutionsOrUpdateProcessSolutions`, the pass that moves concentrations
between the transport process solutions and the aqueous solutions, in both directions. The model
records every assignment the loop body makes, so that what one direction reads can be compared
with what the other writes.
-/
import OgsProofs.ChemistryLib.Data
import Mathlib.Analysis.SpecialFunctions.Log.Base

namespace Ogs.ChemistryLib

variable {V : Type}

/-! ## The pass -/

/-- The two `<cmath>` calls of the pH conversion, `std::log10` and `std::pow(10, ·)`. -/
structure Cmath (V : Type) where
  log10 : V → V
  pow10 : V → V

inductive Status
  | settingAqueousSolutions
  | updatingProcessSolutions
  deriving DecidableEq, Repr

/-- What the pass works on: the object's solutions and the transport process solutions,
`process_solutions[process_id]->get(global_id)`. -/
structure Coupling (V : Type) where
  aqueousSolutions : Nat → AqueousSolution V
  processSolutions : Nat → Nat → V

/-- A cell the pass reads or writes; `amount k n` is the amount of the first component of
solution `k` named `n`. -/
inductive Cell
  | processSolution (processId globalId : Nat)
  | amount (localId : Nat) (name : String)
  | pH (localId : Nat)
  deriving DecidableEq, Repr

/-- One assignment of the loop body: `dst` is written from `src`. -/
structure Transfer where
  src : Cell
  dst : Cell
  deriving DecidableEq, Repr

/-- `component->amount = v` on the component `std::find_if` finds by name. -/
def AqueousSolution.setAmount (sol : AqueousSolution V) (name : String) (v : V) :
    AqueousSolution V :=
  { sol with components := updateFirst (·.name == name) (fun c => { c with amount := v }) sol.components }

@[simp] theorem AqueousSolution.names_setAmount (sol : AqueousSolution V) (name : String) (v : V) :
    (sol.setAmount name v).components.map (·.name) = sol.components.map (·.name) :=
  map_updateFirst _ (fun c => { c with amount := v }) _ (fun _ => rfl) sol.components

namespace Coupling

/-- Stores `sol` as the solution of chemical system `localId`. -/
def setSolution (s : Coupling V) (localId : Nat) (sol : AqueousSolution V) : Coupling V :=
  { s with aqueousSolutions := Function.update s.aqueousSolutions localId sol }

/-- An assignment through the reference `_aqueous_solutions[localId]`. -/
def updateSolution (s : Coupling V) (localId : Nat) (f : AqueousSolution V → AqueousSolution V) :
    Coupling V :=
  s.setSolution localId (f (s.aqueousSolutions localId))

/-- `process_solutions[processId]->set(globalId, v)`. -/
def set (s : Coupling V) (processId globalId : Nat) (v : V) : Coupling V :=
  let solution := Function.update (s.processSolutions processId) globalId v
  { s with processSolutions := Function.update s.processSolutions processId solution }

/-- The component names of each solution: all the loop's tests look at. -/
def names (s : Coupling V) (localId : Nat) : List String :=
  (s.aqueousSolutions localId).components.map (·.name)

@[simp] theorem set_aqueousSolutions (s : Coupling V) (processId globalId : Nat) (v : V) :
    (s.set processId globalId v).aqueousSolutions = s.aqueousSolutions := rfl

theorem set_processSolutions_of_ne (s : Coupling V) {processId globalId p g : Nat} (v : V)
    (h : (p, g) ≠ (processId, globalId)) :
    (s.set processId globalId v).processSolutions p g = s.processSolutions p g := by
  by_cases hp : p = processId
  · subst hp
    have : g ≠ globalId := fun hg => h (by rw [hg])
    simp [set, this]
  · simp [set, hp]

theorem set_self (s : Coupling V) (processId globalId : Nat) :
    s.set processId globalId (s.processSolutions processId globalId) = s := by
  simp [set]

@[simp] theorem setSolution_processSolutions (s : Coupling V) (k : Nat) (sol : AqueousSolution V) :
    (s.setSolution k sol).processSolutions = s.processSolutions := rfl

@[simp] theorem setSolution_same (s : Coupling V) (k : Nat) (sol : AqueousSolution V) :
    (s.setSolution k sol).aqueousSolutions k = sol := by
  simp [setSolution]

@[simp] theorem setSolution_setSolution (s : Coupling V) (k : Nat) (a b : AqueousSolution V) :
    (s.setSolution k a).setSolution k b = s.setSolution k b := by
  simp [setSolution]

@[simp] theorem setSolution_self (s : Coupling V) (k : Nat) :
    s.setSolution k (s.aqueousSolutions k) = s := by
  simp [setSolution]

end Coupling

/-- The first branch of the loop body: the component named like the transport process variable,
when the solution has one. -/
def componentBranch (status : Status) (localId globalId : Nat) (entry : Nat × String)
    (s : Coupling V) : Coupling V × List Transfer :=
  match (s.aqueousSolutions localId).components.find? (·.name == entry.2) with
  | none => (s, [])
  | some component =>
    match status with
    | .settingAqueousSolutions =>
      (s.updateSolution localId (·.setAmount entry.2 (s.processSolutions entry.1 globalId)),
        [⟨.processSolution entry.1 globalId, .amount localId entry.2⟩])
    | .updatingProcessSolutions =>
      (s.set entry.1 globalId component.amount,
        [⟨.amount localId entry.2, .processSolution entry.1 globalId⟩])

/-- The second branch: the transport process variable `"H"` is the hydrogen concentration,
exchanged with pH through `pH = -log10(c)` and `c = pow(10, -pH)`. -/
def hydrogenBranch [Neg V] (cm : Cmath V) (status : Status) (localId globalId : Nat)
    (entry : Nat × String) (s : Coupling V) : Coupling V × List Transfer :=
  if entry.2 = "H" then
    match status with
    | .settingAqueousSolutions =>
      (s.updateSolution localId fun sol => { sol with pH := -cm.log10 (s.processSolutions entry.1 globalId) },
        [⟨.processSolution entry.1 globalId, .pH localId⟩])
    | .updatingProcessSolutions =>
      (s.set entry.1 globalId (cm.pow10 (-(s.aqueousSolutions localId).pH)),
        [⟨.pH localId, .processSolution entry.1 globalId⟩])
  else (s, [])

/-- The loop body for one chemical system and one entry of the process id map; the assignments
it makes are appended to the record. -/
def entryStep [Neg V] (cm : Cmath V) (status : Status) (localId globalId : Nat)
    (acc : Coupling V × List Transfer) (entry : Nat × String) : Coupling V × List Transfer :=
  let r := componentBranch status localId globalId entry acc.1
  let r' := hydrogenBranch cm status localId globalId entry r.1
  (r'.1, acc.2 ++ (r.2 ++ r'.2))

/-- Both loops: over the chemical systems in local id order, and over the process id map. The
map `bulk_node_ids` and the number of systems are read once, before the loop. -/
def runPass [Neg V] (cm : Cmath V) (status : Status) (io : PhreeqcIO V) (s : Coupling V) :
    Coupling V × List Transfer :=
  (List.range io.mesh.numberOfBaseNodes).foldl
    (fun acc localId => io.processIdToComponentNameMap.foldl
      (entryStep cm status localId (io.mesh.bulkNodeIds localId)) acc) (s, [])

/-- `PhreeqcIO::setAqueousSolutionsOrUpdateProcessSolutions`. -/
def setAqueousSolutionsOrUpdateProcessSolutions [Neg V] (cm : Cmath V) (io : PhreeqcIO V)
    (processSolutions : Nat → Nat → V) (status : Status) : PhreeqcIO V × (Nat → Nat → V) :=
  let s := (runPass cm status io ⟨io.aqueousSolutions, processSolutions⟩).1
  ({ io with aqueousSolutions := s.aqueousSolutions }, s.processSolutions)

/-! ## The record of a pass -/

/-- The assignment between a transport vector cell and a solution cell in the direction of
`status`: setting reads the vector, updating writes it. -/
def Transfer.oriented : Status → Cell → Cell → Transfer
  | .settingAqueousSolutions, v, f => ⟨v, f⟩
  | .updatingProcessSolutions, v, f => ⟨f, v⟩

/-- The solution cells the loop body couples with the transport process variable `name`. -/
def fieldCells (names : List String) (localId : Nat) (name : String) : List Cell :=
  (if name ∈ names then [.amount localId name] else []) ++ (if name = "H" then [.pH localId] else [])

/-- The assignments of the loop body for one system and one entry, given the component names of
the solutions. -/
def entryTransfers (status : Status) (localId globalId : Nat) (names : Nat → List String)
    (entry : Nat × String) : List Transfer :=
  (fieldCells (names localId) localId entry.2).map
    (Transfer.oriented status (.processSolution entry.1 globalId))

/-- The assignments a pass in direction `status` makes, in loop order. -/
def transfers (status : Status) (io : PhreeqcIO V) (names : Nat → List String) : List Transfer :=
  (List.range io.mesh.numberOfBaseNodes).flatMap fun k =>
    io.processIdToComponentNameMap.flatMap (entryTransfers status k (io.mesh.bulkNodeIds k) names)

/-- The state the loop body leaves behind. -/
def entryState [Neg V] (cm : Cmath V) (status : Status) (localId globalId : Nat) (s : Coupling V)
    (entry : Nat × String) : Coupling V :=
  (hydrogenBranch cm status localId globalId entry (componentBranch status localId globalId entry s).1).1

/-- A fold that keeps a record: each step changes the state by `g` and appends what `h` reads
off a view `π` of the state that no step changes. -/
theorem foldl_record {σ α β γ : Type} (g : σ → α → σ) (h : γ → α → List β) (π : σ → γ)
    (hπ : ∀ s a, π (g s a) = π s) : ∀ (xs : List α) (s : σ) (log : List β),
      xs.foldl (fun acc a => (g acc.1 a, acc.2 ++ h (π acc.1) a)) (s, log) =
        (xs.foldl g s, log ++ xs.flatMap (h (π s)))
  | [], s, log => by simp
  | a :: xs, s, log => by simp [foldl_record g h π hπ xs, hπ]

theorem find?_name_eq_none (l : List (Component V)) (n : String) :
    l.find? (·.name == n) = none ↔ n ∉ l.map (·.name) := by
  simp [List.find?_eq_none]

section Step

variable (status : Status) (localId globalId : Nat) (entry : Nat × String) (s : Coupling V)

theorem names_updateSolution (f : AqueousSolution V → AqueousSolution V)
    (hf : ∀ sol, (f sol).components.map (·.name) = sol.components.map (·.name)) :
    (s.updateSolution localId f).names = s.names := by
  funext k
  by_cases h : k = localId
  · subst h; simp [Coupling.names, Coupling.updateSolution, Coupling.setSolution, hf]
  · simp [Coupling.names, Coupling.updateSolution, Coupling.setSolution, h]

theorem names_componentBranch : (componentBranch status localId globalId entry s).1.names = s.names := by
  unfold componentBranch
  split
  · rfl
  · cases status
    · dsimp only; exact names_updateSolution localId s _ fun sol => sol.names_setAmount _ _
    · rfl

theorem names_hydrogenBranch [Neg V] (cm : Cmath V) :
    (hydrogenBranch cm status localId globalId entry s).1.names = s.names := by
  unfold hydrogenBranch
  split_ifs
  · cases status
    · dsimp only; exact names_updateSolution localId s _ fun _ => rfl
    · rfl
  · rfl

theorem names_entryState [Neg V] (cm : Cmath V) :
    (entryState cm status localId globalId s entry).names = s.names := by
  rw [entryState, names_hydrogenBranch, names_componentBranch]

theorem componentBranch_snd :
    (componentBranch status localId globalId entry s).2 =
      if entry.2 ∈ s.names localId then
        [.oriented status (.processSolution entry.1 globalId) (.amount localId entry.2)]
      else [] := by
  unfold componentBranch Coupling.names
  split
  · rename_i h; simp [(find?_name_eq_none _ _).1 h]
  · rename_i c h
    have : entry.2 ∈ (s.aqueousSolutions localId).components.map (·.name) := by
      rw [← not_not (a := _ ∈ _), ← find?_name_eq_none, h]; simp
    cases status <;> simp [this, Transfer.oriented]

theorem hydrogenBranch_snd [Neg V] (cm : Cmath V) :
    (hydrogenBranch cm status localId globalId entry s).2 =
      if entry.2 = "H" then [.oriented status (.processSolution entry.1 globalId) (.pH localId)]
      else [] := by
  unfold hydrogenBranch
  split_ifs <;> cases status <;> rfl

theorem entryStep_eq [Neg V] (cm : Cmath V) (acc : Coupling V × List Transfer) :
    entryStep cm status localId globalId acc entry =
      (entryState cm status localId globalId acc.1 entry,
        acc.2 ++ entryTransfers status localId globalId acc.1.names entry) := by
  simp only [entryStep, entryState, entryTransfers, componentBranch_snd, hydrogenBranch_snd,
    fieldCells, List.map_append]
  split_ifs <;> simp

end Step

section Pass

variable [Neg V] (cm : Cmath V) (status : Status) (io : PhreeqcIO V)

theorem names_foldl_entryState (localId globalId : Nat) :
    ∀ (es : List (Nat × String)) (t : Coupling V),
      (es.foldl (entryState cm status localId globalId) t).names = t.names
  | [], _ => rfl
  | e :: es, t => by
    rw [List.foldl_cons, names_foldl_entryState localId globalId es, names_entryState]

theorem runPass_eq (s : Coupling V) :
    runPass cm status io s =
      ((List.range io.mesh.numberOfBaseNodes).foldl (fun t k =>
          io.processIdToComponentNameMap.foldl (entryState cm status k (io.mesh.bulkNodeIds k)) t) s,
        transfers status io s.names) := by
  have inner : ∀ k (acc : Coupling V × List Transfer),
      io.processIdToComponentNameMap.foldl (entryStep cm status k (io.mesh.bulkNodeIds k)) acc =
        (io.processIdToComponentNameMap.foldl (entryState cm status k (io.mesh.bulkNodeIds k)) acc.1,
          acc.2 ++ io.processIdToComponentNameMap.flatMap
            (entryTransfers status k (io.mesh.bulkNodeIds k) acc.1.names)) := by
    intro k ⟨t, log⟩
    have hstep : entryStep cm status k (io.mesh.bulkNodeIds k) = fun acc e =>
        (entryState cm status k (io.mesh.bulkNodeIds k) acc.1 e,
          acc.2 ++ entryTransfers status k (io.mesh.bulkNodeIds k) acc.1.names e) := by
      funext acc e; exact entryStep_eq status k _ e cm acc
    rw [hstep, foldl_record (entryState cm status k _) (entryTransfers status k _) Coupling.names
      (fun t e => names_entryState status k _ e t cm)]
  unfold runPass
  simp only [inner]
  rw [foldl_record (fun t k => io.processIdToComponentNameMap.foldl
    (entryState cm status k (io.mesh.bulkNodeIds k)) t)
    (fun names k => io.processIdToComponentNameMap.flatMap
      (entryTransfers status k (io.mesh.bulkNodeIds k) names)) Coupling.names
    (fun t k => names_foldl_entryState cm status k _ _ t)]
  simp [transfers]

end Pass

/-! ## Lists updated through `find_if` -/

section UpdateFirst

variable {α : Type} (p q : α → Bool) (f : α → α)

theorem find?_updateFirst (hf : ∀ a, p (f a) = p a) (l : List α) :
    (updateFirst p f l).find? p = (l.find? p).map f := by
  induction l with
  | nil => rfl
  | cons a l ih => by_cases h : p a <;> simp [updateFirst_cons, h, hf, ih]

theorem find?_updateFirst_of_disjoint (hpq : ∀ a, q a → p a = false) (hf : ∀ a, q (f a) = q a)
    (l : List α) : (updateFirst p f l).find? q = l.find? q := by
  induction l with
  | nil => rfl
  | cons a l ih =>
    by_cases h : p a
    · have : q a = false := by by_contra hq; simp_all
      simp [updateFirst_cons, h, hf, this, List.find?_cons]
    · by_cases hq : q a <;> simp [updateFirst_cons, h, hq, ih, List.find?_cons]

theorem getElem?_updateFirst_of_not {a : α} (ha : p a = false) :
    ∀ (l : List α) (i : Nat), l[i]? = some a → (updateFirst p f l)[i]? = some a
  | [], _, h => by simp at h
  | b :: l, 0, h => by
    simp only [List.getElem?_cons_zero, Option.some.injEq] at h
    subst h; simp [updateFirst_cons, ha]
  | b :: l, i + 1, h => by
    by_cases hb : p b
    · simpa [updateFirst_cons, hb] using h
    · simp only [List.getElem?_cons_succ] at h
      simpa [updateFirst_cons, hb] using getElem?_updateFirst_of_not ha l i h

theorem updateFirst_of_forall_not : ∀ l : List α, (∀ a ∈ l, p a = false) → updateFirst p f l = l
  | [], _ => rfl
  | a :: l, h => by
    rw [updateFirst_cons, if_neg (by simp [h a (List.mem_cons_self a l)]),
      updateFirst_of_forall_not l fun b hb => h b (List.mem_cons_of_mem a hb)]

theorem updateFirst_updateFirst (g : α → α) (hg : ∀ a, p (g a) = p a) (l : List α) :
    updateFirst p f (updateFirst p g l) = updateFirst p (f ∘ g) l := by
  induction l with
  | nil => rfl
  | cons a l ih => by_cases h : p a <;> simp [updateFirst_cons, h, hg, ih]

theorem updateFirst_comm (g : α → α) (hpq : ∀ a, p a → q a = false) (hf : ∀ a, q (f a) = q a)
    (hg : ∀ a, p (g a) = p a) (l : List α) :
    updateFirst p f (updateFirst q g l) = updateFirst q g (updateFirst p f l) := by
  induction l with
  | nil => rfl
  | cons a l ih =>
    by_cases h : p a
    · simp [updateFirst_cons, h, hpq a h, hf]
    · by_cases hq : q a <;> simp [updateFirst_cons, h, hq, hg, ih]

end UpdateFirst

/-! ## The setting direction -/

theorem componentBranch_setting_fst (localId globalId : Nat) (entry : Nat × String) (s : Coupling V) :
    (componentBranch .settingAqueousSolutions localId globalId entry s).1 =
      if entry.2 ∈ s.names localId then
        s.updateSolution localId (·.setAmount entry.2 (s.processSolutions entry.1 globalId))
      else s := by
  unfold componentBranch Coupling.names
  cases h : (s.aqueousSolutions localId).components.find? (·.name == entry.2) with
  | none => simp [(find?_name_eq_none _ _).1 h]
  | some c =>
    have : entry.2 ∈ (s.aqueousSolutions localId).components.map (·.name) := by
      rw [← not_not (a := _ ∈ _), ← find?_name_eq_none, h]; simp
    simp [this]

section Setting

variable [Neg V] (cm : Cmath V)

/-- The loop body in direction `settingAqueousSolutions`, on the one solution it changes. -/
def settingEntry (ps : Nat → Nat → V) (globalId : Nat) (sol : AqueousSolution V)
    (entry : Nat × String) : AqueousSolution V :=
  let sol := if entry.2 ∈ sol.components.map (·.name) then
    sol.setAmount entry.2 (ps entry.1 globalId) else sol
  if entry.2 = "H" then { sol with pH := -cm.log10 (ps entry.1 globalId) } else sol

theorem entryState_setting (localId globalId : Nat) (s : Coupling V) (entry : Nat × String) :
    entryState cm .settingAqueousSolutions localId globalId s entry =
      s.setSolution localId (settingEntry cm s.processSolutions globalId (s.aqueousSolutions localId) entry) := by
  unfold entryState
  rw [componentBranch_setting_fst]
  unfold hydrogenBranch settingEntry Coupling.names
  split_ifs <;> simp [Coupling.updateSolution]

theorem foldl_entryState_setting (localId globalId : Nat) :
    ∀ (es : List (Nat × String)) (s : Coupling V),
      es.foldl (entryState cm .settingAqueousSolutions localId globalId) s =
        s.setSolution localId
          (es.foldl (settingEntry cm s.processSolutions globalId) (s.aqueousSolutions localId))
  | [], s => (Coupling.setSolution_self s localId).symm
  | e :: es, s => by
    rw [List.foldl_cons, foldl_entryState_setting localId globalId es, entryState_setting]
    simp

theorem foldl_systems_setting (io : PhreeqcIO V) : ∀ (n : Nat) (s : Coupling V),
    (List.range n).foldl (fun t k => io.processIdToComponentNameMap.foldl
        (entryState cm .settingAqueousSolutions k (io.mesh.bulkNodeIds k)) t) s =
      ⟨fun k => if k < n then
          io.processIdToComponentNameMap.foldl
            (settingEntry cm s.processSolutions (io.mesh.bulkNodeIds k)) (s.aqueousSolutions k)
        else s.aqueousSolutions k, s.processSolutions⟩
  | 0, s => by simp
  | n + 1, s => by
    rw [List.range_succ, List.foldl_append, foldl_systems_setting io n, List.foldl_cons,
      List.foldl_nil, foldl_entryState_setting]
    simp only [Coupling.setSolution, Coupling.mk.injEq, and_true, lt_irrefl, if_false]
    funext k
    by_cases hk : k = n
    · subst hk; simp
    · simp only [Function.update_apply, hk, if_false]
      congr 1; simp only [eq_iff_iff]; omega

theorem runPass_setting (io : PhreeqcIO V) (s : Coupling V) :
    (runPass cm .settingAqueousSolutions io s).1 =
      ⟨fun k => if k < io.mesh.numberOfBaseNodes then
          io.processIdToComponentNameMap.foldl
            (settingEntry cm s.processSolutions (io.mesh.bulkNodeIds k)) (s.aqueousSolutions k)
        else s.aqueousSolutions k, s.processSolutions⟩ := by
  rw [runPass_eq]; exact foldl_systems_setting cm io _ s

theorem settingEntry_pH (ps : Nat → Nat → V) (globalId : Nat) (sol : AqueousSolution V)
    (entry : Nat × String) :
    (settingEntry cm ps globalId sol entry).pH =
      if entry.2 = "H" then -cm.log10 (ps entry.1 globalId) else sol.pH := by
  unfold settingEntry; split_ifs <;> rfl

theorem find?_settingEntry (ps : Nat → Nat → V) (globalId : Nat) (sol : AqueousSolution V)
    (entry : Nat × String) (n : String) :
    (settingEntry cm ps globalId sol entry).components.find? (·.name == n) =
      if entry.2 = n then
        (sol.components.find? (·.name == n)).map (fun c => { c with amount := ps entry.1 globalId })
      else sol.components.find? (·.name == n) := by
  have hc : (settingEntry cm ps globalId sol entry).components =
      if entry.2 ∈ sol.components.map (·.name) then
        updateFirst (·.name == entry.2) (fun c => { c with amount := ps entry.1 globalId }) sol.components
      else sol.components := by
    unfold settingEntry; split_ifs <;> rfl
  rw [hc]
  split_ifs with hn he he
  · subst he
    exact find?_updateFirst (fun c : Component V => c.name == entry.2)
      (fun c => { c with amount := ps entry.1 globalId }) (fun _ => rfl) _
  · exact find?_updateFirst_of_disjoint (fun c : Component V => c.name == entry.2)
      (fun c => c.name == n) (fun c => { c with amount := ps entry.1 globalId })
      (fun a h => by
        rw [beq_iff_eq] at h
        show (a.name == entry.2) = false
        rw [h, beq_eq_false_iff_ne]; exact fun e => he e.symm) (fun _ => rfl) _
  · subst he; rw [(find?_name_eq_none _ _).2 hn]; rfl
  · rfl

end Setting

/-! ## Setting then updating -/

section RoundTrip

variable [Neg V] (cm : Cmath V)

/-- What a setting pass reading `ps` at global id `globalId` leaves in `sol` for the entry
`(processId, name)`: the first component so named holds the vector's value, and for `"H"` pH is
its negative logarithm. -/
def SetFrom (ps : Nat → Nat → V) (globalId : Nat) (sol : AqueousSolution V) (entry : Nat × String) :
    Prop :=
  (∀ c, sol.components.find? (·.name == entry.2) = some c → c.amount = ps entry.1 globalId) ∧
    (entry.2 = "H" → sol.pH = -cm.log10 (ps entry.1 globalId))

theorem setFrom_settingEntry (ps : Nat → Nat → V) (globalId : Nat) (sol : AqueousSolution V)
    (entry : Nat × String) : SetFrom cm ps globalId (settingEntry cm ps globalId sol entry) entry := by
  refine ⟨fun c hc => ?_, fun h => by rw [settingEntry_pH, if_pos h]⟩
  rw [find?_settingEntry, if_pos rfl, Option.map_eq_some'] at hc
  obtain ⟨c', -, rfl⟩ := hc
  rfl

theorem foldl_settingEntry_of_not_mem (ps : Nat → Nat → V) (globalId : Nat) (n : String) :
    ∀ (es : List (Nat × String)) (sol : AqueousSolution V), n ∉ es.map Prod.snd →
      (es.foldl (settingEntry cm ps globalId) sol).components.find? (·.name == n) =
          sol.components.find? (·.name == n) ∧
        (n = "H" → (es.foldl (settingEntry cm ps globalId) sol).pH = sol.pH)
  | [], _, _ => ⟨rfl, fun _ => rfl⟩
  | e :: es, sol, hn => by
    simp only [List.map_cons, List.mem_cons, not_or] at hn
    obtain ⟨ih1, ih2⟩ := foldl_settingEntry_of_not_mem ps globalId n es
      (settingEntry cm ps globalId sol e) hn.2
    refine ⟨by rw [List.foldl_cons, ih1, find?_settingEntry, if_neg (Ne.symm hn.1)], fun h => ?_⟩
    rw [List.foldl_cons, ih2 h, settingEntry_pH, if_neg (h ▸ Ne.symm hn.1)]

theorem setFrom_foldl (ps : Nat → Nat → V) (globalId : Nat) :
    ∀ (es : List (Nat × String)) (sol : AqueousSolution V), (es.map Prod.snd).Nodup →
      ∀ e ∈ es, SetFrom cm ps globalId (es.foldl (settingEntry cm ps globalId) sol) e
  | [], _, _, _, he => absurd he (List.not_mem_nil _)
  | e :: es, sol, hnd, e', he' => by
    rw [List.map_cons, List.nodup_cons] at hnd
    rw [List.foldl_cons]
    rcases List.mem_cons.1 he' with rfl | he'
    · obtain ⟨h1, h2⟩ := foldl_settingEntry_of_not_mem cm ps globalId e'.2 es _ hnd.1
      obtain ⟨s1, s2⟩ := setFrom_settingEntry cm ps globalId sol e'
      exact ⟨fun c hc => s1 c (h1 ▸ hc), fun h => (h2 h).trans (s2 h)⟩
    · exact setFrom_foldl ps globalId es _ hnd.2 e' he'

theorem entryState_updating_of_setFrom (localId globalId : Nat) (t : Coupling V) (entry : Nat × String)
    (hset : SetFrom cm t.processSolutions globalId (t.aqueousSolutions localId) entry)
    (hinv : entry.2 = "H" → cm.pow10 (-(-cm.log10 (t.processSolutions entry.1 globalId))) =
      t.processSolutions entry.1 globalId) :
    entryState cm .updatingProcessSolutions localId globalId t entry = t := by
  have hc : (componentBranch .updatingProcessSolutions localId globalId entry t).1 = t := by
    unfold componentBranch
    split
    · rfl
    · rename_i c h; dsimp only; rw [hset.1 c h, Coupling.set_self]
  unfold entryState
  rw [hc]
  unfold hydrogenBranch
  split_ifs with hH
  · dsimp only; rw [hset.2 hH, hinv hH, Coupling.set_self]
  · rfl

theorem runPass_updating_of_setFrom (io : PhreeqcIO V) (s : Coupling V)
    (h : ∀ k < io.mesh.numberOfBaseNodes, ∀ e ∈ io.processIdToComponentNameMap,
      SetFrom cm s.processSolutions (io.mesh.bulkNodeIds k) (s.aqueousSolutions k) e ∧
        (e.2 = "H" → cm.pow10 (-(-cm.log10 (s.processSolutions e.1 (io.mesh.bulkNodeIds k)))) =
          s.processSolutions e.1 (io.mesh.bulkNodeIds k))) :
    (runPass cm .updatingProcessSolutions io s).1 = s := by
  simp only [runPass_eq]
  refine List.foldlRecOn (motive := (· = s)) _ _ s rfl ?_
  intro t ht k hk; subst t
  refine List.foldlRecOn (motive := (· = s)) _ _ s rfl ?_
  intro t ht e he; subst t
  obtain ⟨h1, h2⟩ := h k (List.mem_range.1 hk) e he
  exact entryState_updating_of_setFrom cm k _ s e h1 h2

theorem round_trip_of_inverse (io : PhreeqcIO V) (ps : Nat → Nat → V)
    (hnames : (io.processIdToComponentNameMap.map Prod.snd).Nodup)
    (hinv : ∀ k < io.mesh.numberOfBaseNodes, ∀ e ∈ io.processIdToComponentNameMap, e.2 = "H" →
      cm.pow10 (-(-cm.log10 (ps e.1 (io.mesh.bulkNodeIds k)))) = ps e.1 (io.mesh.bulkNodeIds k)) :
    let r := setAqueousSolutionsOrUpdateProcessSolutions cm io ps .settingAqueousSolutions
    (setAqueousSolutionsOrUpdateProcessSolutions cm r.1 r.2 .updatingProcessSolutions).2 = ps := by
  simp only [setAqueousSolutionsOrUpdateProcessSolutions, runPass_setting]
  rw [runPass_updating_of_setFrom]
  intro k hk e he
  refine ⟨?_, hinv k hk e he⟩
  simp only [if_pos hk]
  exact setFrom_foldl cm ps _ _ _ hnames e he

end RoundTrip

/-- The round trip over the reals: `pH = -log10(c)` then `10^(-pH)`, for positive hydrogen
concentrations and pairwise distinct component names in the process id map. -/
theorem setAqueousSolutionsOrUpdateProcessSolutions_round_trip (io : PhreeqcIO ℝ) (ps : Nat → Nat → ℝ)
    (hnames : (io.processIdToComponentNameMap.map Prod.snd).Nodup)
    (hpos : ∀ k < io.mesh.numberOfBaseNodes, ∀ e ∈ io.processIdToComponentNameMap, e.2 = "H" →
      0 < ps e.1 (io.mesh.bulkNodeIds k)) :
    let cm : Cmath ℝ := ⟨Real.logb 10, fun x => (10 : ℝ) ^ x⟩
    let r := setAqueousSolutionsOrUpdateProcessSolutions cm io ps .settingAqueousSolutions
    (setAqueousSolutionsOrUpdateProcessSolutions cm r.1 r.2 .updatingProcessSolutions).2 = ps :=
  round_trip_of_inverse _ io ps hnames fun k hk e he hH => by
    simp only [neg_neg]
    exact Real.rpow_logb (by norm_num) (by norm_num) (hpos k hk e he hH)

/-- The round trip on one chemical system with a calcium and a hydrogen transport variable. -/
theorem round_trip_witness :
    let io : PhreeqcIO ℝ :=
      { phreeqcInputFile := "", mesh := ⟨1, id⟩, database := "",
        aqueousSolutions := fun _ => ⟨7, 4, [⟨"Ca", 0⟩]⟩, equilibriumPhases := [],
        kineticReactants := [], reactionRates := [], surface := [], userPunch := none,
        output := ⟨"", [], []⟩, dump := none, knobs := "",
        processIdToComponentNameMap := [(0, "Ca"), (1, "H")], dt := 0 }
    let ps : Nat → Nat → ℝ := fun p _ => p + 1
    let cm : Cmath ℝ := ⟨Real.logb 10, fun x => (10 : ℝ) ^ x⟩
    ((io.processIdToComponentNameMap.map Prod.snd).Nodup ∧
      ∀ k < io.mesh.numberOfBaseNodes, ∀ e ∈ io.processIdToComponentNameMap, e.2 = "H" →
        0 < ps e.1 (io.mesh.bulkNodeIds k)) ∧
    (setAqueousSolutionsOrUpdateProcessSolutions cm
      (setAqueousSolutionsOrUpdateProcessSolutions cm io ps .settingAqueousSolutions).1
      (setAqueousSolutionsOrUpdateProcessSolutions cm io ps .settingAqueousSolutions).2
      .updatingProcessSolutions).2 = ps :=
  ⟨⟨by decide, fun _ _ e _ _ => by positivity⟩,
    setAqueousSolutionsOrUpdateProcessSolutions_round_trip _ _ (by decide)
      fun _ _ e _ _ => by positivity⟩

/-! ## The footprint of the two directions -/

section Frame

variable [Neg V] (cm : Cmath V)

theorem entryState_updating_aqueousSolutions (localId globalId : Nat) (t : Coupling V)
    (entry : Nat × String) :
    (entryState cm .updatingProcessSolutions localId globalId t entry).aqueousSolutions =
      t.aqueousSolutions := by
  have hc : (componentBranch .updatingProcessSolutions localId globalId entry t).1.aqueousSolutions =
      t.aqueousSolutions := by
    unfold componentBranch; split <;> rfl
  unfold entryState hydrogenBranch
  split_ifs
  · dsimp only; rw [Coupling.set_aqueousSolutions, hc]
  · exact hc

theorem entryState_updating_processSolutions (localId globalId : Nat) (t : Coupling V)
    (entry : Nat × String) {p g : Nat} (h : (p, g) ≠ (entry.1, globalId)) :
    (entryState cm .updatingProcessSolutions localId globalId t entry).processSolutions p g =
      t.processSolutions p g := by
  have hc : (componentBranch .updatingProcessSolutions localId globalId entry t).1.processSolutions p g =
      t.processSolutions p g := by
    unfold componentBranch
    split
    · rfl
    · exact Coupling.set_processSolutions_of_ne _ _ h
  unfold entryState hydrogenBranch
  split_ifs
  · dsimp only; exact (Coupling.set_processSolutions_of_ne _ _ h).trans hc
  · exact hc

theorem runPass_updating_frame (io : PhreeqcIO V) (s : Coupling V) :
    (runPass cm .updatingProcessSolutions io s).1.aqueousSolutions = s.aqueousSolutions ∧
      ∀ p g, (∀ k < io.mesh.numberOfBaseNodes, ∀ e ∈ io.processIdToComponentNameMap,
        (p, g) ≠ (e.1, io.mesh.bulkNodeIds k)) →
        (runPass cm .updatingProcessSolutions io s).1.processSolutions p g = s.processSolutions p g := by
  simp only [runPass_eq]
  constructor
  · refine List.foldlRecOn (motive := fun t => t.aqueousSolutions = s.aqueousSolutions) _ _ s rfl ?_
    intro t ht k _
    exact List.foldlRecOn (motive := fun t => t.aqueousSolutions = s.aqueousSolutions) _ _ t ht
      fun t' ht' e _ => (entryState_updating_aqueousSolutions cm k _ t' e).trans ht'
  · intro p g h
    refine List.foldlRecOn (motive := fun t => t.processSolutions p g = s.processSolutions p g)
      _ _ s rfl ?_
    intro t ht k hk
    exact List.foldlRecOn (motive := fun t => t.processSolutions p g = s.processSolutions p g)
      _ _ t ht fun t' ht' e he =>
        (entryState_updating_processSolutions cm k _ t' e (h k (List.mem_range.1 hk) e he)).trans ht'

theorem updating_fst (io : PhreeqcIO V) (ps : Nat → Nat → V) :
    (setAqueousSolutionsOrUpdateProcessSolutions cm io ps .updatingProcessSolutions).1 = io := by
  simp only [setAqueousSolutionsOrUpdateProcessSolutions,
    (runPass_updating_frame cm io ⟨io.aqueousSolutions, ps⟩).1]

/-- What the setting loop keeps of a solution: pe, the component names, every component whose
name the map does not mention, and pH unless `"H"` is mapped. -/
def Kept (mapped : List String) (sol sol' : AqueousSolution V) : Prop :=
  sol'.pe = sol.pe ∧ sol'.components.map (·.name) = sol.components.map (·.name) ∧
    (∀ (i : Nat) (c : Component V), sol.components[i]? = some c → c.name ∉ mapped →
      sol'.components[i]? = some c) ∧
    ("H" ∉ mapped → sol'.pH = sol.pH)

theorem kept_settingEntry (mapped : List String) (ps : Nat → Nat → V) (globalId : Nat)
    (sol sol' : AqueousSolution V) (entry : Nat × String) (he : entry.2 ∈ mapped)
    (h : Kept mapped sol sol') : Kept mapped sol (settingEntry cm ps globalId sol' entry) := by
  obtain ⟨h1, h2, h3, h4⟩ := h
  have hc : ∀ (i : Nat) (c : Component V), sol'.components[i]? = some c → c.name ≠ entry.2 →
      (settingEntry cm ps globalId sol' entry).components[i]? = some c := by
    intro i c hi hn
    unfold settingEntry
    split_ifs <;> first
      | exact hi
      | exact getElem?_updateFirst_of_not _ _ (by simpa using hn) _ _ hi
  refine ⟨by unfold settingEntry; split_ifs <;> exact h1, ?_, ?_, ?_⟩
  · unfold settingEntry; split_ifs <;> simp [h2]
  · intro i c hi hn
    exact hc i c (h3 i c hi hn) fun (e : c.name = entry.2) => hn (e ▸ he)
  · intro hH
    rw [settingEntry_pH, if_neg fun (e : entry.2 = "H") => hH (e ▸ he), h4 hH]

theorem runPass_setting_frame (io : PhreeqcIO V) (s : Coupling V) :
    (runPass cm .settingAqueousSolutions io s).1.processSolutions = s.processSolutions ∧
      ∀ k, Kept (io.processIdToComponentNameMap.map Prod.snd) (s.aqueousSolutions k)
        ((runPass cm .settingAqueousSolutions io s).1.aqueousSolutions k) := by
  rw [runPass_setting]
  refine ⟨rfl, fun k => ?_⟩
  dsimp only
  split_ifs
  · refine List.foldlRecOn (motive := Kept _ (s.aqueousSolutions k)) _ _ _
      ⟨rfl, rfl, fun _ _ h _ => h, fun _ => rfl⟩ ?_
    intro sol h e he
    exact kept_settingEntry cm _ _ _ _ _ e (List.mem_map_of_mem _ he) h
  · exact ⟨rfl, rfl, fun _ _ h _ => h, fun _ => rfl⟩

end Frame


/-! ## Updating then setting -/

section LastWrite

variable {σ α κ γ β : Type} (f : σ → α → σ) (cell : α → κ) (read : σ → κ → β)

theorem foldl_read_of_not_mem (hframe : ∀ s a c, c ≠ cell a → read (f s a) c = read s c) :
    ∀ (L : List α) (s : σ) (c : κ), c ∉ L.map cell → read (L.foldl f s) c = read s c
  | [], _, _, _ => rfl
  | a :: L, s, c, hc => by
    rw [List.map_cons, List.mem_cons, not_or] at hc
    rw [List.foldl_cons, foldl_read_of_not_mem hframe L _ c hc.2, hframe s a c hc.1]

/-- In a fold whose steps write pairwise distinct cells, and write a value read off a view no step
changes, every cell ends with the value its own step wrote. -/
theorem foldl_read_cell (π : σ → γ) (value : α → γ → Option β)
    (hframe : ∀ s a c, c ≠ cell a → read (f s a) c = read s c) (hπ : ∀ s a, π (f s a) = π s)
    (hvalue : ∀ s a v, value a (π s) = some v → read (f s a) (cell a) = v) :
    ∀ (L : List α) (s : σ), (L.map cell).Nodup → ∀ a ∈ L, ∀ v, value a (π s) = some v →
      read (L.foldl f s) (cell a) = v
  | [], _, _, _, ha, _, _ => absurd ha (List.not_mem_nil _)
  | b :: L, s, hnd, a, ha, v, hv => by
    rw [List.map_cons, List.nodup_cons] at hnd
    rw [List.foldl_cons]
    rcases List.mem_cons.1 ha with rfl | ha
    · rw [foldl_read_of_not_mem f cell read hframe L _ _ hnd.1, hvalue s a v hv]
    · exact foldl_read_cell π value hframe hπ hvalue L _ hnd.2 a ha v (by rw [hπ]; exact hv)

end LastWrite

@[simp] theorem Coupling.set_processSolutions_self (s : Coupling V) (processId globalId : Nat) (v : V) :
    (s.set processId globalId v).processSolutions processId globalId = v := by
  simp [Coupling.set]

theorem componentBranch_updating_aqueousSolutions (localId globalId : Nat) (entry : Nat × String)
    (t : Coupling V) :
    (componentBranch .updatingProcessSolutions localId globalId entry t).1.aqueousSolutions =
      t.aqueousSolutions := by
  unfold componentBranch; split <;> rfl

section SettingAfterUpdating

variable [Neg V] (cm : Cmath V)

/-- The value the updating loop body leaves in the transport vector cell of `entry`, when it writes
one: `pow(10, -pH)` for `"H"`, else the amount of the first component of that name. -/
def updatedValue (sol : AqueousSolution V) (entry : Nat × String) : Option V :=
  if entry.2 = "H" then some (cm.pow10 (-sol.pH))
  else (sol.components.find? (·.name == entry.2)).map (·.amount)

theorem entryState_updating_cell (localId globalId : Nat) (t : Coupling V) (entry : Nat × String)
    (v : V) (hv : updatedValue cm (t.aqueousSolutions localId) entry = some v) :
    (entryState cm .updatingProcessSolutions localId globalId t entry).processSolutions entry.1
      globalId = v := by
  unfold entryState hydrogenBranch updatedValue at *
  split_ifs with hH
  · rw [if_pos hH, Option.some.injEq] at hv
    dsimp only
    rw [Coupling.set_processSolutions_self, componentBranch_updating_aqueousSolutions, hv]
  · rw [if_neg hH, Option.map_eq_some'] at hv
    obtain ⟨c, hc, rfl⟩ := hv
    unfold componentBranch
    rw [hc]
    exact Coupling.set_processSolutions_self _ _ _ _

theorem settingEntry_of_updatedValue (ps : Nat → Nat → V) (globalId : Nat) (sol : AqueousSolution V)
    (entry : Nat × String) (hps : ∀ v, updatedValue cm sol entry = some v → ps entry.1 globalId = v)
    (hH : entry.2 = "H" → entry.2 ∉ sol.components.map (·.name) ∧
      -cm.log10 (cm.pow10 (-sol.pH)) = sol.pH) :
    settingEntry cm ps globalId sol entry = sol := by
  unfold settingEntry
  by_cases hn : entry.2 = "H"
  · obtain ⟨hmem, hpH⟩ := hH hn
    rw [if_neg hmem, if_pos hn, hps _ (if_pos hn), hpH]
  · rw [if_neg hn]
    split_ifs with hmem
    · obtain ⟨c, hc⟩ : ∃ c, sol.components.find? (·.name == entry.2) = some c := by
        rw [← Option.isSome_iff_exists, ← Option.ne_none_iff_isSome, Ne, find?_name_eq_none]
        exact not_not.2 hmem
      have hv := hps c.amount (by rw [updatedValue, if_neg hn, hc]; rfl)
      simp only [AqueousSolution.setAmount, hv]
      rw [updateFirst_of_find? _ _ _ hc rfl]
    · rfl

theorem runPass_updating_pairs (io : PhreeqcIO V) (s : Coupling V) :
    (runPass cm .updatingProcessSolutions io s).1 =
      ((List.range io.mesh.numberOfBaseNodes).flatMap fun k =>
          io.processIdToComponentNameMap.map (k, ·)).foldl
        (fun t ke => entryState cm .updatingProcessSolutions ke.1 (io.mesh.bulkNodeIds ke.1) t ke.2) s := by
  rw [runPass_eq, List.flatMap_def, List.foldl_flatten, List.foldl_map]
  simp only [List.foldl_map]

theorem runPass_updating_cell (io : PhreeqcIO V) (s : Coupling V)
    (hids : (io.processIdToComponentNameMap.map Prod.fst).Nodup)
    (hinj : ∀ k < io.mesh.numberOfBaseNodes, ∀ k' < io.mesh.numberOfBaseNodes,
      io.mesh.bulkNodeIds k = io.mesh.bulkNodeIds k' → k = k')
    (k : Nat) (hk : k < io.mesh.numberOfBaseNodes) (e : Nat × String)
    (he : e ∈ io.processIdToComponentNameMap) (v : V)
    (hv : updatedValue cm (s.aqueousSolutions k) e = some v) :
    (runPass cm .updatingProcessSolutions io s).1.processSolutions e.1 (io.mesh.bulkNodeIds k) = v := by
  have hcells : (((List.range io.mesh.numberOfBaseNodes).flatMap fun k =>
      io.processIdToComponentNameMap.map (k, ·)).map
        fun ke : Nat × (Nat × String) => (ke.2.1, io.mesh.bulkNodeIds ke.1)).Nodup := by
    rw [List.map_flatMap, List.nodup_flatMap]
    refine ⟨fun k _ => ?_, ?_⟩
    · rw [List.map_map]
      exact List.Nodup.of_map Prod.fst (by simpa [List.map_map, Function.comp_def] using hids)
    · refine (List.nodup_range _).imp_of_mem fun {a b} ha hb hab => ?_
      simp only [Function.onFun, List.disjoint_left, List.map_map, List.mem_map, Function.comp_def]
      rintro _ ⟨e, -, rfl⟩ ⟨e', -, he'⟩
      exact hab (hinj b (List.mem_range.1 hb) a (List.mem_range.1 ha) (Prod.mk.inj he').2).symm
  rw [runPass_updating_pairs]
  exact foldl_read_cell (fun t ke => entryState cm .updatingProcessSolutions ke.1
      (io.mesh.bulkNodeIds ke.1) t ke.2) (fun ke => (ke.2.1, io.mesh.bulkNodeIds ke.1))
    (fun t c => t.processSolutions c.1 c.2) Coupling.aqueousSolutions
    (fun ke sols => updatedValue cm (sols ke.1) ke.2)
    (fun t ke c hc => entryState_updating_processSolutions cm _ _ t _ hc)
    (fun t ke => entryState_updating_aqueousSolutions cm _ _ t _)
    (fun t ke v hv => entryState_updating_cell cm _ _ t _ v hv) _ s hcells (k, e)
    (List.mem_flatMap.2 ⟨k, List.mem_range.2 hk, List.mem_map_of_mem _ he⟩) v hv

theorem setting_after_updating_of_inverse (io : PhreeqcIO V) (ps : Nat → Nat → V)
    (hids : (io.processIdToComponentNameMap.map Prod.fst).Nodup)
    (hinj : ∀ k < io.mesh.numberOfBaseNodes, ∀ k' < io.mesh.numberOfBaseNodes,
      io.mesh.bulkNodeIds k = io.mesh.bulkNodeIds k' → k = k')
    (hH : ∀ k < io.mesh.numberOfBaseNodes, "H" ∈ io.processIdToComponentNameMap.map Prod.snd →
      "H" ∉ (io.aqueousSolutions k).components.map (·.name) ∧
        -cm.log10 (cm.pow10 (-(io.aqueousSolutions k).pH)) = (io.aqueousSolutions k).pH) :
    (setAqueousSolutionsOrUpdateProcessSolutions cm
      (setAqueousSolutionsOrUpdateProcessSolutions cm io ps .updatingProcessSolutions).1
      (setAqueousSolutionsOrUpdateProcessSolutions cm io ps .updatingProcessSolutions).2
      .settingAqueousSolutions).1 = io := by
  rw [updating_fst]
  simp only [setAqueousSolutionsOrUpdateProcessSolutions, runPass_setting]
  suffices h : ∀ k < io.mesh.numberOfBaseNodes, io.processIdToComponentNameMap.foldl
      (settingEntry cm (runPass cm .updatingProcessSolutions io ⟨io.aqueousSolutions, ps⟩).1.processSolutions
        (io.mesh.bulkNodeIds k)) (io.aqueousSolutions k) = io.aqueousSolutions k by
    have hfun : (fun k => if k < io.mesh.numberOfBaseNodes then io.processIdToComponentNameMap.foldl
        (settingEntry cm (runPass cm .updatingProcessSolutions io ⟨io.aqueousSolutions, ps⟩).1.processSolutions
          (io.mesh.bulkNodeIds k)) (io.aqueousSolutions k) else io.aqueousSolutions k) =
        io.aqueousSolutions := by
      funext k; split_ifs with hk
      · exact h k hk
      · rfl
    rw [hfun]
  intro k hk
  refine List.foldlRecOn (motive := (· = io.aqueousSolutions k)) _ _ _ rfl ?_
  intro sol hsol e he
  subst hsol
  exact settingEntry_of_updatedValue cm _ _ _ e
    (runPass_updating_cell cm io ⟨io.aqueousSolutions, ps⟩ hids hinj k hk e he)
    fun h => h ▸ hH k hk (h ▸ List.mem_map_of_mem _ he)

end SettingAfterUpdating

/-- Updating then setting over the reals, with `std::log10` and `std::pow(10, ·)`. Every aqueous
solution comes back, provided process ids and bulk node ids are pairwise distinct and, where `"H"`
is mapped, no solution has a component named `"H"`. -/
theorem setting_after_updating (io : PhreeqcIO ℝ) (ps : Nat → Nat → ℝ)
    (hids : (io.processIdToComponentNameMap.map Prod.fst).Nodup)
    (hinj : ∀ k < io.mesh.numberOfBaseNodes, ∀ k' < io.mesh.numberOfBaseNodes,
      io.mesh.bulkNodeIds k = io.mesh.bulkNodeIds k' → k = k')
    (hH : ∀ k < io.mesh.numberOfBaseNodes, "H" ∈ io.processIdToComponentNameMap.map Prod.snd →
      "H" ∉ (io.aqueousSolutions k).components.map (·.name)) :
    let cm : Cmath ℝ := ⟨Real.logb 10, fun x => (10 : ℝ) ^ x⟩
    (setAqueousSolutionsOrUpdateProcessSolutions cm
      (setAqueousSolutionsOrUpdateProcessSolutions cm io ps .updatingProcessSolutions).1
      (setAqueousSolutionsOrUpdateProcessSolutions cm io ps .updatingProcessSolutions).2
      .settingAqueousSolutions).1 = io :=
  setting_after_updating_of_inverse _ io ps hids hinj fun k hk h =>
    ⟨hH k hk h, show -Real.logb 10 ((10 : ℝ) ^ (-(io.aqueousSolutions k).pH)) = _ by
      rw [Real.logb_rpow (by norm_num) (by norm_num), neg_neg]⟩

/-- Updating then setting on one chemical system with a calcium and a hydrogen transport variable. -/
theorem setting_after_updating_witness :
    let io : PhreeqcIO ℝ :=
      { phreeqcInputFile := "", mesh := ⟨1, id⟩, database := "",
        aqueousSolutions := fun _ => ⟨7, 4, [⟨"Ca", 1 / 1000⟩]⟩, equilibriumPhases := [],
        kineticReactants := [], reactionRates := [], surface := [], userPunch := none,
        output := ⟨"", [], []⟩, dump := none, knobs := "",
        processIdToComponentNameMap := [(0, "Ca"), (1, "H")], dt := 0 }
    let ps : Nat → Nat → ℝ := fun _ _ => 0
    let cm : Cmath ℝ := ⟨Real.logb 10, fun x => (10 : ℝ) ^ x⟩
    ((io.processIdToComponentNameMap.map Prod.fst).Nodup ∧
      (∀ k < io.mesh.numberOfBaseNodes, ∀ k' < io.mesh.numberOfBaseNodes,
        io.mesh.bulkNodeIds k = io.mesh.bulkNodeIds k' → k = k') ∧
      ∀ k < io.mesh.numberOfBaseNodes, "H" ∈ io.processIdToComponentNameMap.map Prod.snd →
        "H" ∉ (io.aqueousSolutions k).components.map (·.name)) ∧
    (setAqueousSolutionsOrUpdateProcessSolutions cm
      (setAqueousSolutionsOrUpdateProcessSolutions cm io ps .updatingProcessSolutions).1
      (setAqueousSolutionsOrUpdateProcessSolutions cm io ps .updatingProcessSolutions).2
      .settingAqueousSolutions).1 = io :=
  ⟨⟨by decide, fun _ _ _ _ h => h, fun _ _ _ => by simp⟩,
    setting_after_updating _ _ (by decide) (fun _ _ _ _ h => h) fun _ _ _ => by simp⟩

end Ogs.ChemistryLib
