/-
The data `PhreeqcIO` (ChemistryLib/PhreeqcIO.cpp) works on: the aqueous solution of every
chemical system, the per-node arrays of equilibrium phases, kinetic reactants and secondary
variables, the output schema, the optional dump and the mesh map from chemical systems to bulk
nodes. Doubles are an abstract type `V`. The `PhreeqcIOData` headers are not in the sources: each
record keeps the fields `PhreeqcIO` reads, and knobs, reaction rates and surface sites, which it
only prints, are kept as the text their `operator<<` writes.
-/
import Mathlib.Logic.Function.Basic

namespace Ogs.ChemistryLib

/-! ## Chemical entities -/

/-- A species of an aqueous solution with its concentration. -/
structure Component (V : Type) where
  name : String
  amount : V

/-- The aqueous solution of one chemical system. -/
structure AqueousSolution (V : Type) where
  pH : V
  pe : V
  components : List (Component V)

/-- An equilibrium phase; `amount` is the mesh property holding one value per bulk node. -/
structure EquilibriumPhase (V : Type) where
  name : String
  amount : Nat → V

/-- A kinetic reactant; `amount` holds one value per bulk node. -/
structure KineticReactant (V : Type) where
  name : String
  amount : Nat → V

/-- A quantity computed by the engine's `USER_PUNCH` block, one value per bulk node. -/
structure SecondaryVariable (V : Type) where
  name : String
  value : Nat → V

structure UserPunch (V : Type) where
  secondaryVariables : List (SecondaryVariable V)

/-! ## Output schema and dump -/

/-- What a column of the engine's result table holds. -/
inductive ItemType
  | pH
  | pe
  | component
  | equilibriumPhase
  | kineticReactant
  | secondaryVariable
  deriving DecidableEq, Repr

structure OutputItem where
  name : String
  itemType : ItemType
  deriving DecidableEq, Repr

/-- The `SELECTED_OUTPUT` setup: the result file, the expected columns (`accepted_items`) and
the raw column positions dropped before they are matched (`dropped_item_ids`). -/
structure Output where
  outputFile : String
  acceptedItems : List OutputItem
  droppedItemIds : List Int
  deriving DecidableEq, Repr

/-- The previous-state mechanism: the dump file and the solutions read back from it. -/
structure Dump (V : Type) where
  dumpFile : String
  aqueousSolutionsPrev : List (AqueousSolution V)

/-! ## The object -/

/-- The mesh as `PhreeqcIO` sees it: the number of chemical systems and the property
`bulk_node_ids`, the global id of each of them. -/
structure Mesh where
  numberOfBaseNodes : Nat
  bulkNodeIds : Nat → Nat

/-- The members of `PhreeqcIO`. `_aqueous_solutions` holds one solution per chemical system
and is indexed by local id; `_dt` is the step length `operator<<(double)` stores. -/
structure PhreeqcIO (V : Type) where
  phreeqcInputFile : String
  mesh : Mesh
  database : String
  aqueousSolutions : Nat → AqueousSolution V
  equilibriumPhases : List (EquilibriumPhase V)
  kineticReactants : List (KineticReactant V)
  reactionRates : List String
  surface : List String
  userPunch : Option (UserPunch V)
  output : Output
  dump : Option (Dump V)
  knobs : String
  processIdToComponentNameMap : List (Nat × String)
  dt : V

/-! ## Assignment through `std::find_if` -/

/-- Applies `f` to the first element satisfying `p`: an assignment through the iterator
`std::find_if` (or `findElementOrError`) returns. No element satisfying `p` leaves the list. -/
def updateFirst {α : Type} (p : α → Bool) (f : α → α) : List α → List α
  | [] => []
  | a :: l => if p a then f a :: l else a :: updateFirst p f l

section UpdateFirst

variable {α β : Type} (p : α → Bool) (f : α → α)

@[simp] theorem updateFirst_nil : updateFirst p f [] = [] := rfl

theorem updateFirst_cons (a : α) (l : List α) :
    updateFirst p f (a :: l) = if p a then f a :: l else a :: updateFirst p f l := rfl

theorem map_updateFirst (g : α → β) (hg : ∀ a, g (f a) = g a) (l : List α) :
    (updateFirst p f l).map g = l.map g := by
  induction l with
  | nil => rfl
  | cons a l ih => by_cases h : p a <;> simp [updateFirst_cons, h, hg, ih]

theorem updateFirst_of_find? {a : α} (l : List α) (h : l.find? p = some a) (ha : f a = a) :
    updateFirst p f l = l := by
  induction l with
  | nil => cases h
  | cons b l ih =>
    by_cases hb : p b
    · rw [List.find?_cons_of_pos _ hb, Option.some.injEq] at h
      subst h
      rw [updateFirst_cons, if_pos hb, ha]
    · rw [List.find?_cons_of_neg _ hb] at h
      rw [updateFirst_cons, if_neg hb, ih h]

end UpdateFirst

end Ogs.ChemistryLib
