/-
One data row of the result table, as `operator>>(std::istream&, PhreeqcIO&)` reads it: its kept
items converted with `std::stod`, then each value routed by its schema entry into the solution of
the system or into the system's entry of a per-node array. A failure is an `OGS_FATAL`, an
`assert` of a build that keeps assertions (`ndebug = false`) or undefined behaviour.
-/
import OgsProofs.ChemistryLib.Data
import OgsProofs.ChemistryLib.Stod
import Mathlib.Data.List.Forall2

namespace Ogs.ChemistryLib

variable {V : Type}

/-! ## Failures -/

/-- How `operator>>` stops. `undefined` stands for undefined behaviour: an index of
`output.accepted_items` past its end, or a null `user_punch` where assertions are compiled out.
The code promises nothing there, so the state such a failure carries is the model's only. -/
inductive ReadError
  | missingResult (globalId : Nat)
  | invalidArgument (item : String) (globalId column : Nat)
  | outOfRange (item : String) (globalId column : Nat)
  | notFound (message : String)
  | assertion (condition : String)
  | undefined
  deriving DecidableEq, Repr

/-- The message of an `OGS_FATAL` or the condition of a failed `assert`; `e.what()` of the
exceptions of `std::stod` is `stod`. -/
def ReadError.message : ReadError → Option String
  | .missingResult globalId =>
    some s!"Error when reading calculation result of Solution {globalId} after the reaction."
  | .invalidArgument item globalId column =>
    some s!"Invalid argument. Could not convert string '{item}' to double for chemical system {globalId}, column {column}. Exception 'stod' was thrown."
  | .outOfRange item globalId column =>
    some s!"Out of range error. Could not convert string '{item}' to double for chemical system {globalId}, column {column}. Exception 'stod' was thrown."
  | .notFound message => some message
  | .assertion condition => some condition
  | .undefined => none

/-! ## Converting a row -/

section Convert

variable (toDouble : String → Option V) (dropped : List Int) (globalId : Nat)

/-- The items of a row whose column, counted from `itemId`, is not in `dropped_item_ids`. -/
def keptItems : Nat → List String → List String
  | _, [] => []
  | itemId, item :: items =>
    if (itemId : Int) ∈ dropped then keptItems (itemId + 1) items
    else item :: keptItems (itemId + 1) items

/-- The two `catch` clauses around `std::stod`. -/
def conversionError (item : String) (column : Nat) : StodError → ReadError
  | .invalidArgument => .invalidArgument item globalId column
  | .outOfRange => .outOfRange item globalId column

/-- The first loop over a row's items: each column not in `dropped_item_ids` is converted with
`std::stod`, in order, and the first that fails is fatal. -/
def acceptItems : Nat → List String → Except ReadError (List V)
  | _, [] => .ok []
  | itemId, item :: items =>
    if (itemId : Int) ∈ dropped then acceptItems (itemId + 1) items
    else match stod toDouble item with
      | .error x => .error (conversionError globalId item itemId x)
      | .ok value => (acceptItems (itemId + 1) items).map (value :: ·)

theorem acceptItems_eq_ok_iff : ∀ (itemId : Nat) (items : List String) (values : List V),
    acceptItems toDouble dropped globalId itemId items = .ok values ↔
      List.Forall₂ (NumericPrefix toDouble) (keptItems dropped itemId items) values
  | _, [], values => by
    simp only [acceptItems, keptItems, List.forall₂_nil_left_iff, Except.ok.injEq, eq_comm]
  | itemId, item :: items, values => by
    unfold acceptItems keptItems
    split_ifs
    · exact acceptItems_eq_ok_iff (itemId + 1) items values
    · rw [List.forall₂_cons_left_iff]
      simp only [← stod_eq_ok_iff, ← acceptItems_eq_ok_iff (itemId + 1) items]
      cases stod toDouble item with
      | error e => cases e <;> simp
      | ok v =>
        cases acceptItems toDouble dropped globalId (itemId + 1) items <;>
          simp [Except.map, eq_comm]

/-- A failed conversion reports the first kept item without a numeral in range, with its
system and its column: the kept items before it convert. -/
theorem acceptItems_error : ∀ (itemId : Nat) (items : List String) (e : ReadError),
    acceptItems toDouble dropped globalId itemId items = .error e →
      ∃ column item x, itemId ≤ column ∧ items[column - itemId]? = some item ∧
        ¬ (column : Int) ∈ dropped ∧ stod toDouble item = .error x ∧
        e = conversionError globalId item column x ∧
        ∃ values, acceptItems toDouble dropped globalId itemId (items.take (column - itemId)) = .ok values
  | _, [], e, h => by cases h
  | itemId, item :: items, e, h => by
    have hnext (hhead : (itemId : Int) ∈ dropped ∨ ∃ v, stod toDouble item = .ok v)
        (hr : acceptItems toDouble dropped globalId (itemId + 1) items = .error e) :
        ∃ column item' x, itemId ≤ column ∧ (item :: items)[column - itemId]? = some item' ∧
          ¬ (column : Int) ∈ dropped ∧ stod toDouble item' = .error x ∧
          e = conversionError globalId item' column x ∧ ∃ values,
            acceptItems toDouble dropped globalId itemId ((item :: items).take (column - itemId)) = .ok values := by
      obtain ⟨column, item', x, hle, hc, hd, hs, he, values, hv⟩ := acceptItems_error (itemId + 1) items e hr
      have hsub : column - itemId = column - (itemId + 1) + 1 := by omega
      refine ⟨column, item', x, by omega, by rwa [hsub, List.getElem?_cons_succ], hd, hs, he, ?_⟩
      rw [hsub, List.take_succ_cons, acceptItems]
      by_cases hdrop : (itemId : Int) ∈ dropped
      · exact ⟨values, by rw [if_pos hdrop, hv]⟩
      · obtain ⟨v, hv'⟩ := hhead.resolve_left hdrop
        exact ⟨v :: values, by rw [if_neg hdrop, hv', hv]; rfl⟩
    unfold acceptItems at h
    split_ifs at h with hd
    · exact hnext (.inl hd) h
    · cases hs : stod toDouble item with
      | error x =>
        rw [hs] at h; cases h
        exact ⟨itemId, item, x, le_rfl, by simp, hd, hs, rfl, [], by simp [acceptItems]⟩
      | ok v =>
        rw [hs] at h
        cases hr : acceptItems toDouble dropped globalId (itemId + 1) items with
        | error x => rw [hr] at h; cases h; exact hnext (.inr ⟨v, hs⟩) hr
        | ok vs => rw [hr] at h; cases h

end Convert

theorem acceptItems_error_second_column :
    acceptItems (some : String → Option String) [] 0 0 ["7.0", "x"] = .error (.invalidArgument "x" 0 1) ∧
      ∃ (column : Nat) (item : String) (x : StodError), 0 ≤ column ∧ ["7.0", "x"][column - 0]? = some item ∧
        ¬ (column : Int) ∈ ([] : List Int) ∧ stod (some : String → Option String) item = .error x ∧
        ReadError.invalidArgument "x" 0 1 = conversionError 0 item column x ∧
        ∃ values, acceptItems (some : String → Option String) [] 0 0
          (["7.0", "x"].take (column - 0)) = .ok values :=
  ⟨rfl, acceptItems_error some [] 0 0 ["7.0", "x"] (.invalidArgument "x" 0 1) rfl⟩

/-! ## Storing one value -/

/-- Applies `f` to solution `localId`. -/
def PhreeqcIO.updateSolution (io : PhreeqcIO V) (localId : Nat)
    (f : AqueousSolution V → AqueousSolution V) : PhreeqcIO V :=
  { io with aqueousSolutions :=
      Function.update io.aqueousSolutions localId (f (io.aqueousSolutions localId)) }

/-- `BaseLib::findElementOrError` with the assignment through the reference it returns: `f`
updates the first element satisfying `p`; without one it is `OGS_FATAL(error_message)`. -/
def findElementOrError {α : Type} (l : List α) (p : α → Bool) (errorMessage : String)
    (f : α → α) : Except ReadError (List α) :=
  if l.any p then .ok (updateFirst p f l) else .error (.notFound errorMessage)

/-- One case of the `switch` on `accepted_item.item_type`: `value` stored for system `localId`,
at bulk node `globalId` in the per-node arrays. -/
def storeItem (ndebug : Bool) (localId globalId : Nat) (item : OutputItem) (value : V)
    (io : PhreeqcIO V) : Except ReadError ( PhreeqcIO V) :=
  match item.itemType with
  | .pH => .ok (io.updateSolution localId fun s => { s with pH := value })
  | .pe => .ok (io.updateSolution localId fun s => { s with pe := value })
  | .component =>
    (findElementOrError (io.aqueousSolutions localId).components (·.name == item.name)
        ("Could not find component '" ++ item.name ++ "'.")
        fun c => { c with amount := value }).map
      fun components => io.updateSolution localId fun s => { s with components := components }
  | .equilibriumPhase =>
    (findElementOrError io.equilibriumPhases (·.name == item.name)
        ("Could not find equilibrium phase '" ++ item.name ++ "'.")
        fun p => { p with amount := Function.update p.amount globalId value }).map
      fun phases => { io with equilibriumPhases := phases }
  | .kineticReactant =>
    (findElementOrError io.kineticReactants (·.name == item.name)
        ("Could not find kinetic reactant '" ++ item.name ++ "'.")
        fun r => { r with amount := Function.update r.amount globalId value }).map
      fun reactants => { io with kineticReactants := reactants }
  | .secondaryVariable =>
    match io.userPunch with
    | none => .error (if ndebug then .undefined else .assertion "user_punch")
    | some userPunch =>
      (findElementOrError userPunch.secondaryVariables (·.name == item.name)
          ("Could not find secondary variable '" ++ item.name ++ "'.")
          fun v => { v with value := Function.update v.value globalId value }).map
        fun updated => { io with userPunch := some { userPunch with secondaryVariables := updated } }

/-- The names the routing looks up. -/
structure LookupNames where
  components : Nat → List String
  equilibriumPhases : List String
  kineticReactants : List String
  secondaryVariables : Option (List String)

def PhreeqcIO.lookupNames (io : PhreeqcIO V) : LookupNames :=
  ⟨fun k => (io.aqueousSolutions k).components.map (·.name), io.equilibriumPhases.map (·.name),
    io.kineticReactants.map (·.name), io.userPunch.map fun u => u.secondaryVariables.map (·.name)⟩

/-- Schema entry `item` finds the entity it names for system `localId`. -/
def LookupNames.Resolves (names : LookupNames) (localId : Nat) (item : OutputItem) : Prop :=
  match item.itemType with
  | .pH | .pe => True
  | .component => item.name ∈ names.components localId
  | .equilibriumPhase => item.name ∈ names.equilibriumPhases
  | .kineticReactant => item.name ∈ names.kineticReactants
  | .secondaryVariable => item.name ∈ names.secondaryVariables.getD []

instance (names : LookupNames) (localId : Nat) (item : OutputItem) :
    Decidable (names.Resolves localId item) := by
  unfold LookupNames.Resolves; split <;> infer_instance

/-- Storing `value` under schema entry `item` as the specification describes it: into pH or pe of
solution `localId`, into the amount of its first component of that name, or into entry
`globalId` of the array of the first equilibrium phase, kinetic reactant or secondary variable of
that name. -/
def storeEntry (localId globalId : Nat) (io : PhreeqcIO V) : OutputItem × V → PhreeqcIO V
  | (item, value) =>
    match item.itemType with
    | .pH => io.updateSolution localId fun s => { s with pH := value }
    | .pe => io.updateSolution localId fun s => { s with pe := value }
    | .component => io.updateSolution localId fun s =>
      { s with components :=
          updateFirst (·.name == item.name) (fun c => { c with amount := value }) s.components }
    | .equilibriumPhase =>
      let store := fun p : EquilibriumPhase V => { p with amount := Function.update p.amount globalId value }
      { io with equilibriumPhases := updateFirst (·.name == item.name) store io.equilibriumPhases }
    | .kineticReactant =>
      let store := fun r : KineticReactant V => { r with amount := Function.update r.amount globalId value }
      { io with kineticReactants := updateFirst (·.name == item.name) store io.kineticReactants }
    | .secondaryVariable =>
      let store := fun v : SecondaryVariable V => { v with value := Function.update v.value globalId value }
      { io with userPunch := io.userPunch.map fun u =>
          { u with secondaryVariables := updateFirst (·.name == item.name) store u.secondaryVariables } }

section Store

variable {α : Type} (name : α → String) (n : String)

theorem any_name_iff (l : List α) : l.any (name · == n) = true ↔ n ∈ l.map name := by
  simp only [List.any_eq_true, beq_iff_eq, List.mem_map]

theorem findElementOrError_of_mem (l : List α) (f : α → α) (message : String)
    (h : n ∈ l.map name) :
    findElementOrError l (name · == n) message f = .ok (updateFirst (name · == n) f l) := by
  rw [findElementOrError, if_pos ((any_name_iff name n l).2 h)]

theorem findElementOrError_of_not_mem (l : List α) (f : α → α) (message : String)
    (h : n ∉ l.map name) :
    findElementOrError l (name · == n) message f = .error (.notFound message) := by
  rw [findElementOrError, if_neg (mt (any_name_iff name n l).1 h)]

end Store

section Routing

variable (ndebug : Bool) (localId globalId : Nat)

theorem storeItem_eq_ok_of_resolves (io : PhreeqcIO V) (item : OutputItem) (value : V)
    (h : io.lookupNames.Resolves localId item) :
    storeItem ndebug localId globalId item value io = .ok (storeEntry localId globalId io (item, value)) := by
  cases ht : item.itemType <;>
    simp only [LookupNames.Resolves, PhreeqcIO.lookupNames, ht] at h <;>
    simp only [storeItem, storeEntry, ht]
  · rw [findElementOrError_of_mem _ _ _ _ _ h]; rfl
  · rw [findElementOrError_of_mem _ _ _ _ _ h]; rfl
  · rw [findElementOrError_of_mem _ _ _ _ _ h]; rfl
  · cases hu : io.userPunch with
    | none => simp [hu] at h
    | some u =>
      simp only [hu, Option.map_some', Option.getD_some] at h ⊢
      rw [findElementOrError_of_mem _ _ _ _ _ h]; rfl

theorem storeItem_of_not_resolves (io : PhreeqcIO V) (item : OutputItem) (value : V)
    (h : ¬ io.lookupNames.Resolves localId item) :
    ∃ e, storeItem ndebug localId globalId item value io = .error e := by
  cases ht : item.itemType <;>
    simp only [LookupNames.Resolves, PhreeqcIO.lookupNames, ht, not_true_eq_false] at h <;>
    simp only [storeItem, ht]
  · rw [findElementOrError_of_not_mem _ _ _ _ _ h]; exact ⟨_, rfl⟩
  · rw [findElementOrError_of_not_mem _ _ _ _ _ h]; exact ⟨_, rfl⟩
  · rw [findElementOrError_of_not_mem _ _ _ _ _ h]; exact ⟨_, rfl⟩
  · cases hu : io.userPunch with
    | none => exact ⟨_, rfl⟩
    | some u =>
      simp only [hu, Option.map_some', Option.getD_some] at h ⊢
      rw [findElementOrError_of_not_mem _ _ _ _ _ h]; exact ⟨_, rfl⟩

theorem storeItem_spec (io : PhreeqcIO V) (item : OutputItem) (value : V) (io' : PhreeqcIO V)
    (h : storeItem ndebug localId globalId item value io = .ok io') :
    io' = storeEntry localId globalId io (item, value) := by
  by_cases hr : io.lookupNames.Resolves localId item
  · rw [storeItem_eq_ok_of_resolves ndebug localId globalId io item value hr] at h
    exact (Except.ok.inj h).symm
  · obtain ⟨e, he⟩ := storeItem_of_not_resolves ndebug localId globalId io item value hr
    rw [he] at h; cases h

/-! ## What a row leaves unchanged -/

/-- The entries of a per-node array other than entry `globalId`. -/
def maskAt (globalId : Nat) (f : Nat → V) (g : Nat) : Option V :=
  if g = globalId then none else some (f g)

@[simp] theorem maskAt_update (f : Nat → V) (value : V) :
    maskAt globalId (Function.update f globalId value) = maskAt globalId f := by
  funext g; by_cases h : g = globalId <;> simp [maskAt, h]

/-- The members of `PhreeqcIO` no result row writes. -/
def PhreeqcIO.otherMembers (io : PhreeqcIO V) :=
  (io.phreeqcInputFile, io.mesh, io.database, io.reactionRates, io.surface, io.output, io.dump,
    io.knobs, io.processIdToComponentNameMap, io.dt)

/-- What storing a row of system `localId` at bulk node `globalId` leaves as it is: the other
solutions, every name, the other entries of the per-node arrays and the other members. -/
structure RowFrame (io io' : PhreeqcIO V) : Prop where
  solutions : ∀ k, k ≠ localId → io'.aqueousSolutions k = io.aqueousSolutions k
  names : io'.lookupNames = io.lookupNames
  phases : io'.equilibriumPhases.map (maskAt globalId ·.amount) =
    io.equilibriumPhases.map (maskAt globalId ·.amount)
  reactants : io'.kineticReactants.map (maskAt globalId ·.amount) =
    io.kineticReactants.map (maskAt globalId ·.amount)
  secondaryVariables : io'.userPunch.map (·.secondaryVariables.map (maskAt globalId ·.value)) =
    io.userPunch.map (·.secondaryVariables.map (maskAt globalId ·.value))
  members : io'.otherMembers = io.otherMembers

theorem RowFrame.refl {k g : Nat} (io : PhreeqcIO V) : RowFrame k g io io :=
  ⟨fun _ _ => rfl, rfl, rfl, rfl, rfl, rfl⟩

theorem RowFrame.trans {k g : Nat} {io io' io'' : PhreeqcIO V} (h₁ : RowFrame k g io io')
    (h₂ : RowFrame k g io' io'') : RowFrame k g io io'' :=
  ⟨fun k hk => (h₂.solutions k hk).trans (h₁.solutions k hk), h₂.names.trans h₁.names,
    h₂.phases.trans h₁.phases, h₂.reactants.trans h₁.reactants,
    h₂.secondaryVariables.trans h₁.secondaryVariables, h₂.members.trans h₁.members⟩

theorem rowFrame_updateSolution (io : PhreeqcIO V) (f : AqueousSolution V → AqueousSolution V)
    (hf : ∀ s, (f s).components.map (·.name) = s.components.map (·.name)) :
    RowFrame localId globalId io (io.updateSolution localId f) := by
  refine ⟨fun k hk => Function.update_noteq hk _ _, ?_, rfl, rfl, rfl, rfl⟩
  simp only [ PhreeqcIO.lookupNames, PhreeqcIO.updateSolution, LookupNames.mk.injEq, and_true]
  funext k
  by_cases hk : k = localId
  · subst hk; simp [hf]
  · simp [Function.update_noteq hk]

theorem rowFrame_storeEntry (io : PhreeqcIO V) (entry : OutputItem × V) :
    RowFrame localId globalId io (storeEntry localId globalId io entry) := by
  obtain ⟨item, value⟩ := entry
  cases ht : item.itemType <;> simp only [storeEntry, ht]
  · exact rowFrame_updateSolution localId globalId io _ fun _ => rfl
  · exact rowFrame_updateSolution localId globalId io _ fun _ => rfl
  · exact rowFrame_updateSolution localId globalId io _ fun _ => by simp [map_updateFirst]
  · exact ⟨fun _ _ => rfl, by simp [ PhreeqcIO.lookupNames, map_updateFirst],
      by simp [map_updateFirst], rfl, rfl, rfl⟩
  · exact ⟨fun _ _ => rfl, by simp [ PhreeqcIO.lookupNames, map_updateFirst], rfl,
      by simp [map_updateFirst], rfl, rfl⟩
  · refine ⟨fun _ _ => rfl, ?_, rfl, rfl, ?_, rfl⟩ <;> cases hu : io.userPunch <;>
      simp [ PhreeqcIO.lookupNames, hu, map_updateFirst]

theorem rowFrame_foldl (entries : List (OutputItem × V)) :
    ∀ io, RowFrame localId globalId io (entries.foldl (storeEntry localId globalId) io) := by
  induction entries with
  | nil => exact RowFrame.refl
  | cons entry entries ih =>
    exact fun io => (rowFrame_storeEntry localId globalId io entry).trans (ih _)

/-! ## The loop over a row's values -/

theorem drop_eq_cons_of_getElem? {α : Type} {l : List α} {n : Nat} {a : α} (h : l[n]? = some a) :
    l.drop n = a :: l.drop (n + 1) := by
  obtain ⟨hn, rfl⟩ := List.getElem?_eq_some_iff.1 h
  exact List.drop_eq_getElem_cons hn

section Route

variable (schema : List OutputItem)

/-- The second loop: the value of position `itemId` is routed by `output.accepted_items[item_id]`,
read without a bound check, so a row longer than the schema has undefined behaviour. -/
def routeItems : Nat → List V → PhreeqcIO V → Except (ReadError × PhreeqcIO V) ( PhreeqcIO V)
  | _, [], io => .ok io
  | itemId, value :: values, io =>
    match schema[itemId]? with
    | none => .error (.undefined, io)
    | some item =>
      match storeItem ndebug localId globalId item value io with
      | .error e => .error (e, io)
      | .ok io => routeItems (itemId + 1) values io

theorem routeItems_ok : ∀ (itemId : Nat) (values : List V) (io io' : PhreeqcIO V),
    routeItems ndebug localId globalId schema itemId values io = .ok io' →
      io' = ((schema.drop itemId).zip values).foldl (storeEntry localId globalId) io
  | _, [], io, io', h => by cases h; simp
  | itemId, value :: values, io, io', h => by
    unfold routeItems at h
    cases hi : schema[itemId]? with
    | none => simp only [hi] at h; cases h
    | some item =>
      cases hs : storeItem ndebug localId globalId item value io with
      | error e => simp only [hi, hs] at h; cases h
      | ok io₁ =>
        simp only [hi, hs] at h
        rw [drop_eq_cons_of_getElem? hi, List.zip_cons_cons, List.foldl_cons,
          ← storeItem_spec ndebug localId globalId io item value io₁ hs]
        exact routeItems_ok (itemId + 1) values io₁ io' h

/-- A routing failure at position `j` leaves the entries before it stored. It is an index of the
schema past its end, which is undefined behaviour, or the failure of storing value `j` under
schema entry `j` on that state. -/
theorem routeItems_error : ∀ (itemId : Nat) (values : List V) (io io' : PhreeqcIO V) (e : ReadError),
    routeItems ndebug localId globalId schema itemId values io = .error (e, io') →
      ∃ j < values.length, io' =
        (((schema.drop itemId).zip values).take j).foldl (storeEntry localId globalId) io ∧
        (e = .undefined ∨ ∃ item value, schema[itemId + j]? = some item ∧ values[j]? = some value ∧
          storeItem ndebug localId globalId item value io' = .error e)
  | _, [], io, io', e, h => by cases h
  | itemId, value :: values, io, io', e, h => by
    unfold routeItems at h
    cases hi : schema[itemId]? with
    | none => simp only [hi] at h; cases h; exact ⟨0, by simp, by simp, .inl rfl⟩
    | some item =>
      cases hs : storeItem ndebug localId globalId item value io with
      | error x =>
        simp only [hi, hs] at h; cases h
        exact ⟨0, by simp, by simp, .inr ⟨item, value, hi, List.getElem?_cons_zero, hs⟩⟩
      | ok io₁ =>
        simp only [hi, hs] at h
        obtain ⟨j, hj, rfl, hr⟩ := routeItems_error (itemId + 1) values io₁ io' e h
        refine ⟨j + 1, by simp [hj], ?_, ?_⟩
        · rw [drop_eq_cons_of_getElem? hi, List.zip_cons_cons, List.take_succ_cons, List.foldl_cons,
            ← storeItem_spec ndebug localId globalId io item value io₁ hs]
        · rwa [show itemId + (j + 1) = itemId + 1 + j by omega, List.getElem?_cons_succ]

theorem routeItems_eq_ok (names : LookupNames)
    (hresolve : ∀ item ∈ schema, names.Resolves localId item) :
    ∀ (itemId : Nat) (values : List V) (io : PhreeqcIO V), io.lookupNames = names →
      itemId + values.length ≤ schema.length →
      routeItems ndebug localId globalId schema itemId values io =
        .ok (((schema.drop itemId).zip values).foldl (storeEntry localId globalId) io)
  | _, [], io, _, _ => by simp [routeItems]
  | itemId, value :: values, io, hnames, hlen => by
    have hlt : itemId < schema.length := by simp only [List.length_cons] at hlen; omega
    have hi : schema[itemId]? = some schema[itemId] := List.getElem?_eq_getElem hlt
    have hres : io.lookupNames.Resolves localId schema[itemId] :=
      hnames ▸ hresolve _ (List.getElem_mem hlt)
    rw [routeItems, hi]
    simp only [storeItem_eq_ok_of_resolves ndebug localId globalId io _ value hres]
    rw [drop_eq_cons_of_getElem? hi, List.zip_cons_cons, List.foldl_cons]
    exact routeItems_eq_ok names hresolve (itemId + 1) values _
      ((rowFrame_storeEntry localId globalId io _).names.trans hnames)
      (by simp only [List.length_cons] at hlen; omega)

theorem routeItems_isOk_iff : ∀ (itemId : Nat) (values : List V) (io : PhreeqcIO V),
    (∃ io', routeItems ndebug localId globalId schema itemId values io = .ok io') ↔
      values.length ≤ (schema.drop itemId).length ∧
        ∀ item ∈ (schema.drop itemId).take values.length, io.lookupNames.Resolves localId item
  | _, [], io => by simp [routeItems]
  | itemId, value :: values, io => by
    unfold routeItems
    cases hi : schema[itemId]? with
    | none =>
      have hdrop : schema.drop itemId = [] := List.drop_eq_nil_of_le (List.getElem?_eq_none_iff.1 hi)
      simp [hdrop]
    | some item =>
      rw [drop_eq_cons_of_getElem? hi]
      by_cases hres : io.lookupNames.Resolves localId item
      · simp only [storeItem_eq_ok_of_resolves ndebug localId globalId io item value hres,
          routeItems_isOk_iff (itemId + 1) values,
          (rowFrame_storeEntry localId globalId io (item, value)).names]
        simp [hres]
      · obtain ⟨e, he⟩ := storeItem_of_not_resolves ndebug localId globalId io item value hres
        simp [he, hres]

end Route

end Routing

end Ogs.ChemistryLib
