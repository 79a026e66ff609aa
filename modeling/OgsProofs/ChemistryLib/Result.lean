/-
`operator>>(std::istream&, PhreeqcIO&)`: the engine's result table read back into the state. The
stream is the list of lines `std::getline` returns, so `ignore(max, '\n')` drops one line. The
loop over chemical systems is a `foldlM` over local ids; each pass skips the lines of the initial
solution, reads one data row and stores it, and a failure carries the state the object is left
in, except under undefined behaviour, where the code leaves none it promises. The build's `NDEBUG`
and `strtod`'s conversion are the parameters `ndebug` and `toDouble`.
-/
import OgsProofs.ChemistryLib.Row

namespace Ogs.ChemistryLib

variable {V : Type}

/-! ## The loop -/

/-- The body of the loop for system `localId` from its data row on: the kept items converted,
the arity `assert`, the values routed. -/
def readRow (ndebug : Bool) (toDouble : String → Option V) (output : Output)
    (localId globalId : Nat) (line : String) (io : PhreeqcIO V) :
    Except (ReadError × PhreeqcIO V) ( PhreeqcIO V) :=
  match acceptItems toDouble output.droppedItemIds globalId 0 (tokenize line) with
  | .error e => .error (e, io)
  | .ok acceptedItems =>
    if !ndebug && acceptedItems.length != output.acceptedItems.length then
      .error (.assertion "accepted_items.size() == output.accepted_items.size()", io)
    else routeItems ndebug localId globalId output.acceptedItems 0 acceptedItems io

/-- One pass of the loop over chemical systems: `numSkippedLines` lines skipped, the data row read
with `std::getline` and stored. The lines after the row are returned with the state. -/
def readSystem (ndebug : Bool) (toDouble : String → Option V) (output : Output)
    (bulkNodeIds : Nat → Nat) (numSkippedLines localId : Nat) (lines : List String)
    (io : PhreeqcIO V) : Except (ReadError × PhreeqcIO V) (List String × PhreeqcIO V) :=
  match lines.drop numSkippedLines with
  | [] => .error (.missingResult (bulkNodeIds localId), io)
  | line :: rest => (readRow ndebug toDouble output localId (bulkNodeIds localId) line io).map (rest, ·)

/-- `operator>>(std::istream&, PhreeqcIO&)` on the lines of the result file. -/
def readOutputs (ndebug : Bool) (toDouble : String → Option V) (io : PhreeqcIO V)
    (lines : List String) : Except (ReadError × PhreeqcIO V) ( PhreeqcIO V) :=
  let numSkippedLines := if io.surface.isEmpty then 1 else 2
  Prod.snd <$> (List.range io.mesh.numberOfBaseNodes).foldlM
    (fun state localId => readSystem ndebug toDouble io.output io.mesh.bulkNodeIds numSkippedLines
      localId state.1 state.2)
    (lines.drop 1, io)

/-! ## One row -/

section Row

variable (ndebug : Bool) (toDouble : String → Option V) (output : Output) (localId globalId : Nat)
  (line : String) (io : PhreeqcIO V)

theorem readRow_ok (io' : PhreeqcIO V)
    (h : readRow ndebug toDouble output localId globalId line io = .ok io') :
    ∃ values, acceptItems toDouble output.droppedItemIds globalId 0 (tokenize line) = .ok values ∧
      io' = (output.acceptedItems.zip values).foldl (storeEntry localId globalId) io := by
  unfold readRow at h
  cases ha : acceptItems toDouble output.droppedItemIds globalId 0 (tokenize line) with
  | error e => simp only [ha] at h; cases h
  | ok values =>
    simp only [ha] at h
    split_ifs at h
    exact ⟨values, rfl, by simpa using routeItems_ok ndebug localId globalId _ 0 values io io' h⟩

/-- How a data row fails, undefined behaviour apart: a kept item does not convert, or the arity
`assert` of a build with assertions fails, and nothing is stored; or storing value `j` under schema
entry `j` fails, on the state with the row's values before it stored. -/
def RowFailure (e : ReadError) (io' : PhreeqcIO V) : Prop :=
  (acceptItems toDouble output.droppedItemIds globalId 0 (tokenize line) = .error e ∧ io' = io) ∨
  ∃ values, acceptItems toDouble output.droppedItemIds globalId 0 (tokenize line) = .ok values ∧
    ((ndebug = false ∧ values.length ≠ output.acceptedItems.length ∧
        e = .assertion "accepted_items.size() == output.accepted_items.size()" ∧ io' = io) ∨
      ∃ j item value, output.acceptedItems[j]? = some item ∧ values[j]? = some value ∧
        io' = ((output.acceptedItems.zip values).take j).foldl (storeEntry localId globalId) io ∧
        storeItem ndebug localId globalId item value io' = .error e)

/-- A failed row carries the state before it with some of its entries stored; undefined behaviour
apart, the failure is one that `RowFailure` describes. -/
theorem readRow_error (e : ReadError) (io' : PhreeqcIO V)
    (h : readRow ndebug toDouble output localId globalId line io = .error (e, io')) :
    (∃ entries : List (OutputItem × V), io' = entries.foldl (storeEntry localId globalId) io) ∧
      (e ≠ .undefined → RowFailure ndebug toDouble output localId globalId line io e io') := by
  unfold readRow at h
  cases ha : acceptItems toDouble output.droppedItemIds globalId 0 (tokenize line) with
  | error x => simp only [ha] at h; cases h; exact ⟨⟨[], rfl⟩, fun _ => .inl ⟨ha, rfl⟩⟩
  | ok values =>
    simp only [ha] at h
    split_ifs at h with harity
    · cases h
      simp only [Bool.and_eq_true, Bool.not_eq_true', bne_iff_ne, ne_eq] at harity
      exact ⟨⟨[], rfl⟩, fun _ => .inr ⟨values, ha, .inl ⟨harity.1, harity.2, rfl, rfl⟩⟩⟩
    · obtain ⟨j, -, rfl, hr⟩ := routeItems_error ndebug localId globalId _ 0 values io io' e h
      refine ⟨⟨_, rfl⟩, fun hdefined => ?_⟩
      obtain ⟨item, value, hi, hv, hs⟩ := hr.resolve_left hdefined
      exact .inr ⟨values, ha, .inr ⟨j, item, value, by simpa using hi, hv, by simp, hs⟩⟩

theorem readRow_eq_ok (values : List V)
    (hvalues : acceptItems toDouble output.droppedItemIds globalId 0 (tokenize line) = .ok values)
    (harity : values.length = output.acceptedItems.length)
    (hresolve : ∀ item ∈ output.acceptedItems, io.lookupNames.Resolves localId item) :
    readRow ndebug toDouble output localId globalId line io =
      .ok ((output.acceptedItems.zip values).foldl (storeEntry localId globalId) io) := by
  rw [readRow, hvalues]
  simp only [harity, bne_self_eq_false, Bool.and_false, Bool.false_eq_true, if_false]
  simpa using routeItems_eq_ok ndebug localId globalId _ io.lookupNames hresolve 0 values io rfl
    (by omega)

theorem readRow_isOk_iff :
    (∃ io', readRow ndebug toDouble output localId globalId line io = .ok io') ↔
      ∃ values, acceptItems toDouble output.droppedItemIds globalId 0 (tokenize line) = .ok values ∧
        (ndebug = false → values.length = output.acceptedItems.length) ∧
        values.length ≤ output.acceptedItems.length ∧
        ∀ item ∈ output.acceptedItems.take values.length, io.lookupNames.Resolves localId item := by
  unfold readRow
  cases acceptItems toDouble output.droppedItemIds globalId 0 (tokenize line) with
  | error e => simp
  | ok values =>
    have hroute := routeItems_isOk_iff ndebug localId globalId output.acceptedItems 0 values io
    rw [List.drop_zero] at hroute
    by_cases hlen : values.length = output.acceptedItems.length
    · simp [hlen, hroute]
    · cases ndebug <;> simp [hlen, hroute]

end Row

/-! ## The table -/

section Table

variable (ndebug : Bool) (toDouble : String → Option V) (output : Output) (bulkNodeIds : Nat → Nat)
  (numSkippedLines : Nat)

theorem foldlM_readSystem_table (skipped : Nat → List String) (rows : Nat → String)
    (hskipped : ∀ k, (skipped k).length = numSkippedLines) (rest : List String) :
    ∀ (localIds : List Nat) (io : PhreeqcIO V),
      localIds.foldlM (fun state localId => readSystem ndebug toDouble output bulkNodeIds
          numSkippedLines localId state.1 state.2)
        ((localIds.flatMap fun k => skipped k ++ [rows k]) ++ rest, io) =
      (rest, ·) <$> localIds.foldlM (fun io localId =>
        readRow ndebug toDouble output localId (bulkNodeIds localId) (rows localId) io) io
  | [], io => rfl
  | k :: ks, io => by
    have hdrop : (((k :: ks).flatMap fun k => skipped k ++ [rows k]) ++ rest).drop numSkippedLines =
        rows k :: ((ks.flatMap fun k => skipped k ++ [rows k]) ++ rest) := by
      rw [List.flatMap_cons, List.append_assoc, List.append_assoc, List.drop_left' (hskipped k)]
      rfl
    simp only [List.foldlM_cons, readSystem, hdrop]
    cases readRow ndebug toDouble output k (bulkNodeIds k) (rows k) io with
    | error e => rfl
    | ok io' => exact foldlM_readSystem_table skipped rows hskipped rest ks io'

end Table

/-- `operator>>` on a table laid out as the engine answers the script: a headline, then for each
system one skipped line (two with surface sites) and its data row. It reads row `k` for system
`k`, with bulk node `m[k]`. -/
theorem readOutputs_table (ndebug : Bool) (toDouble : String → Option V) (io : PhreeqcIO V)
    (header : String) (skipped : Nat → List String) (rows : Nat → String)
    (hskipped : ∀ k, (skipped k).length = if io.surface.isEmpty then 1 else 2) :
    readOutputs ndebug toDouble io
        (header :: (List.range io.mesh.numberOfBaseNodes).flatMap fun k => skipped k ++ [rows k]) =
      (List.range io.mesh.numberOfBaseNodes).foldlM (fun state k =>
        readRow ndebug toDouble io.output k (io.mesh.bulkNodeIds k) (rows k) state) io := by
  have h := foldlM_readSystem_table ndebug toDouble io.output io.mesh.bulkNodeIds _ skipped rows
    hskipped [] (List.range io.mesh.numberOfBaseNodes) io
  rw [List.append_nil] at h
  simp only [readOutputs, List.drop_succ_cons, List.drop_zero, h, Functor.map_map]
  exact id_map _

/-! ## What the table stores -/

/-- The state the specification describes after rows of values `values k`: for `k = 0 .. N-1`
and within a row in schema order, value `j` stored under schema entry `j`. -/
def readSpec (io : PhreeqcIO V) (values : Nat → List V) : PhreeqcIO V :=
  (List.range io.mesh.numberOfBaseNodes).foldl (fun state k =>
    (io.output.acceptedItems.zip (values k)).foldl (storeEntry k (io.mesh.bulkNodeIds k)) state) io

theorem foldlM_readRow_eq_ok (ndebug : Bool) (toDouble : String → Option V) (output : Output)
    (bulkNodeIds : Nat → Nat) (rows : Nat → String) (values : Nat → List V) (names : LookupNames) :
    ∀ (localIds : List Nat) (io : PhreeqcIO V),
      (∀ k ∈ localIds, acceptItems toDouble output.droppedItemIds (bulkNodeIds k) 0 (tokenize (rows k)) =
        .ok (values k)) →
      (∀ k ∈ localIds, (values k).length = output.acceptedItems.length) →
      (∀ k ∈ localIds, ∀ item ∈ output.acceptedItems, names.Resolves k item) →
      io.lookupNames = names →
      localIds.foldlM (fun state k => readRow ndebug toDouble output k (bulkNodeIds k) (rows k) state) io =
        .ok (localIds.foldl (fun state k =>
          (output.acceptedItems.zip (values k)).foldl (storeEntry k (bulkNodeIds k)) state) io)
  | [], _, _, _, _, _ => rfl
  | k :: ks, io, hvalues, harity, hresolve, hnames => by
    simp only [List.forall_mem_cons] at hvalues harity hresolve
    rw [List.foldlM_cons, readRow_eq_ok ndebug toDouble output k (bulkNodeIds k) (rows k) io (values k)
      hvalues.1 harity.1 (hnames ▸ hresolve.1)]
    exact foldlM_readRow_eq_ok ndebug toDouble output bulkNodeIds rows values names ks _ hvalues.2
      harity.2 hresolve.2 ((rowFrame_foldl k (bulkNodeIds k) _ io).names.trans hnames)

/-- Reading a table laid out as the engine answers, whose rows hold, in the columns not dropped,
one numeral per schema entry and whose schema names all resolve, succeeds with the state the
specification describes; the dropped columns may hold anything. -/
theorem readOutputs_table_eq_ok (ndebug : Bool) (toDouble : String → Option V) (io : PhreeqcIO V)
    (header : String) (skipped : Nat → List String) (rows : Nat → String) (values : Nat → List V)
    (hskipped : ∀ k, (skipped k).length = if io.surface.isEmpty then 1 else 2)
    (hnumerals : ∀ k < io.mesh.numberOfBaseNodes, List.Forall₂ (IsNumeral toDouble)
      (keptItems io.output.droppedItemIds 0 (tokenize (rows k))) (values k))
    (harity : ∀ k < io.mesh.numberOfBaseNodes, (values k).length = io.output.acceptedItems.length)
    (hresolve : ∀ k < io.mesh.numberOfBaseNodes, ∀ item ∈ io.output.acceptedItems,
      io.lookupNames.Resolves k item) :
    readOutputs ndebug toDouble io
        (header :: (List.range io.mesh.numberOfBaseNodes).flatMap fun k => skipped k ++ [rows k]) =
      .ok (readSpec io values) := by
  rw [readOutputs_table ndebug toDouble io header skipped rows hskipped]
  exact foldlM_readRow_eq_ok ndebug toDouble io.output io.mesh.bulkNodeIds rows values
    io.lookupNames _ io
    (fun k hk => (acceptItems_eq_ok_iff toDouble _ _ 0 _ _).2
      ((hnumerals k (List.mem_range.1 hk)).imp fun _ _ h => h.1))
    (fun k hk => harity k (List.mem_range.1 hk)) (fun k hk => hresolve k (List.mem_range.1 hk)) rfl

/-- The failures of one pass of the loop, undefined behaviour apart: a missing row, an item
without a numeral and the arity `assert` leave the state as it was, and a routing failure at schema
entry `j` leaves the row's first `j` values stored under schema entries `0 .. j-1`. -/
theorem readSystem_error (ndebug : Bool) (toDouble : String → Option V) (output : Output)
    (bulkNodeIds : Nat → Nat) (numSkippedLines localId : Nat) (lines : List String)
    (io io' : PhreeqcIO V) (e : ReadError) (hdefined : e ≠ .undefined)
    (h : readSystem ndebug toDouble output bulkNodeIds numSkippedLines localId lines io = .error (e, io')) :
    (lines.drop numSkippedLines = [] ∧ e = .missingResult (bulkNodeIds localId) ∧ io' = io) ∨
      ∃ line rest, lines.drop numSkippedLines = line :: rest ∧
        RowFailure ndebug toDouble output localId (bulkNodeIds localId) line io e io' := by
  unfold readSystem at h
  cases hl : lines.drop numSkippedLines with
  | nil => simp only [hl] at h; cases h; exact .inl ⟨rfl, rfl, rfl⟩
  | cons line rest =>
    simp only [hl] at h
    cases hr : readRow ndebug toDouble output localId (bulkNodeIds localId) line io with
    | error x =>
      rw [hr] at h; cases h
      exact .inr ⟨line, rest, rfl, (readRow_error ndebug toDouble output localId _ line io e io' hr).2 hdefined⟩
    | ok io'' => rw [hr] at h; cases h

/-- What a row stores: the kept items of a row `operator>>` accepts are those that start, past
white space, with a numeral `strtod` reads in range, and the values stored are those of these
numeric prefixes, whatever follows them in the item. -/
theorem readRow_numeric_prefixes (ndebug : Bool) (toDouble : String → Option V) (output : Output)
    (localId globalId : Nat) (line : String) (io : PhreeqcIO V) :
    (∀ values, acceptItems toDouble output.droppedItemIds globalId 0 (tokenize line) = .ok values ↔
      List.Forall₂ (NumericPrefix toDouble) (keptItems output.droppedItemIds 0 (tokenize line)) values) ∧
    ∀ io', readRow ndebug toDouble output localId globalId line io = .ok io' →
      ∃ values, List.Forall₂ (NumericPrefix toDouble)
          (keptItems output.droppedItemIds 0 (tokenize line)) values ∧
        io' = (output.acceptedItems.zip values).foldl (storeEntry localId globalId) io := by
  refine ⟨acceptItems_eq_ok_iff toDouble _ _ 0 _, fun io' h => ?_⟩
  obtain ⟨values, hvalues, rfl⟩ := readRow_ok ndebug toDouble output localId globalId line io io' h
  exact ⟨values, (acceptItems_eq_ok_iff toDouble _ _ 0 _ _).1 hvalues, rfl⟩

/-! ## One system -/

/-- One chemical system at bulk node 0 without surface sites, its solution at pH 7 and pe 4 with
calcium, read with schema `schema`. Values are kept as the text `strtod` converts. -/
def oneSystem (schema : List OutputItem) : PhreeqcIO String where
  phreeqcInputFile := "phreeqc.inp"
  mesh := ⟨1, id⟩
  database := "phreeqc.dat"
  aqueousSolutions := fun _ => ⟨"7", "4", [⟨"Ca", "0.001"⟩]⟩
  equilibriumPhases := []
  kineticReactants := []
  reactionRates := []
  surface := []
  userPunch := none
  output := ⟨"phreeqc.out", schema, []⟩
  dump := none
  knobs := ""
  processIdToComponentNameMap := []
  dt := "0"

/-- The schema of a run that reads back pH and pe. -/
def phAndPe : List OutputItem := [⟨"pH", .pH⟩, ⟨"pe", .pe⟩]

theorem readOutputs_pH_pe_table :
    ((∀ _ : Nat, (["initial"] : List String).length =
        if (oneSystem phAndPe).surface.isEmpty then 1 else 2) ∧
      (∀ k < (oneSystem phAndPe).mesh.numberOfBaseNodes, List.Forall₂ (IsNumeral some)
        (keptItems (oneSystem phAndPe).output.droppedItemIds 0 (tokenize "8.5 3.5")) ["8.5", "3.5"]) ∧
      (∀ k < (oneSystem phAndPe).mesh.numberOfBaseNodes,
        ["8.5", "3.5"].length = (oneSystem phAndPe).output.acceptedItems.length) ∧
      ∀ k < (oneSystem phAndPe).mesh.numberOfBaseNodes, ∀ item ∈ (oneSystem phAndPe).output.acceptedItems,
        (oneSystem phAndPe).lookupNames.Resolves k item) ∧
    readOutputs false some (oneSystem phAndPe) ("pH pe" ::
        (List.range (oneSystem phAndPe).mesh.numberOfBaseNodes).flatMap fun _ => ["initial"] ++ ["8.5 3.5"]) =
      .ok (readSpec (oneSystem phAndPe) fun _ => ["8.5", "3.5"]) := by
  have h : (∀ _ : Nat, (["initial"] : List String).length =
        if (oneSystem phAndPe).surface.isEmpty then 1 else 2) ∧
      (∀ k < (oneSystem phAndPe).mesh.numberOfBaseNodes, List.Forall₂ (IsNumeral some)
        (keptItems (oneSystem phAndPe).output.droppedItemIds 0 (tokenize "8.5 3.5")) ["8.5", "3.5"]) ∧
      (∀ k < (oneSystem phAndPe).mesh.numberOfBaseNodes,
        ["8.5", "3.5"].length = (oneSystem phAndPe).output.acceptedItems.length) ∧
      ∀ k < (oneSystem phAndPe).mesh.numberOfBaseNodes, ∀ item ∈ (oneSystem phAndPe).output.acceptedItems,
        (oneSystem phAndPe).lookupNames.Resolves k item :=
    ⟨fun _ => rfl, by decide, by decide, by decide⟩
  exact ⟨h, readOutputs_table_eq_ok false some (oneSystem phAndPe) "pH pe" (fun _ => ["initial"])
    (fun _ => "8.5 3.5") (fun _ => ["8.5", "3.5"]) h.1 h.2.1 h.2.2.1 h.2.2.2⟩

/-- Without assertions the arity of a row is not checked: one value for the schema pH, pe is read
without a failure and pe keeps its old value, and three values index the schema past its end.
With assertions the short row fails on the `assert`. -/
theorem arity_unchecked_without_assertions :
    (readOutputs true some (oneSystem phAndPe) ["pH pe", "initial", "8.5"]).map
        (fun io => ((io.aqueousSolutions 0).pH, (io.aqueousSolutions 0).pe)) = .ok ("8.5", "4") ∧
      (∃ io', readOutputs true some (oneSystem phAndPe) ["pH pe", "initial", "8.5 3.5 1.0"] =
        .error (.undefined, io')) ∧
      readOutputs false some (oneSystem phAndPe) ["pH pe", "initial", "8.5"] =
        .error (.assertion "accepted_items.size() == output.accepted_items.size()", oneSystem phAndPe) :=
  ⟨rfl, ⟨_, rfl⟩, rfl⟩

/-- A schema entry naming no component fails after the entry before it was stored: the pH of the
system is already the row's. -/
theorem lookup_failure_after_store :
    ∃ io', readOutputs false some (oneSystem [⟨"pH", .pH⟩, ⟨"X", .component⟩])
        ["pH X", "initial", "8.5 1.0"] = .error (.notFound "Could not find component 'X'.", io') ∧
      (io'.aqueousSolutions 0).pH = "8.5" :=
  ⟨_, rfl, rfl⟩

theorem readSystem_lookup_failure :
    let io := oneSystem [⟨"pH", .pH⟩, ⟨"X", .component⟩]
    ∃ io', (ReadError.notFound "Could not find component 'X'." ≠ .undefined ∧
        readSystem false some io.output id 1 0 ["initial", "8.5 1.0"] io =
          .error (.notFound "Could not find component 'X'.", io')) ∧
      ((["initial", "8.5 1.0"].drop 1 = [] ∧
          ReadError.notFound "Could not find component 'X'." = .missingResult (id 0) ∧ io' = io) ∨
        ∃ line rest, ["initial", "8.5 1.0"].drop 1 = line :: rest ∧
          RowFailure false some io.output 0 (id 0) line io (.notFound "Could not find component 'X'.") io') :=
  ⟨_, ⟨by decide, rfl⟩, readSystem_error false some _ id 1 0 _ _ _ _ (by decide) rfl⟩

/-- An item made of a numeral and letters is accepted, and the numeral's value stored. -/
theorem numeric_prefix_stored :
    (readOutputs false some (oneSystem [⟨"pH", .pH⟩]) ["pH", "initial", "1.5abc"]).map
      (fun io => (io.aqueousSolutions 0).pH) = .ok "1.5" :=
  rfl

end Ogs.ChemistryLib
