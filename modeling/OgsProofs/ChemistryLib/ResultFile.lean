/-
`operator>>(std::istream&, PhreeqcIO&)` on every result file, well formed or not. The loop reads
the file as a stream: it ignores the headline, then for each chemical system it ignores
`numSkippedLines` lines and takes one line with `std::getline`. Seen from the file, system `k`
reads its data row from line `1 + k * (r + 1) + r`, where `r` is the number of skipped lines, and
reads no other line. The headline, the skipped lines and whatever follows the last data row are
never read. Whatever the file holds, the object is left changed only in the solutions of the
systems and in the per-node entries at their bulk node ids, on success and on failure alike.
-/
import OgsProofs.ChemistryLib.Result

namespace Ogs.ChemistryLib

variable {V : Type}

/-! ## The lines the loop reads -/

/-- The line of the result file that holds the data row of system `localId`. The headline comes
first, then each system takes `numSkippedLines` skipped lines and its row. -/
def rowPosition (numSkippedLines localId : Nat) : Nat :=
  1 + localId * (numSkippedLines + 1) + numSkippedLines

section Positions

variable (ndebug : Bool) (toDouble : String → Option V) (output : Output) (bulkNodeIds : Nat → Nat)
  (numSkippedLines : Nat) (lines : List String)

/-- System `localId` read straight from its line of the file. -/
def readRowAt (io : PhreeqcIO V) (localId : Nat) : Except (ReadError × PhreeqcIO V) ( PhreeqcIO V) :=
  match lines[rowPosition numSkippedLines localId]? with
  | none => .error (.missingResult (bulkNodeIds localId), io)
  | some line => readRow ndebug toDouble output localId (bulkNodeIds localId) line io

theorem readSystem_drop (localId : Nat) (io : PhreeqcIO V) :
    readSystem ndebug toDouble output bulkNodeIds numSkippedLines localId
        (lines.drop (1 + localId * (numSkippedLines + 1))) io =
      (lines.drop (1 + (localId + 1) * (numSkippedLines + 1)), ·) <$>
        readRowAt ndebug toDouble output bulkNodeIds numSkippedLines lines io localId := by
  have hnext : rowPosition numSkippedLines localId + 1 = 1 + (localId + 1) * (numSkippedLines + 1) := by
    rw [rowPosition, Nat.succ_mul]; omega
  have hpos : 1 + localId * (numSkippedLines + 1) + numSkippedLines =
      rowPosition numSkippedLines localId := rfl
  rw [readSystem, List.drop_drop, readRowAt, hpos]
  cases h : lines[rowPosition numSkippedLines localId]? with
  | none => rw [List.drop_eq_nil_of_le (List.getElem?_eq_none_iff.1 h)]; rfl
  | some line => rw [drop_eq_cons_of_getElem? h, hnext]; rfl

theorem foldlM_readSystem_drop : ∀ (n start : Nat) (io : PhreeqcIO V),
    (List.range' start n).foldlM (fun state localId => readSystem ndebug toDouble output
        bulkNodeIds numSkippedLines localId state.1 state.2)
      (lines.drop (1 + start * (numSkippedLines + 1)), io) =
    (lines.drop (1 + (start + n) * (numSkippedLines + 1)), ·) <$>
      (List.range' start n).foldlM (readRowAt ndebug toDouble output bulkNodeIds numSkippedLines lines) io
  | 0, start, io => rfl
  | n + 1, start, io => by
    rw [List.range'_succ, List.foldlM_cons, List.foldlM_cons, readSystem_drop]
    cases readRowAt ndebug toDouble output bulkNodeIds numSkippedLines lines io start with
    | error e => rfl
    | ok io' =>
      have h := foldlM_readSystem_drop n (start + 1) io'
      rw [show start + 1 + n = start + (n + 1) by omega] at h
      exact h

end Positions

theorem readOutputs_eq_rowPositions (ndebug : Bool) (toDouble : String → Option V)
    (io : PhreeqcIO V) (lines : List String) :
    readOutputs ndebug toDouble io lines =
      (List.range io.mesh.numberOfBaseNodes).foldlM (readRowAt ndebug toDouble io.output
        io.mesh.bulkNodeIds (if io.surface.isEmpty then 1 else 2) lines) io := by
  have h := foldlM_readSystem_drop ndebug toDouble io.output io.mesh.bulkNodeIds
    (if io.surface.isEmpty then 1 else 2) lines io.mesh.numberOfBaseNodes 0 io
  rw [Nat.zero_mul, Nat.add_zero] at h
  rw [readOutputs, List.range_eq_range', h, Functor.map_map]
  exact id_map _

theorem foldlM_congr {α β ε : Type} {f g : β → α → Except ε β} :
    ∀ (l : List α) (b : β), (∀ b, ∀ a ∈ l, f b a = g b a) → l.foldlM f b = l.foldlM g b
  | [], _, _ => rfl
  | a :: l, b, h => by
    rw [List.foldlM_cons, List.foldlM_cons, h b a (.head _)]
    cases g b a with
    | error e => rfl
    | ok b' => exact foldlM_congr l b' fun b a ha => h b a (.tail _ ha)

/-- `operator>>` reads, on any result file, line `1 + k * (r + 1) + r` for system `k` and no other
line: the loop is the row reader applied to those lines, and two files that agree on them give
the same outcome, success or failure. -/
theorem readOutputs_reads_rowPositions (ndebug : Bool) (toDouble : String → Option V)
    (io : PhreeqcIO V) (lines : List String) :
    readOutputs ndebug toDouble io lines =
      (List.range io.mesh.numberOfBaseNodes).foldlM (readRowAt ndebug toDouble io.output
        io.mesh.bulkNodeIds (if io.surface.isEmpty then 1 else 2) lines) io ∧
    ∀ lines' : List String, (∀ k < io.mesh.numberOfBaseNodes,
        lines'[rowPosition (if io.surface.isEmpty then 1 else 2) k]? =
          lines[rowPosition (if io.surface.isEmpty then 1 else 2) k]?) →
      readOutputs ndebug toDouble io lines' = readOutputs ndebug toDouble io lines := by
  refine ⟨readOutputs_eq_rowPositions ndebug toDouble io lines, fun lines' h => ?_⟩
  rw [readOutputs_eq_rowPositions, readOutputs_eq_rowPositions]
  refine foldlM_congr _ io fun state k hk => ?_
  rw [readRowAt, readRowAt, h k (List.mem_range.1 hk)]

/-! ## What a successful read stores -/

theorem readRow_ok_length (toDouble : String → Option V) (output : Output) (localId globalId : Nat)
    (line : String) (io io' : PhreeqcIO V) (values : List V)
    (h : readRow false toDouble output localId globalId line io = .ok io')
    (hvalues : acceptItems toDouble output.droppedItemIds globalId 0 (tokenize line) = .ok values) :
    values.length = output.acceptedItems.length := by
  rw [readRow, hvalues] at h
  by_contra hne
  simp [hne] at h

section Stored

variable (ndebug : Bool) (toDouble : String → Option V) (output : Output) (bulkNodeIds : Nat → Nat)
  (numSkippedLines : Nat) (lines : List String)

theorem readRowAt_ok {io io' : PhreeqcIO V} {localId : Nat}
    (h : readRowAt ndebug toDouble output bulkNodeIds numSkippedLines lines io localId = .ok io') :
    ∃ line values, lines[rowPosition numSkippedLines localId]? = some line ∧
      acceptItems toDouble output.droppedItemIds (bulkNodeIds localId) 0 (tokenize line) = .ok values ∧
      (ndebug = false → values.length = output.acceptedItems.length) ∧
      io' = (output.acceptedItems.zip values).foldl (storeEntry localId (bulkNodeIds localId)) io := by
  cases hline : lines[rowPosition numSkippedLines localId]? with
  | none => rw [readRowAt, hline] at h; cases h
  | some line =>
    rw [readRowAt, hline] at h
    obtain ⟨values, hvalues, rfl⟩ := readRow_ok ndebug toDouble output localId _ line io io' h
    exact ⟨line, values, rfl, hvalues, fun hd => readRow_ok_length toDouble output localId _ line io _
      values (hd ▸ h) hvalues, rfl⟩

theorem foldlM_readRowAt_ok (values : Nat → List V)
    (hvalues : ∀ k line v, lines[rowPosition numSkippedLines k]? = some line →
      acceptItems toDouble output.droppedItemIds (bulkNodeIds k) 0 (tokenize line) = .ok v →
      values k = v) :
    ∀ (localIds : List Nat) (io io' : PhreeqcIO V),
      localIds.foldlM (readRowAt ndebug toDouble output bulkNodeIds numSkippedLines lines) io = .ok io' →
      (∀ k ∈ localIds, ∃ line, lines[rowPosition numSkippedLines k]? = some line ∧
        acceptItems toDouble output.droppedItemIds (bulkNodeIds k) 0 (tokenize line) = .ok (values k) ∧
        (ndebug = false → (values k).length = output.acceptedItems.length)) ∧
      io' = localIds.foldl (fun state k =>
        (output.acceptedItems.zip (values k)).foldl (storeEntry k (bulkNodeIds k)) state) io
  | [], io, io', h => by cases h; exact ⟨fun _ hk => (nomatch hk), rfl⟩
  | k :: ks, io, io', h => by
    rw [List.foldlM_cons] at h
    cases hk : readRowAt ndebug toDouble output bulkNodeIds numSkippedLines lines io k with
    | error e => rw [hk] at h; cases h
    | ok io₁ =>
      rw [hk] at h
      obtain ⟨line, v, hline, hv, harity, rfl⟩ := readRowAt_ok ndebug toDouble output bulkNodeIds
        numSkippedLines lines hk
      obtain ⟨hrows, rfl⟩ := foldlM_readRowAt_ok values hvalues ks _ io' h
      have hvk : values k = v := hvalues k line v hline hv
      exact ⟨List.forall_mem_cons.2 ⟨⟨line, hline, hvk ▸ hv, hvk ▸ harity⟩, hrows⟩,
        by rw [List.foldl_cons, hvk]⟩

end Stored

/-- Whatever the result file holds, a successful `operator>>` has stored what the specification
describes: each system's data row is in the file, the kept columns of the row all convert, and the
state is `readSpec` of the converted values. A debug build has also checked that every row has one
value per schema entry; a release build may have stored a short row in part. -/
theorem readOutputs_eq_ok_readSpec (ndebug : Bool) (toDouble : String → Option V) (io : PhreeqcIO V)
    (lines : List String) (io' : PhreeqcIO V) (h : readOutputs ndebug toDouble io lines = .ok io') :
    ∃ values : Nat → List V, (∀ k < io.mesh.numberOfBaseNodes, ∃ line,
        lines[rowPosition (if io.surface.isEmpty then 1 else 2) k]? = some line ∧
        acceptItems toDouble io.output.droppedItemIds (io.mesh.bulkNodeIds k) 0 (tokenize line) =
          .ok (values k) ∧
        (ndebug = false → (values k).length = io.output.acceptedItems.length)) ∧
      io' = readSpec io values := by
  rw [readOutputs_eq_rowPositions] at h
  obtain ⟨hrows, rfl⟩ := foldlM_readRowAt_ok ndebug toDouble io.output io.mesh.bulkNodeIds _ lines
    (fun k => match lines[rowPosition (if io.surface.isEmpty then 1 else 2) k]? with
      | none => []
      | some line =>
        match acceptItems toDouble io.output.droppedItemIds (io.mesh.bulkNodeIds k) 0 (tokenize line) with
        | .ok v => v
        | .error _ => [])
    (fun k line v hline hv => by simp only [hline, hv]) _ io io' h
  exact ⟨_, fun k hk => hrows k (List.mem_range.2 hk), rfl⟩

theorem pH_pe_read_as_specified :
    ∃ io', readOutputs false some (oneSystem phAndPe) ["pH pe", "initial", "8.5 3.5"] = .ok io' ∧
      ∃ values : Nat → List String, (∀ k < (oneSystem phAndPe).mesh.numberOfBaseNodes, ∃ line,
        ["pH pe", "initial", "8.5 3.5"][rowPosition
          (if (oneSystem phAndPe).surface.isEmpty then 1 else 2) k]? = some line ∧
        acceptItems some (oneSystem phAndPe).output.droppedItemIds
          ((oneSystem phAndPe).mesh.bulkNodeIds k) 0 (tokenize line) = .ok (values k) ∧
        (false = false → (values k).length = (oneSystem phAndPe).output.acceptedItems.length)) ∧
      io' = readSpec (oneSystem phAndPe) values :=
  ⟨_, rfl, readOutputs_eq_ok_readSpec false some (oneSystem phAndPe) _ _ rfl⟩

/-! ## What the loop accepts -/

/-- What `operator>>` accepts as the data row of system `localId`: a line at the row's position
whose kept items convert, no more values than schema entries (as many in a build that keeps
assertions), and every schema entry a value is routed by resolving. -/
def RowAccepted (ndebug : Bool) (toDouble : String → Option V) (output : Output)
    (bulkNodeIds : Nat → Nat) (numSkippedLines : Nat) (lines : List String) (names : LookupNames)
    (localId : Nat) : Prop :=
  ∃ line values, lines[rowPosition numSkippedLines localId]? = some line ∧
    acceptItems toDouble output.droppedItemIds (bulkNodeIds localId) 0 (tokenize line) = .ok values ∧
    (ndebug = false → values.length = output.acceptedItems.length) ∧
    values.length ≤ output.acceptedItems.length ∧
    ∀ item ∈ output.acceptedItems.take values.length, names.Resolves localId item

section Accepted

variable (ndebug : Bool) (toDouble : String → Option V) (output : Output) (bulkNodeIds : Nat → Nat)
  (numSkippedLines : Nat) (lines : List String)

theorem readRowAt_isOk_iff (io : PhreeqcIO V) (localId : Nat) :
    (∃ io', readRowAt ndebug toDouble output bulkNodeIds numSkippedLines lines io localId = .ok io') ↔
      RowAccepted ndebug toDouble output bulkNodeIds numSkippedLines lines io.lookupNames localId := by
  unfold readRowAt RowAccepted
  cases lines[rowPosition numSkippedLines localId]? with
  | none => simp
  | some line => simp [readRow_isOk_iff]

theorem foldlM_readRowAt_isOk_iff (names : LookupNames) :
    ∀ (localIds : List Nat) (io : PhreeqcIO V), io.lookupNames = names →
      ((∃ io', localIds.foldlM (readRowAt ndebug toDouble output bulkNodeIds numSkippedLines lines) io =
          .ok io') ↔
        ∀ k ∈ localIds, RowAccepted ndebug toDouble output bulkNodeIds numSkippedLines lines names k)
  | [], io, _ => iff_of_true ⟨io, rfl⟩ fun _ hk => nomatch hk
  | k :: ks, io, hnames => by
    subst hnames
    rw [List.foldlM_cons, List.forall_mem_cons,
      ← readRowAt_isOk_iff ndebug toDouble output bulkNodeIds numSkippedLines lines io k]
    cases h : readRowAt ndebug toDouble output bulkNodeIds numSkippedLines lines io k with
    | error r => simp [bind, Except.bind]
    | ok io₁ =>
      obtain ⟨-, values, -, -, -, rfl⟩ :=
        readRowAt_ok ndebug toDouble output bulkNodeIds numSkippedLines lines h
      have hframe := (rowFrame_foldl k (bulkNodeIds k) (output.acceptedItems.zip values) io).names
      simpa [bind, Except.bind] using foldlM_readRowAt_isOk_iff _ ks _ hframe

end Accepted

/-- `operator>>` accepts a result file exactly when the data row of every system is accepted:
present at line `1 + k (r + 1) + r`, converted, no longer than the schema (as long in a build
that keeps assertions) and with every schema entry it routes resolving in the object's names. -/
theorem readOutputs_ok_iff (ndebug : Bool) (toDouble : String → Option V) (io : PhreeqcIO V)
    (lines : List String) :
    (∃ io', readOutputs ndebug toDouble io lines = .ok io') ↔
      ∀ k < io.mesh.numberOfBaseNodes, RowAccepted ndebug toDouble io.output io.mesh.bulkNodeIds
        (if io.surface.isEmpty then 1 else 2) lines io.lookupNames k := by
  rw [readOutputs_eq_rowPositions, foldlM_readRowAt_isOk_iff ndebug toDouble io.output _ _ lines
    io.lookupNames _ io rfl]
  simp only [List.mem_range]

/-! ## What a run leaves unchanged -/

/-- The state `operator>>` leaves the object in, whether it returns or fails. -/
def leftState : Except (ReadError × PhreeqcIO V) ( PhreeqcIO V) → PhreeqcIO V
  | .ok io => io
  | .error (_, io) => io

/-- What reading the rows of `N` systems at bulk node ids `m` leaves as it is: the solutions from
local id `N` on, every name the routing looks up, every per-node entry at a global id no system
has, and the other members. -/
structure ReadFrame (N : Nat) (m : Nat → Nat) (io io' : PhreeqcIO V) : Prop where
  solutions : ∀ k, N ≤ k → io'.aqueousSolutions k = io.aqueousSolutions k
  names : io'.lookupNames = io.lookupNames
  phases : ∀ g, (∀ k < N, m k ≠ g) →
    io'.equilibriumPhases.map (·.amount g) = io.equilibriumPhases.map (·.amount g)
  reactants : ∀ g, (∀ k < N, m k ≠ g) →
    io'.kineticReactants.map (·.amount g) = io.kineticReactants.map (·.amount g)
  secondaryVariables : ∀ g, (∀ k < N, m k ≠ g) →
    io'.userPunch.map (·.secondaryVariables.map (·.value g)) =
      io.userPunch.map (·.secondaryVariables.map (·.value g))
  members : io'.otherMembers = io.otherMembers

section Frame

variable {N : Nat} {m : Nat → Nat}

theorem ReadFrame.refl (io : PhreeqcIO V) : ReadFrame N m io io :=
  ⟨fun _ _ => rfl, rfl, fun _ _ => rfl, fun _ _ => rfl, fun _ _ => rfl, rfl⟩

theorem ReadFrame.trans {io io' io'' : PhreeqcIO V} (h₁ : ReadFrame N m io io')
    (h₂ : ReadFrame N m io' io'') : ReadFrame N m io io'' :=
  ⟨fun k hk => (h₂.solutions k hk).trans (h₁.solutions k hk), h₂.names.trans h₁.names,
    fun g hg => (h₂.phases g hg).trans (h₁.phases g hg),
    fun g hg => (h₂.reactants g hg).trans (h₁.reactants g hg),
    fun g hg => (h₂.secondaryVariables g hg).trans (h₁.secondaryVariables g hg),
    h₂.members.trans h₁.members⟩

theorem map_apply_of_maskAt {α : Type} (F : α → Nat → V) {globalId g : Nat} (hg : g ≠ globalId)
    {l l' : List α} (h : l'.map (maskAt globalId <| F ·) = l.map (maskAt globalId <| F ·)) :
    l'.map (F · g) = l.map (F · g) := by
  have h' := congrArg (List.map fun f => f g) h
  simp only [List.map_map, Function.comp_def, maskAt, if_neg hg] at h'
  exact List.map_injective_iff.2 (Option.some_injective V)
    (by simpa only [List.map_map, Function.comp_def] using h')

theorem RowFrame.readFrame {k : Nat} (hk : k < N) {io io' : PhreeqcIO V}
    (h : RowFrame k (m k) io io') : ReadFrame N m io io' := by
  refine ⟨fun k' hk' => h.solutions k' (by omega), h.names,
    fun g hg => map_apply_of_maskAt _ (hg k hk).symm h.phases,
    fun g hg => map_apply_of_maskAt _ (hg k hk).symm h.reactants, fun g hg => ?_, h.members⟩
  have hs := congrArg (Option.map (List.map fun f => f g)) h.secondaryVariables
  simp only [Option.map_map, Function.comp_def, List.map_map, maskAt, if_neg (hg k hk).symm] at hs
  exact Option.map_injective (List.map_injective_iff.2 (Option.some_injective V))
    (by simpa only [Option.map_map, Function.comp_def, List.map_map] using hs)

end Frame

theorem readRow_rowFrame (ndebug : Bool) (toDouble : String → Option V) (output : Output)
    (localId globalId : Nat) (line : String) (io : PhreeqcIO V) :
    RowFrame localId globalId io (leftState (readRow ndebug toDouble output localId globalId line io)) := by
  cases h : readRow ndebug toDouble output localId globalId line io with
  | ok io' =>
    obtain ⟨values, -, rfl⟩ := readRow_ok ndebug toDouble output localId globalId line io io' h
    exact rowFrame_foldl localId globalId _ io
  | error r =>
    obtain ⟨e, io'⟩ := r
    obtain ⟨⟨entries, rfl⟩, -⟩ := readRow_error ndebug toDouble output localId globalId line io e io' h
    exact rowFrame_foldl localId globalId _ io

theorem foldlM_readRowAt_frame (ndebug : Bool) (toDouble : String → Option V) (output : Output)
    (N : Nat) (m : Nat → Nat) (numSkippedLines : Nat) (lines : List String) :
    ∀ (localIds : List Nat), (∀ k ∈ localIds, k < N) → ∀ io : PhreeqcIO V, ReadFrame N m io
      (leftState (localIds.foldlM (readRowAt ndebug toDouble output m numSkippedLines lines) io))
  | [], _, io => ReadFrame.refl io
  | k :: ks, hks, io => by
    have hrow : RowFrame k (m k) io
        (leftState (readRowAt ndebug toDouble output m numSkippedLines lines io k)) := by
      unfold readRowAt
      split
      · exact RowFrame.refl io
      · exact readRow_rowFrame ndebug toDouble output k (m k) _ io
    have hframe := hrow.readFrame (hks k (.head _))
    rw [List.foldlM_cons]
    cases h : readRowAt ndebug toDouble output m numSkippedLines lines io k with
    | error r => rw [h] at hframe; exact hframe
    | ok io' =>
      rw [h] at hframe
      exact hframe.trans (foldlM_readRowAt_frame ndebug toDouble output N m numSkippedLines lines ks
        (fun k' hk' => hks k' (.tail _ hk')) io')

/-- Whatever the result file holds, `operator>>` leaves the object changed only in the solutions
of the systems and in the per-node entries at their bulk node ids, on success and on failure: it
never changes a name the routing looks up, a solution from local id `N` on, an entry of a per-node
array at a global id no system has, the schema, the mesh or any other member. After an `undefined`
failure the code's behaviour is not defined, and the frame speaks only of the state the model
stops with. -/
theorem readOutputs_frame (ndebug : Bool) (toDouble : String → Option V) (io : PhreeqcIO V)
    (lines : List String) :
    ReadFrame io.mesh.numberOfBaseNodes io.mesh.bulkNodeIds io
      (leftState (readOutputs ndebug toDouble io lines)) := by
  rw [readOutputs_eq_rowPositions]
  exact foldlM_readRowAt_frame ndebug toDouble io.output _ _ _ lines _
    (fun k hk => List.mem_range.1 hk) io

end Ogs.ChemistryLib
