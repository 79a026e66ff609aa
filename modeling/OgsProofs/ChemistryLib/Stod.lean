/-
The text layer of `operator>>(std::istream&, PhreeqcIO&)`: a result row is trimmed and split
with `boost` on tabs and spaces, and each kept item is converted with `std::stod`. `std::stod`
calls `strtod`, which skips leading white space and reads the longest prefix that is a decimal,
hexadecimal, infinity or NaN subject sequence; the rest of the item is ignored. The value of the
subject sequence as a double, and whether `strtod` reports it out of range, is the parameter
`toDouble`.
-/
import Mathlib.Data.List.Basic

namespace Ogs.ChemistryLib

variable {V : Type}

/-! ## Splitting a row -/

/-- `boost::is_any_of("\t ")`. -/
def isTabOrSpace (c : Char) : Bool := c == '\t' || c == ' '

/-- `boost::trim_if`: drops the leading and the trailing characters satisfying `p`. -/
def trimIf (p : Char → Bool) (cs : List Char) : List Char :=
  ((cs.dropWhile p).reverse.dropWhile p).reverse

/-- `boost::algorithm::split` with `token_compress_on`, on the piece read so far (reversed) and
whether the last character was a separator: a run of separators ends one piece, and the input's
end ends the last one, so an empty input gives one empty piece. -/
def splitAux (p : Char → Bool) : List Char → List Char → Bool → List (List Char)
  | [], piece, _ => [piece.reverse]
  | c :: cs, piece, inRun =>
    if p c then
      if inRun then splitAux p cs piece true else piece.reverse :: splitAux p cs [] true
    else splitAux p cs (c :: piece) false

/-- The items of a result row. -/
def tokenize (line : String) : List String :=
  (splitAux isTabOrSpace (trimIf isTabOrSpace line.toList) [] false).map String.mk

example : tokenize "\t 7.0  4.0\t1.5 " = ["7.0", "4.0", "1.5"] := by decide

example : tokenize "" = [""] := by decide

/-! ## Rows laid out in columns -/

/-- An item a writer of columns prints: not empty, and without blanks or tabs. -/
def IsItem (item : String) : Prop := item ≠ "" ∧ ∀ c ∈ item.toList, isTabOrSpace c = false

/-- A run of blanks and tabs between two items. -/
def IsSeparator (sep : List Char) : Prop := sep ≠ [] ∧ ∀ c ∈ sep, isTabOrSpace c = true

instance (item : String) : Decidable (IsItem item) := inferInstanceAs (Decidable (_ ∧ _))

instance (sep : List Char) : Decidable (IsSeparator sep) := inferInstanceAs (Decidable (_ ∧ _))

section Split

variable (p : Char → Bool)

theorem splitAux_append_item : ∀ (item rest piece : List Char), (∀ c ∈ item, p c = false) →
    splitAux p (item ++ rest) piece false = splitAux p rest (item.reverse ++ piece) false
  | [], _, _, _ => rfl
  | c :: item, rest, piece, h => by
    rw [List.forall_mem_cons] at h
    rw [List.cons_append, splitAux, if_neg (by simp [h.1]),
      splitAux_append_item item rest (c :: piece) h.2]
    simp

theorem splitAux_append_separator : ∀ (sep rest piece : List Char), (∀ c ∈ sep, p c = true) →
    splitAux p (sep ++ rest) piece true = splitAux p rest piece true
  | [], _, _, _ => rfl
  | c :: sep, rest, piece, h => by
    rw [List.forall_mem_cons] at h
    rw [List.cons_append, splitAux, if_pos h.1, if_pos rfl,
      splitAux_append_separator sep rest piece h.2]

theorem IsItem.toList_ne_nil {item : String} (h : IsItem item) : item.toList ≠ [] :=
  fun h' => h.1 (String.ext h')

theorem splitAux_columns : ∀ (rest : List (List Char × String)) (piece : List Char),
    (∀ st ∈ rest, IsSeparator st.1 ∧ IsItem st.2) →
    splitAux isTabOrSpace (rest.flatMap fun st => st.1 ++ st.2.toList) piece false =
      piece.reverse :: rest.map (·.2.toList)
  | [], _, _ => rfl
  | (sep, item) :: rest, piece, h => by
    rw [List.forall_mem_cons] at h
    obtain ⟨⟨hsep, hsepp⟩, hitem⟩ := h.1
    obtain ⟨c, sep, rfl⟩ := List.exists_cons_of_ne_nil hsep
    obtain ⟨d, chars, hd⟩ := List.exists_cons_of_ne_nil hitem.toList_ne_nil
    have hitemp := hitem.2
    rw [hd, List.forall_mem_cons] at hitemp
    rw [List.forall_mem_cons] at hsepp
    rw [List.flatMap_cons, List.map_cons]
    simp only [hd, List.append_assoc, List.cons_append]
    rw [splitAux, if_pos hsepp.1, if_neg Bool.false_ne_true,
      splitAux_append_separator _ sep _ [] hsepp.2, splitAux, if_neg (by simp [hitemp.1]),
      splitAux_append_item _ chars _ [d] hitemp.2, splitAux_columns rest _ h.2]
    simp

theorem exists_eq_concat_of_columns : ∀ (item : String) (rest : List (List Char × String)),
    IsItem item → (∀ st ∈ rest, IsItem st.2) →
    ∃ init c, item.toList ++ (rest.flatMap fun st => st.1 ++ st.2.toList) = init ++ [c] ∧
      isTabOrSpace c = false
  | item, [], hitem, _ => by
    obtain ⟨init, c, hc⟩ := (List.eq_nil_or_concat item.toList).resolve_left hitem.toList_ne_nil
    rw [List.concat_eq_append] at hc
    exact ⟨init, c, by rw [List.flatMap_nil, List.append_nil, hc],
      hitem.2 c (by rw [hc]; exact List.mem_append_right _ (List.mem_singleton_self c))⟩
  | item, (sep, item') :: rest, _, h => by
    rw [List.forall_mem_cons] at h
    obtain ⟨init, c, hc, hpc⟩ := exists_eq_concat_of_columns item' rest h.1 h.2
    exact ⟨item.toList ++ sep ++ init, c,
      by simp only [List.flatMap_cons, List.append_assoc]; rw [hc], hpc⟩

theorem trimIf_of_ends (lead body trail : List Char) (hlead : ∀ c ∈ lead, p c = true)
    (htrail : ∀ c ∈ trail, p c = true) (c : Char) (cs : List Char) (hfirst : body = c :: cs)
    (hc : p c = false) (init : List Char) (d : Char) (hlast : body = init ++ [d]) (hd : p d = false) :
    trimIf p (lead ++ body ++ trail) = body := by
  have hfront : (lead ++ body ++ trail).dropWhile p = body ++ trail := by
    rw [List.append_assoc, List.dropWhile_append_of_pos hlead, hfirst, List.cons_append,
      List.dropWhile_cons_of_neg (by simp [hc])]
  have hback : (body ++ trail).reverse.dropWhile p = body.reverse := by
    rw [List.reverse_append, List.dropWhile_append_of_pos (by simpa using htrail), hlast,
      List.reverse_append, List.reverse_singleton, List.singleton_append,
      List.dropWhile_cons_of_neg (by simp [hd])]
  rw [trimIf, hfront, hback, List.reverse_reverse]

end Split

theorem splitAux_trimIf_columns (lead trail : List Char) (first : String)
    (rest : List (List Char × String)) (hlead : ∀ c ∈ lead, isTabOrSpace c = true)
    (htrail : ∀ c ∈ trail, isTabOrSpace c = true) (hfirst : IsItem first)
    (hrest : ∀ st ∈ rest, IsSeparator st.1 ∧ IsItem st.2) :
    splitAux isTabOrSpace (trimIf isTabOrSpace (lead ++ first.toList ++
      (rest.flatMap fun st => st.1 ++ st.2.toList) ++ trail)) [] false =
      first.toList :: rest.map (·.2.toList) := by
  obtain ⟨c, cs, hc⟩ := List.exists_cons_of_ne_nil hfirst.toList_ne_nil
  obtain ⟨init, d, hlast, hd⟩ := exists_eq_concat_of_columns first rest hfirst fun st hst =>
    (hrest st hst).2
  rw [List.append_assoc lead, trimIf_of_ends isTabOrSpace lead _ trail hlead htrail c (cs ++ _)
    (by rw [hc, List.cons_append]) (hfirst.2 c (by rw [hc]; exact List.mem_cons_self c cs)) init d
    hlast hd, splitAux_append_item isTabOrSpace _ _ [] hfirst.2, splitAux_columns rest _ hrest]
  simp only [List.append_nil, List.reverse_reverse]

/-- The items of a row laid out in columns are read back as they were written: blanks and tabs
`lead`, the first item, then for each further item a run of blanks and tabs and the item, and
blanks and tabs `trail`. The widths of the runs do not matter. -/
theorem tokenize_columns (lead trail : List Char) (first : String) (rest : List (List Char × String))
    (hlead : ∀ c ∈ lead, isTabOrSpace c = true) (htrail : ∀ c ∈ trail, isTabOrSpace c = true)
    (hfirst : IsItem first) (hrest : ∀ st ∈ rest, IsSeparator st.1 ∧ IsItem st.2) :
    tokenize (String.mk (lead ++ first.toList ++ (rest.flatMap fun st => st.1 ++ st.2.toList) ++
      trail)) = first :: rest.map Prod.snd := by
  show List.map String.mk (splitAux isTabOrSpace (trimIf isTabOrSpace (lead ++ first.toList ++
    (rest.flatMap fun st => st.1 ++ st.2.toList) ++ trail)) [] false) = _
  rw [splitAux_trimIf_columns lead trail first rest hlead htrail hfirst hrest]
  simp only [List.map_cons, List.map_map, Function.comp_def]
  rfl

theorem tokenize_columns_witness :
    ((∀ c ∈ [' '], isTabOrSpace c = true) ∧ (∀ c ∈ ['\t', ' '], isTabOrSpace c = true) ∧ IsItem "7.0" ∧
      ∀ st ∈ [(['\t'], "4.0"), ([' ', ' ', ' '], "-1.5e-3")], IsSeparator st.1 ∧ IsItem st.2) ∧
    tokenize (String.mk ([' '] ++ "7.0".toList ++
      ([(['\t'], "4.0"), ([' ', ' ', ' '], "-1.5e-3")].flatMap fun st => st.1 ++ st.2.toList) ++
        ['\t', ' '])) = "7.0" :: [(['\t'], "4.0"), ([' ', ' ', ' '], "-1.5e-3")].map Prod.snd := by
  refine (fun h => ⟨h, tokenize_columns _ _ _ _ h.1 h.2.1 h.2.2.1 h.2.2.2⟩) ?_
  decide

/-! ## Every line is laid out in columns -/

theorem IsItem.mk_cons {c : Char} {cs : List Char} (hc : isTabOrSpace c = false)
    (hcs : ∀ d ∈ cs, isTabOrSpace d = false) : IsItem (String.mk (c :: cs)) :=
  ⟨fun h => List.cons_ne_nil c cs (congrArg String.data h), List.forall_mem_cons.2 ⟨hc, hcs⟩⟩

theorem exists_columns : ∀ cs : List Char, cs ≠ [] → (∀ c ∈ cs.getLast?, isTabOrSpace c = false) →
    ∃ (lead : List Char) (first : String) (rest : List (List Char × String)),
      (∀ c ∈ lead, isTabOrSpace c = true) ∧ IsItem first ∧
      (∀ st ∈ rest, IsSeparator st.1 ∧ IsItem st.2) ∧
      cs = lead ++ first.toList ++ rest.flatMap fun st => st.1 ++ st.2.toList
  | [], h, _ => absurd rfl h
  | [c], _, hlast => ⟨[], String.mk [c], [], by simp, IsItem.mk_cons (hlast c rfl) (by simp),
      by simp, rfl⟩
  | c :: d :: cs, _, hlast => by
    obtain ⟨lead, first, rest, hlead, hfirst, hrest, heq⟩ :=
      exists_columns (d :: cs) (List.cons_ne_nil d cs) (by simpa using hlast)
    rw [heq]
    by_cases hc : isTabOrSpace c = true
    · exact ⟨c :: lead, first, rest, List.forall_mem_cons.2 ⟨hc, hlead⟩, hfirst, hrest, rfl⟩
    · rw [Bool.not_eq_true] at hc
      cases lead with
      | nil => exact ⟨[], String.mk (c :: first.toList), rest, by simp, IsItem.mk_cons hc hfirst.2,
          hrest, rfl⟩
      | cons s lead =>
        exact ⟨[], String.mk [c], (s :: lead, first) :: rest, by simp, IsItem.mk_cons hc (by simp),
          List.forall_mem_cons.2 ⟨⟨(show IsSeparator (s :: lead) from ⟨List.cons_ne_nil s lead, hlead⟩),
            hfirst⟩, hrest⟩, by simp⟩

theorem tokenize_blank (cs : List Char) (h : ∀ c ∈ cs, isTabOrSpace c = true) :
    tokenize (String.mk cs) = [""] := by
  rw [tokenize]
  show List.map String.mk (splitAux isTabOrSpace (trimIf isTabOrSpace cs) [] false) = _
  rw [trimIf, List.dropWhile_eq_nil_iff.2 h]
  rfl

/-- Every line is blank, or it is laid out in columns of exactly the items the tokenizer reads. -/
theorem tokenize_eq_columns_or_blank (line : String) :
    ((∀ c ∈ line.toList, isTabOrSpace c = true) ∧ tokenize line = [""]) ∨
      ∃ (lead trail : List Char) (first : String) (rest : List (List Char × String)),
        (∀ c ∈ lead, isTabOrSpace c = true) ∧
        (∀ c ∈ trail, isTabOrSpace c = true) ∧ IsItem first ∧
        (∀ st ∈ rest, IsSeparator st.1 ∧ IsItem st.2) ∧
        line = String.mk (lead ++ first.toList ++ (rest.flatMap fun st => st.1 ++ st.2.toList) ++ trail) ∧
        tokenize line = first :: rest.map Prod.snd := by
  obtain ⟨cs⟩ := line
  have hcs : cs = (cs.reverse.dropWhile isTabOrSpace).reverse ++
      (cs.reverse.takeWhile isTabOrSpace).reverse := by
    rw [← List.reverse_append, List.takeWhile_append_dropWhile, List.reverse_reverse]
  have htrail : ∀ c ∈ (cs.reverse.takeWhile isTabOrSpace).reverse, isTabOrSpace c = true :=
    fun c hc => List.mem_takeWhile_imp (List.mem_reverse.1 hc)
  have hlast := List.head?_dropWhile_not isTabOrSpace cs.reverse
  cases hbody : cs.reverse.dropWhile isTabOrSpace with
  | nil =>
    rw [hbody, List.reverse_nil, List.nil_append] at hcs
    have hall : ∀ c ∈ cs, isTabOrSpace c = true := fun c hc => htrail c (hcs ▸ hc)
    exact .inl ⟨hall, tokenize_blank cs hall⟩
  | cons b bs =>
    rw [hbody] at hcs hlast
    obtain ⟨lead, first, rest, hlead, hfirst, hrest, heq⟩ :=
      exists_columns (b :: bs).reverse (by simp) (by simpa using hlast)
    rw [heq] at hcs
    refine .inr ⟨lead, _, first, rest, hlead, htrail, hfirst, hrest, congrArg String.mk hcs, ?_⟩
    show List.map String.mk (splitAux isTabOrSpace (trimIf isTabOrSpace cs) [] false) = _
    rw [hcs, splitAux_trimIf_columns _ _ first rest hlead htrail hfirst hrest]
    simp only [List.map_cons, List.map_map, Function.comp_def]
    rfl

/-! ## `std::stod` -/

/-- The white space of `isspace` in the C locale. -/
def isCSpace (c : Char) : Bool :=
  c == ' ' || c == '\t' || c == '\n' || c == '\x0B' || c == '\x0C' || c == '\r'

def isHexDigit (c : Char) : Bool :=
  c.isDigit || ('a' ≤ c && c ≤ 'f') || ('A' ≤ c && c ≤ 'F')

/-- The length of a significand at the head of `cs`: digits, optionally a point and digits, with
at least one digit; `0` without one. -/
def significandLength (digit : Char → Bool) (cs : List Char) : Nat :=
  let a := (cs.takeWhile digit).length
  match cs.drop a with
  | '.' :: rest =>
    let b := (rest.takeWhile digit).length
    if a + b = 0 then 0 else a + 1 + b
  | _ => a

/-- The length of the sign `+` or `-` at the head of `cs`. -/
def signLength : List Char → Nat
  | '+' :: _ => 1
  | '-' :: _ => 1
  | _ => 0

/-- The length of a complete exponent `marker [sign] digits` at the head of `cs`; an incomplete
one is not read. -/
def exponentLength (marker : Char → Bool) : List Char → Nat
  | c :: rest =>
    let d := ((rest.drop (signLength rest)).takeWhile Char.isDigit).length
    if marker c && d != 0 then 1 + signLength rest + d else 0
  | [] => 0

/-- Whether `cs` starts with `word`, ignoring the case of letters. -/
def startsWithCi (cs : List Char) (word : String) : Bool :=
  (cs.take word.length).map Char.toLower == word.toList

/-- `inf`, `infinity`, `nan` or `nan(chars)`, in any case. -/
def specialLength (cs : List Char) : Nat :=
  if startsWithCi cs "infinity" then 8
  else if startsWithCi cs "inf" then 3
  else if startsWithCi cs "nan" then
    match cs.drop 3 with
    | '(' :: rest =>
      let n := (rest.takeWhile fun c => c.isAlphanum || c == '_').length
      if (rest.drop n).head? == some ')' then n + 5 else 3
    | _ => 3
  else 0

/-- The length of the subject sequence after the sign: a hexadecimal form after `0x`, else a
decimal form, else an infinity or NaN. -/
def unsignedLength (cs : List Char) : Nat :=
  let decimal := significandLength Char.isDigit cs
  let hex := match cs with
    | '0' :: x :: rest =>
      if x == 'x' || x == 'X' then
        let h := significandLength isHexDigit rest
        if h = 0 then 0 else 2 + h + exponentLength (fun c => c == 'p' || c == 'P') (rest.drop h)
      else 0
    | _ => 0
  if hex != 0 then hex
  else if decimal != 0 then decimal + exponentLength (fun c => c == 'e' || c == 'E') (cs.drop decimal)
  else specialLength cs

/-- The length of the longest prefix of `cs` that `strtod` converts; `0` when there is none. -/
def subjectLength (cs : List Char) : Nat :=
  let n := unsignedLength (cs.drop (signLength cs))
  if n = 0 then 0 else signLength cs + n

/-- The two exceptions of `std::stod`. -/
inductive StodError
  | invalidArgument
  | outOfRange
  deriving DecidableEq, Repr

/-- The characters `strtod` reads past leading white space. -/
def afterSpace (s : String) : List Char := s.toList.dropWhile isCSpace

/-- The subject sequence `strtod` converts. -/
def subjectText (s : String) : String :=
  String.mk ((afterSpace s).take (subjectLength (afterSpace s)))

/-- `std::stod`: `std::invalid_argument` without a subject sequence, else its value by
`toDouble`, where `none` is `strtod` setting `ERANGE` (`std::out_of_range`). -/
def stod (toDouble : String → Option V) (s : String) : Except StodError V :=
  if subjectLength (afterSpace s) = 0 then .error .invalidArgument
  else match toDouble (subjectText s) with
    | none => .error .outOfRange
    | some v => .ok v

/-- `s` starts, past white space, with a subject sequence of value `v`. -/
def NumericPrefix (toDouble : String → Option V) (s : String) (v : V) : Prop :=
  0 < subjectLength (afterSpace s) ∧ toDouble (subjectText s) = some v

/-- `s` is in its entirety a numeral of value `v`: its subject sequence reaches its end. -/
def IsNumeral (toDouble : String → Option V) (s : String) (v : V) : Prop :=
  NumericPrefix toDouble s v ∧ subjectLength (afterSpace s) = (afterSpace s).length

instance [DecidableEq V] (toDouble : String → Option V) (s : String) (v : V) :
    Decidable (IsNumeral toDouble s v) := by
  unfold IsNumeral NumericPrefix; infer_instance

theorem stod_eq_ok_iff (toDouble : String → Option V) (s : String) (v : V) :
    stod toDouble s = .ok v ↔ NumericPrefix toDouble s v := by
  unfold stod NumericPrefix
  by_cases h0 : subjectLength (afterSpace s) = 0
  · simp [h0]
  · cases h : toDouble (subjectText s) <;> simp [h0, h, Nat.pos_of_ne_zero h0]

example : subjectLength "1.5abc".toList = 3 := by decide

example : subjectLength "-2.5e-3x".toList = 7 := by decide

example : subjectLength "1e+".toList = 1 := by decide

example : subjectLength "0x1Ap3".toList = 6 := by decide

example : subjectLength "nan(x_1)".toList = 8 := by decide

example : subjectLength ".e1".toList = 0 := by decide

end Ogs.ChemistryLib
