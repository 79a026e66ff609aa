/-
`MathLib::TemplatePoint` (MathLib/TemplatePoint.h): a point of `DIM` coordinates of type `T`,
and its stream operators. A stream is the sequence of blank-separated words it holds. `write`
prints each coordinate with `operator<<` of `T`, followed by a blank; `read` copies from an
`std::istream_iterator<T>` into the array `_x`, and the iterator takes words for as long as
`operator>>` of `T` parses them. `StreamText T` is that pair: the word a value prints as at the
stream's precision, and the value a word parses to. At the default precision of six significant
digits the `double` `1/3` prints as `0.333333`, which parses to another value, and `inf` and `nan`
print as words `operator>>` does not parse, so the copy stops there. The theorems that read written
points back ask that the text of the coordinates parses back to them, as the text of integers does.
-/
import Mathlib.Data.List.Basic

namespace Ogs.MathLib

/-- `operator<<` and `operator>>` of a coordinate type, on one word of a stream. -/
class StreamText (T : Type) where
  print : T → String
  parse : String → Option T

/-- A word of decimal digits, as `operator>>` of an unsigned integer reads it. -/
def parseDigits (cs : List Char) : Option Nat :=
  if !cs.isEmpty && cs.all Char.isDigit then
    some (cs.foldl (fun n c => 10 * n + (c.toNat - '0'.toNat)) 0)
  else none

instance : StreamText Nat := ⟨Nat.repr, fun w => parseDigits w.toList⟩

variable {T : Type} {DIM : Nat}

/-- `TemplatePoint<T, DIM>`: the array `_x` of `DIM` coordinates. -/
@[ext]
structure TemplatePoint (T : Type) (DIM : Nat) where
  x : List T
  length_x : x.length = DIM

/-- The default constructor: zero coordinates. -/
def TemplatePoint.zero [Zero T] : TemplatePoint T DIM :=
  ⟨List.replicate DIM 0, List.length_replicate DIM 0⟩

theorem length_flatMap_x (ps : List (TemplatePoint T DIM)) :
    (ps.flatMap (·.x)).length = ps.length * DIM := by
  induction ps with
  | nil => simp
  | cons p ps ih =>
    rw [List.flatMap_cons, List.length_append, ih, p.length_x, List.length_cons, Nat.succ_mul,
      Nat.add_comm]

/-! ## Writing and reading -/

section Stream

variable [StreamText T]

/-- `TemplatePoint::write`: `std::copy` of the coordinates to `std::ostream_iterator<T>(os, " ")`. -/
def TemplatePoint.write (p : TemplatePoint T DIM) (os : List String) : List String :=
  os ++ p.x.map StreamText.print

/-- The values an `std::istream_iterator<T>` takes from a stream: the words up to the first one
`operator>>` does not parse, which sets `failbit` and ends the copy. -/
def extract : List String → List T
  | [] => []
  | w :: ws =>
    match StreamText.parse w with
    | some v => v :: extract ws
    | none => []

/-- `TemplatePoint::read`: `std::copy(std::istream_iterator<T>(is), std::istream_iterator<T>(),
_x.begin())`. The values extracted are stored from `_x[0]` on; the copy ends on a failed
extraction, so the stream is left failed and yields nothing more (`[]`). More than `DIM` values
are written past the end of `_x`, which is undefined behaviour (`none`). -/
def TemplatePoint.read (p : TemplatePoint T DIM) (is : List String) :
    Option (TemplatePoint T DIM × List String) :=
  if h : (extract is : List T).length ≤ DIM then
    some (⟨extract is ++ p.x.drop (extract is).length,
      by rw [List.length_append, List.length_drop, p.length_x]; omega⟩, [])
  else none

/-- `operator<<` on points `ps`, one after another into one stream. -/
def writePoints (ps : List (TemplatePoint T DIM)) : List String :=
  ps.foldl (fun os p => p.write os) []

/-- `operator>>` into the points `qs`, one after another from one stream. -/
def readPoints : List (TemplatePoint T DIM) → List String → Option (List (TemplatePoint T DIM))
  | [], _ => some []
  | q :: qs, is => do
    let (p, rest) ← q.read is
    let ps ← readPoints qs rest
    pure (p :: ps)

/-- The text `operator<<` prints for each coordinate of `p` parses back to it. -/
def TemplatePoint.ReadsBack (p : TemplatePoint T DIM) : Prop :=
  ∀ v ∈ p.x, StreamText.parse (StreamText.print v) = some v

instance [DecidableEq T] (p : TemplatePoint T DIM) : Decidable p.ReadsBack :=
  inferInstanceAs (Decidable (∀ v ∈ p.x, StreamText.parse (StreamText.print v) = some v))

theorem foldl_write (ps : List (TemplatePoint T DIM)) :
    ∀ os : List String, ps.foldl (fun os p => p.write os) os =
      os ++ (ps.flatMap (·.x)).map StreamText.print := by
  induction ps with
  | nil => simp
  | cons p ps ih =>
    intro os
    rw [List.foldl_cons, ih, List.flatMap_cons, List.map_append, TemplatePoint.write,
      List.append_assoc]

theorem extract_map_print (l : List T)
    (hl : ∀ v ∈ l, StreamText.parse (StreamText.print v) = some v) (rest : List String) :
    extract (l.map StreamText.print ++ rest) = l ++ extract rest := by
  induction l with
  | nil => rfl
  | cons v l ih =>
    rw [List.forall_mem_cons] at hl
    rw [List.map_cons, List.cons_append, extract, hl.1, ih hl.2, List.cons_append]

theorem extract_writePoints (ps : List (TemplatePoint T DIM)) (hps : ∀ p ∈ ps, p.ReadsBack) :
    extract (writePoints ps) = ps.flatMap (·.x) := by
  rw [writePoints, foldl_write, List.nil_append, ← List.append_nil (List.map _ _),
    extract_map_print _ (fun v hv => ?_), extract, List.append_nil]
  obtain ⟨p, hp, hv⟩ := List.mem_flatMap.1 hv
  exact hps p hp v hv

theorem read_eq_none_iff (p : TemplatePoint T DIM) (is : List String) :
    p.read is = none ↔ DIM < (extract is : List T).length := by
  unfold TemplatePoint.read
  split_ifs with h <;> simp <;> omega

theorem read_of_extract (p q : TemplatePoint T DIM) (is : List String) (h : extract is = p.x) :
    q.read is = some (p, []) := by
  have hlen : (extract is : List T).length ≤ DIM := by rw [h, p.length_x]
  rw [TemplatePoint.read, dif_pos hlen]
  refine congrArg some (Prod.ext (TemplatePoint.ext ?_) rfl)
  simp [h, List.drop_eq_nil_of_le, p.length_x, q.length_x]

theorem read_of_extract_nil (q : TemplatePoint T DIM) (is : List String) (h : (extract is : List T) = []) :
    q.read is = some (q, []) := by
  rw [TemplatePoint.read, dif_pos (by rw [h]; exact Nat.zero_le _)]
  simp [h]

theorem readPoints_nil : ∀ qs : List (TemplatePoint T DIM), readPoints qs [] = some qs
  | [] => rfl
  | q :: qs => by
    rw [readPoints, read_of_extract_nil q [] rfl]
    simp [readPoints_nil qs]

/-- A lone point whose coordinates print as text that parses back reads back as written, into
any point. -/
theorem read_write_self (p q : TemplatePoint T DIM) (hp : p.ReadsBack) :
    q.read (p.write []) = some (p, []) := by
  refine read_of_extract p q _ ?_
  rw [TemplatePoint.write, List.nil_append, ← List.append_nil (List.map _ _),
    extract_map_print _ hp, extract, List.append_nil]

/-- Points whose coordinates print as text that parses back, written one after another into one
stream and read back into `q :: qs`: with at most one point written, the first point read is that
point (or keeps its coordinates) and the others keep theirs; with two or more, of at least one
coordinate, the first `read` copies every value of the stream, more than `DIM` of them, into `_x`. -/
theorem readPoints_writePoints (hDIM : 0 < DIM) (ps : List (TemplatePoint T DIM))
    (hps : ∀ p ∈ ps, p.ReadsBack) (q : TemplatePoint T DIM) (qs : List (TemplatePoint T DIM)) :
    readPoints (q :: qs) (writePoints ps) =
      if 2 ≤ ps.length then none else some (ps.headD q :: qs) := by
  have hextract := extract_writePoints ps hps
  match ps with
  | [] => simp [readPoints, read_of_extract_nil q _ hextract, readPoints_nil]
  | [p] => simp [readPoints, read_of_extract p q _ (by simpa using hextract), readPoints_nil]
  | p :: p' :: ps =>
    have hover : DIM < (extract (writePoints (p :: p' :: ps)) : List T).length := by
      rw [hextract, length_flatMap_x, List.length_cons, List.length_cons]
      calc DIM < 2 * DIM := by omega
        _ ≤ (ps.length + 1 + 1) * DIM := Nat.mul_le_mul_right DIM (by omega)
    simp [readPoints, (read_eq_none_iff q _).2 hover]

theorem overrun_one_coordinate :
    (0 < 1 ∧ ∀ p ∈ [(⟨[1], rfl⟩ : TemplatePoint Nat 1), ⟨[2], rfl⟩], p.ReadsBack) ∧
      readPoints [(⟨[0], rfl⟩ : TemplatePoint Nat 1)] (writePoints [⟨[1], rfl⟩, ⟨[2], rfl⟩]) =
        if 2 ≤ [(⟨[1], rfl⟩ : TemplatePoint Nat 1), ⟨[2], rfl⟩].length then none
        else some ([(⟨[1], rfl⟩ : TemplatePoint Nat 1), ⟨[2], rfl⟩].headD ⟨[0], rfl⟩ :: []) :=
  ⟨⟨by decide, by decide⟩, readPoints_writePoints (by decide) _ (by decide) _ _⟩

theorem integer_point_reads_back :
    (⟨[1, 20, 300], rfl⟩ : TemplatePoint Nat 3).ReadsBack ∧
      (⟨[0, 0, 0], rfl⟩ : TemplatePoint Nat 3).read ((⟨[1, 20, 300], rfl⟩ : TemplatePoint Nat 3).write []) =
        some (⟨[1, 20, 300], rfl⟩, []) :=
  ⟨by decide, read_write_self _ _ (by decide)⟩

/-- Two points of `DIM = 3` written into one stream: a lone point reads back, the pair does not. -/
theorem two_points_overrun :
    readPoints [(⟨[0, 0, 0], rfl⟩ : TemplatePoint Nat 3)] (writePoints [⟨[1, 2, 3], rfl⟩]) =
        some [⟨[1, 2, 3], rfl⟩] ∧
      readPoints [(⟨[0, 0, 0], rfl⟩ : TemplatePoint Nat 3), ⟨[0, 0, 0], rfl⟩]
        (writePoints [⟨[1, 2, 3], rfl⟩, ⟨[4, 5, 6], rfl⟩]) = none :=
  ⟨rfl, rfl⟩

end Stream

end Ogs.MathLib
