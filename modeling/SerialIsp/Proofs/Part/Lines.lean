import SerialIsp.Part.Record
import SerialIsp.Proofs.Text.Blanks

/-!
# Parts files line by line

What a parts file holds behind a line feed is read as if it stood alone, only that its lines are
counted on (`ByLines.append`). So a line cannot spoil another, whatever is wrong with it, lines
that hold no record only shift numbers, and it does not matter which line feeds have a carriage
return in front of them.

A line is trimmed before anything is read off it. That is why the two corner cases of line ends
drop out: a carriage return in front of a line feed is a blank, and an empty last line, which is
no line, would have held no record (`ofTextBy_eq`).
-/

namespace SerialIsp

/-! ## Line ends -/

/-- Texts that are equal but for line feeds of the first that have a carriage return in front of
    them in the second. -/
inductive Text.SameLines : List Char → List Char → Prop
  | nil : SameLines [] []
  | char (c : Char) {a b : List Char} (same : SameLines a b) : SameLines (c :: a) (c :: b)
  | crlf {a b : List Char} (same : SameLines a b) : SameLines ('\n' :: a) ('\r' :: '\n' :: b)

/-- The lines of a text, and what follows the last line feed. -/
theorem Text.lines_eq (cs : List Char) : ∃ before last,
    splitAtChar '\n' cs = before ++ [last] ∧
      lines cs = before.map dropReturn ++ if last.isEmpty then [] else [last] := by
  unfold lines
  split
  · next none =>
    rw [List.reverse_eq_nil_iff] at none
    exact absurd none (splitAtChar_ne_nil '\n' cs)
  · next last before cut =>
    refine ⟨before.reverse, last, ?_, rfl⟩
    rw [← List.reverse_cons, ← cut, List.reverse_reverse]

namespace Part

open Text

/-! ## Lines one by one -/

/-- A result as it is told that many lines further down. -/
def later (lines : Nat) : Except Failure Part → Except Failure Part
  | .error (.badRecord line fault) => .error (.badRecord (line + lines) fault)
  | record => record

/-- What one line holds: its record, or why it is none, or nothing. -/
def ofNumberedLine (read : LiteralReader) (number : Nat) (line : List Char) :
    List (Except Failure Part) :=
  match ofLine? read line with
  | none => []
  | some (.ok part) => [.ok part]
  | some (.error fault) => [.error (.badRecord number fault)]

variable (read : LiteralReader)

theorem ofNumberedLine_congr (number : Nat) {a b : List Char} (same : trim a = trim b) :
    ofNumberedLine read number a = ofNumberedLine read number b := by
  rw [ofNumberedLine, ofNumberedLine, ofLine?, ofLine?, same]

theorem ofNumberedLine_add (number k : Nat) (line : List Char) :
    ofNumberedLine read (number + k) line = (ofNumberedLine read number line).map (later k) := by
  unfold ofNumberedLine
  split <;> rfl

theorem ofLines_cons (number : Nat) (line : List Char) (rest : List (List Char)) :
    ofLines read number (line :: rest) =
      ofNumberedLine read number line ++ ofLines read (number + 1) rest := by
  rw [ofLines, ofNumberedLine]
  cases ofLine? read line with
  | none => rfl
  | some record => cases record <;> rfl

theorem ofLines_append (number : Nat) (as bs : List (List Char)) :
    ofLines read number (as ++ bs) =
      ofLines read number as ++ ofLines read (number + as.length) bs := by
  induction as generalizing number with
  | nil => rfl
  | cons line as ih =>
    rw [List.cons_append, ofLines_cons, ih, ofLines_cons, List.append_assoc, List.length_cons,
      Nat.add_assoc, Nat.add_comm 1]

theorem ofLines_add (number k : Nat) (ls : List (List Char)) :
    ofLines read (number + k) ls = (ofLines read number ls).map (later k) := by
  induction ls generalizing number with
  | nil => rfl
  | cons line ls ih =>
    rw [ofLines_cons, ofLines_cons, ofNumberedLine_add, Nat.add_right_comm, ih, List.map_append]

theorem ofLines_congr {as bs : List (List Char)} (same : as.map trim = bs.map trim)
    (number : Nat) : ofLines read number as = ofLines read number bs := by
  induction as generalizing number bs with
  | nil => rw [List.map_eq_nil_iff.mp same.symm]
  | cons a as ih =>
    obtain ⟨b, bs, rfl, first, rest⟩ := List.map_eq_cons_iff.mp same.symm
    rw [ofLines_cons, ofLines_cons, ofNumberedLine_congr read number first.symm, ih rest.symm]

/-- What a text holds is what stands between its line feeds. -/
theorem ofTextBy_eq (text : String) :
    ofTextBy read text = ofLines read 1 (splitAtChar '\n' text.toList) := by
  obtain ⟨before, last, cut, same⟩ := lines_eq text.toList
  rw [ofTextBy, same, cut, ofLines_append, ofLines_append, List.length_map]
  congr 1
  · refine ofLines_congr read ?_ 1
    rw [List.map_map]
    exact List.map_congr_left fun line _ => trim_dropReturn line
  · split
    · next empty => rw [List.isEmpty_iff.mp empty]; rfl
    · rfl

/-! ## Texts -/

/-- The number of line feeds in a text. -/
def feeds (text : String) : Nat := text.toList.count '\n'

/-- A line that is blank or a comment. -/
def IsIdle (line : String) : Prop :=
  trim line.toList = [] ∨ (trim line.toList).head? = some '#'

theorem toList_feed (a b : String) : (a ++ "\n" ++ b).toList = a.toList ++ '\n' :: b.toList := by
  rw [String.toList_append, String.toList_append, List.append_assoc]
  rfl

theorem ofTextBy_append (a b : String) :
    ofTextBy read (a ++ "\n" ++ b) =
      ofTextBy read a ++ (ofTextBy read b).map (later (feeds a + 1)) := by
  rw [ofTextBy_eq, ofTextBy_eq, ofTextBy_eq, toList_feed, splitAtChar_append, ofLines_append,
    length_splitAtChar, ofLines_add]
  rfl

theorem ofTextBy_idle {line : String} (one : '\n' ∉ line.toList) (idle : IsIdle line) :
    ofTextBy read line = [] := by
  have none : ofLine? read line.toList = none := by
    rcases idle with blank | comment
    · simp only [ofLine?, blank]
    · obtain ⟨rest, comment⟩ := List.head?_eq_some_iff.mp comment
      simp only [ofLine?, comment]
  rw [ofTextBy_eq, splitAtChar_of_notMem one, ofLines, none]
  rfl

theorem feeds_of_notMem {line : String} (one : '\n' ∉ line.toList) : feeds line = 0 :=
  List.count_eq_zero_of_not_mem one

theorem ofLines_crlf (number : Nat) (a b : List Char) :
    ofLines read number (splitAtChar '\n' (a ++ '\r' :: '\n' :: b)) =
      ofLines read number (splitAtChar '\n' (a ++ '\n' :: b)) := by
  refine ofLines_congr read ?_ number
  rw [List.append_cons, splitAtChar_append, splitAtChar_append, List.map_append,
    map_trim_splitAtChar_concat rfl (by decide), List.map_append]

theorem ofLines_of_sameLines {a b : List Char} (same : SameLines a b) (number : Nat) :
    ofLines read number (splitAtChar '\n' a) = ofLines read number (splitAtChar '\n' b) := by
  suffices prefixed : ∀ front : List Char,
      ofLines read number (splitAtChar '\n' (front ++ a)) =
        ofLines read number (splitAtChar '\n' (front ++ b)) from prefixed []
  induction same with
  | nil => exact fun _ => rfl
  | char c same ih =>
    intro front
    rw [List.append_cons, ih, ← List.append_cons]
  | crlf same ih =>
    intro front
    rw [ofLines_crlf, List.append_cons, ih, ← List.append_cons]

/-- How the results on a text go back to its lines. -/
structure ByLines (read : LiteralReader) (a b : String) : Prop where
  append : ofTextBy read (a ++ "\n" ++ b) =
    ofTextBy read a ++ (ofTextBy read b).map (later (feeds a + 1))
  /-- Whatever stands on a line between them, other lines have the results they have. -/
  between : ∀ line, '\n' ∉ line.toList → ofTextBy read (a ++ "\n" ++ line ++ "\n" ++ b) =
    ofTextBy read a ++ (ofTextBy read line).map (later (feeds a + 1)) ++
      (ofTextBy read b).map (later (feeds a + 2))
  /-- A line without a record, wherever it is put. -/
  idle : ∀ line, '\n' ∉ line.toList → IsIdle line →
    ofTextBy read (line ++ "\n" ++ b) = (ofTextBy read b).map (later 1) ∧
      ofTextBy read (a ++ "\n" ++ line ++ "\n" ++ b) =
        ofTextBy read a ++ (ofTextBy read b).map (later (feeds a + 2)) ∧
      ofTextBy read (a ++ "\n" ++ line) = ofTextBy read a
  returns : SameLines a.toList b.toList → ofTextBy read a = ofTextBy read b

/-- **A parts file is read line by line.** -/
theorem byLines (a b : String) : ByLines read a b := by
  have between (line : String) (one : '\n' ∉ line.toList) :
      ofTextBy read (a ++ "\n" ++ line ++ "\n" ++ b) =
        ofTextBy read a ++ (ofTextBy read line).map (later (feeds a + 1)) ++
          (ofTextBy read b).map (later (feeds a + 2)) := by
    have counted : feeds (a ++ "\n" ++ line) = feeds a + 1 := by
      rw [feeds, toList_feed, List.count_append, List.count_cons_self,
        List.count_eq_zero_of_not_mem one, feeds]
    rw [ofTextBy_append, counted, ofTextBy_append]
  refine ⟨ofTextBy_append read a b, between, fun line one idle => ⟨?_, ?_, ?_⟩, fun same => ?_⟩
  · rw [ofTextBy_append, ofTextBy_idle read one idle, feeds_of_notMem one, List.nil_append]
  · rw [between line one, ofTextBy_idle read one idle, List.map_nil, List.append_nil]
  · rw [ofTextBy_append, ofTextBy_idle read one idle, List.map_nil, List.append_nil]
  · rw [ofTextBy_eq, ofTextBy_eq, ofLines_of_sameLines read same]

end Part
end SerialIsp
