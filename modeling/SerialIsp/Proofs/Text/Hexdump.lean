import Mathlib.Algebra.Ring.Nat
import SerialIsp.Text.Hexdump
import SerialIsp.Proofs.Bytes
import SerialIsp.Proofs.Text.Literals

/-!
# Hexdumps read back

A dump is read here as one reads it on a screen, by position and with no regard to how it was
written: a row opens with its address, each column of two digits has its place whether or not
the columns before it are filled, and the characters stand behind the bar. What is read off the
rows is what was dumped, so no two byte strings look alike (`eq_of_hexdump_eq`).

A row is described column by column (`columnByte?_rowText`), which takes care of a short last row
and of the gap: a blank is no digit, so a column that is not filled holds no byte.
-/

namespace SerialIsp.Text

/-! ## Digits of a fixed width -/

theorem toList_hexFilled_one {n : Nat} (h : n < 16) :
    (hexFilled 1 n).toList = [Nat.digitChar n] := by
  rw [hexFilled, digits, dif_pos (.inr h), String.toList_ofList]
  rfl

theorem toList_hexFilled_succ {width : Nat} (pos : 0 < width) (n : Nat) :
    (hexFilled (width + 1) n).toList =
      (hexFilled width (n / 16)).toList ++ [Nat.digitChar (n % 16)] := by
  simp only [hexFilled, String.toList_ofList]
  by_cases small : n < 16
  · have zero : digits 16 (n / 16) = ['0'] := by
      rw [Nat.div_eq_of_lt small, digits, dif_pos (.inr (by decide))]
      rfl
    rw [zero, digits, dif_pos (.inr small), Nat.mod_eq_of_lt small,
      show (width + 1 - [Nat.digitChar n].length) = width - ['0'].length + 1 by
        rw [List.length_singleton, List.length_singleton]; omega,
      List.replicate_succ']
  · rw [digits, dif_neg (by omega), List.length_append, List.length_singleton,
      Nat.add_sub_add_right, List.append_assoc]

theorem numeral_hexFilled {width n : Nat} (h : n < 16 ^ (width + 1)) :
    Numeral 16 (hexFilled (width + 1) n).toList n ∧
      (hexFilled (width + 1) n).toList.length = width + 1 := by
  induction width generalizing n with
  | zero =>
    rw [toList_hexFilled_one h]
    exact ⟨.one ⟨h, .inl rfl⟩, rfl⟩
  | succ width ih =>
    obtain ⟨front, length⟩ := ih (n := n / 16) (by rw [Nat.pow_succ] at h; omega)
    have digit : IsDigit 16 (Nat.digitChar (n % 16)) (n % 16) :=
      ⟨Nat.mod_lt n (by decide), .inl rfl⟩
    have whole := front.concat digit
    rw [show n / 16 * 16 + n % 16 = n by omega] at whole
    rw [toList_hexFilled_succ (Nat.succ_pos width)]
    exact ⟨whole, by rw [List.length_append, length, List.length_singleton]⟩

/-- The two digits of a byte. -/
theorem toList_hexFilled_byte (b : UInt8) : (hexFilled 2 b.toNat).toList =
    [Nat.digitChar (b.toNat / 16), Nat.digitChar (b.toNat % 16)] := by
  have := b.toNat_lt
  rw [toList_hexFilled_succ (by decide), toList_hexFilled_one (by omega)]
  rfl

/-! ## Rows by position -/

/-- Where the digits of a column stand on a row. -/
def digitsAt (column : Nat) : Nat := 10 + 3 * column + if 8 ≤ column then 1 else 0

/-- The byte in a column of a row: two digits where the column has its place. -/
def columnByte? (row : List Char) (column : Nat) : Option UInt8 := do
  let high ← digitValue? 16 (← row[digitsAt column]?)
  let low ← digitValue? 16 (← row[digitsAt column + 1]?)
  return (high * 16 + low).toUInt8

/-- All bytes in the columns of a row. -/
def rowBytes (row : List Char) : Bytes := (List.range rowLength).filterMap (columnByte? row)

/-- How a byte appears among the characters: as itself if it is printable ASCII or a space, else
    as a dot. -/
def Shown (b : UInt8) (c : Char) : Prop :=
  if 0x20 ≤ b.toNat ∧ b.toNat ≤ 0x7E then c.toNat = b.toNat else c = '.'

/-- What a row says: the address in eight digits, the bytes in their columns, and one character
    for each of them between the bars that end the row. -/
structure RowShows (address : Nat) (bytes : Bytes) (row : List Char) : Prop where
  opens : row.take 8 = (hexFilled 8 address).toList
  digits : (row.take 8).length = 8
  reads : readNumber 16 limit32 (row.take 8) = .ok address
  columns : rowBytes row = bytes
  characters : ∃ column : List Char, row.drop 60 = '|' :: column ++ ['|'] ∧
    column.length = bytes.length ∧ ∀ pair ∈ bytes.zip column, Shown pair.1 pair.2

/-! ## Rows as they are written -/

/-- The digits in a column, blanks if it is not filled. -/
def columnDigits (row : Bytes) (column : Nat) : Char × Char :=
  match row[column]? with
  | some b => (Nat.digitChar (b.toNat / 16), Nat.digitChar (b.toNat % 16))
  | none => (' ', ' ')

/-- The sixteen columns, with the gap before the ninth. -/
def columnsOf (cells : Nat → Char × Char) : List Char :=
  (List.range rowLength).flatMap fun column =>
    (if column = 8 then [' '] else []) ++ [' ', (cells column).1, (cells column).2]

theorem toList_dumpColumn (row : Bytes) (column : Nat) :
    (dumpColumn row column).toList = (if column = 8 then [' '] else []) ++
      [' ', (columnDigits row column).1, (columnDigits row column).2] := by
  unfold dumpColumn columnDigits
  have gap : (if column = 8 then " " else "").toList = if column = 8 then [' '] else [] := by
    split <;> rfl
  cases row[column]? with
  | some b =>
    rw [String.toList_append, String.toList_append, gap, toList_hexFilled_byte, List.append_assoc]
    rfl
  | none =>
    rw [String.toList_append, gap]
    rfl

theorem length_columnsOf (cells : Nat → Char × Char) : (columnsOf cells).length = 49 := rfl

/-- Every column has its place. -/
theorem getElem?_columnsOf (cells : Nat → Char × Char) {column : Nat} (h : column < rowLength) :
    (columnsOf cells)[digitsAt column - 9]? = some (cells column).1 ∧
      (columnsOf cells)[digitsAt column - 8]? = some (cells column).2 := by
  match column, h with
  | 0, _ | 1, _ | 2, _ | 3, _ | 4, _ | 5, _ | 6, _ | 7, _ | 8, _ | 9, _ | 10, _ | 11, _ | 12, _
  | 13, _ | 14, _ | 15, _ => exact ⟨rfl, rfl⟩
  | n + 16, h => exact absurd h (by rw [rowLength]; omega)

/-- A row without its line end. -/
def rowText (address : UInt32) (row : Bytes) : List Char :=
  ((hexFilled 8 address.toNat).toList ++ [' ']) ++ columnsOf (columnDigits row) ++ [' ', ' '] ++
    ('|' :: row.map dumpChar ++ ['|'])

section

variable (address : UInt32) (row : Bytes)

theorem toList_dumpRow : (dumpRow address row).toList = rowText address row ++ ['\n'] := by
  have columns : ((List.range rowLength).map (dumpColumn row)).flatMap String.toList =
      columnsOf (columnDigits row) := by
    rw [List.flatMap_map, columnsOf]
    exact congrArg (List.flatMap · _) (funext fun column => toList_dumpColumn row column)
  simp only [dumpRow, rowText, String.toList_append, String.toList_join, String.toList_ofList,
    columns]
  simp

theorem length_address : (hexFilled 8 address.toNat).toList.length = 8 :=
  (numeral_hexFilled address.toNat_lt).2

theorem getElem?_rowText {column : Nat} (h : column < rowLength) :
    (rowText address row)[digitsAt column]? = some (columnDigits row column).1 ∧
      (rowText address row)[digitsAt column + 1]? = some (columnDigits row column).2 := by
  have first : ((hexFilled 8 address.toNat).toList ++ [' ']).length = 9 := by
    rw [List.length_append, length_address, List.length_singleton]
  have inside {i : Nat} (from' : 9 ≤ i) (before : i < 58) :
      (rowText address row)[i]? = (columnsOf (columnDigits row))[i - 9]? := by
    have length := length_columnsOf (columnDigits row)
    rw [rowText, List.getElem?_append_left, List.getElem?_append_left,
      List.getElem?_append_right, first]
    all_goals simp only [List.length_append, first, length] at *; omega
  have place : 10 ≤ digitsAt column ∧ digitsAt column < 57 := by
    unfold rowLength at h
    unfold digitsAt
    split <;> omega
  obtain ⟨high, low⟩ := getElem?_columnsOf (columnDigits row) h
  rw [inside (by omega) (by omega), inside (by omega) (by omega),
    show digitsAt column + 1 - 9 = digitsAt column - 8 by omega]
  exact ⟨high, low⟩

theorem digitValue?_digitChar {d : Nat} (h : d < 16) : digitValue? 16 (Nat.digitChar d) = some d :=
  digitValue?_of_isDigit (by decide) ⟨h, .inl rfl⟩

/-- **A column shows the byte that has its number**, and nothing if there is none. -/
theorem columnByte?_rowText {column : Nat} (h : column < rowLength) :
    columnByte? (rowText address row) column = row[column]? := by
  obtain ⟨high, low⟩ := getElem?_rowText address row h
  rw [columnByte?, high, low, columnDigits]
  cases row[column]? with
  | none => rfl
  | some b =>
    have := b.toNat_lt
    simp only [Option.bind_eq_bind, Option.bind_some,
      digitValue?_digitChar (show b.toNat / 16 < 16 by omega),
      digitValue?_digitChar (show b.toNat % 16 < 16 by omega)]
    rw [show b.toNat / 16 * 16 + b.toNat % 16 = b.toNat by omega]
    exact congrArg some UInt8.ofNat_toNat

theorem rowBytes_rowText (fits : row.length ≤ rowLength) :
    rowBytes (rowText address row) = row := by
  have front (n : Nat) (inside : n ≤ rowLength) :
      (List.range n).filterMap (columnByte? (rowText address row)) = row.take n := by
    induction n with
    | zero => rfl
    | succ n ih =>
      rw [List.range_succ, List.filterMap_append, ih (Nat.le_of_succ_le inside),
        List.take_add_one, List.filterMap_cons, columnByte?_rowText address row inside]
      cases row[n]? <;> rfl
  rw [rowBytes, front rowLength (Nat.le_refl _), List.take_of_length_le fits]

end

theorem shown_dumpChar (b : UInt8) : Shown b (dumpChar b) := by
  have bounds : (0x20 ≤ b ∧ b ≤ 0x7E) ↔ 0x20 ≤ b.toNat ∧ b.toNat ≤ 0x7E := by
    rw [UInt8.le_iff_toNat_le, UInt8.le_iff_toNat_le]
    rfl
  unfold Shown dumpChar
  simp only [bounds]
  split
  · next printable =>
    rw [Char.ofNat, dif_pos (.inl (by omega))]
    rfl
  · rfl

theorem rowShows_rowText (address : UInt32) {row : Bytes} (fits : row.length ≤ rowLength) :
    RowShows address.toNat row (rowText address row) := by
  have length := length_address address
  have front : (rowText address row).take 8 = (hexFilled 8 address.toNat).toList := by
    rw [rowText, List.append_assoc, List.append_assoc, List.append_assoc, List.take_left' length]
  refine ⟨front, front ▸ length, ?_, rowBytes_rowText address row fits, row.map dumpChar, ?_,
    List.length_map .., fun pair mem => ?_⟩
  · rw [front, readNumber_of_numeral (by decide) (numeral_hexFilled address.toNat_lt).1]
    exact if_pos address.toNat_lt
  · rw [rowText, List.drop_left']
    simp only [List.length_append, length, length_columnsOf, List.length_cons, List.length_nil]
  · have both : row.zip (row.map dumpChar) = row.map fun b => (b, dumpChar b) := by
      rw [← List.zip_map', List.map_id']
    rw [both] at mem
    obtain ⟨b, -, rfl⟩ := List.mem_map.mp mem
    exact shown_dumpChar b

/-! ## Rows of a text -/

/-- Rows that hold no line end are the lines of their text. -/
theorem lines_flatMap {rows : List (List Char)}
    (whole : ∀ row ∈ rows, '\n' ∉ row ∧ dropReturn row = row) :
    lines (rows.flatMap (· ++ ['\n'])) = rows := by
  have cut : splitAtChar '\n' (rows.flatMap (· ++ ['\n'])) = rows ++ [[]] := by
    induction rows with
    | nil => rfl
    | cons row rows ih =>
      obtain ⟨here, behind⟩ := List.forall_mem_cons.mp whole
      rw [List.flatMap_cons, List.append_assoc, List.singleton_append,
        splitAtChar_append, splitAtChar_of_notMem here.1, ih behind, List.singleton_append,
        List.cons_append]
  simp only [lines, cut, List.reverse_append, List.reverse_singleton, List.singleton_append,
    List.reverse_reverse, List.isEmpty_nil, if_true, List.append_nil]
  exact (List.map_congr_left fun row mem => (whole row mem).2).trans (List.map_id' rows)

/-- No row holds a line end. -/
theorem ne_of_mem_rowText {address : UInt32} {row : Bytes} {c : Char}
    (mem : c ∈ rowText address row) : c ≠ '\n' := by
  have digits : ∀ d < 16, Nat.digitChar d ≠ '\n' ∧ (Nat.digitChar d).toUpper ≠ '\n' := by decide
  have cell (column : Nat) : (columnDigits row column).1 ≠ '\n' ∧
      (columnDigits row column).2 ≠ '\n' := by
    unfold columnDigits
    split
    · next b _ =>
      have := b.toNat_lt
      exact ⟨(digits _ (by omega)).1, (digits _ (by omega)).1⟩
    · decide
  have gap (column : Nat) : ∀ c ∈ if column = 8 then [' '] else [], c ≠ '\n' := by
    intro c mem
    split at mem
    · rw [List.mem_singleton.mp mem]
      decide
    · cases mem
  have shown (b : UInt8) : dumpChar b ≠ '\n' := fun same => by
    have here := shown_dumpChar b
    rw [same, Shown] at here
    split at here
    · next printable =>
      have : b.toNat = 10 := here.symm
      omega
    · cases here
  simp only [rowText, columnsOf, List.mem_append, List.mem_flatMap, List.mem_cons, List.mem_map,
    List.not_mem_nil, or_false] at mem
  rcases mem with (((mem | rfl) | ⟨column, -, mem | rfl | rfl | rfl⟩) | rfl | rfl) |
    (rfl | ⟨b, -, rfl⟩) | rfl
  · exact (numeral_hexFilled address.toNat_lt).1.forall_mem (motive := (· ≠ '\n')) digits c mem
  · decide
  · exact gap column c mem
  · decide
  · exact (cell column).1
  · exact (cell column).2
  · decide
  · decide
  · decide
  · exact shown b
  · decide

theorem dropReturn_rowText (address : UInt32) (row : Bytes) :
    dropReturn (rowText address row) = rowText address row := by
  rw [dropReturn, if_neg]
  rw [rowText, ← List.append_assoc, List.getLast?_concat]
  decide

/-! ## Dumps -/

theorem dumpRows_eq (base : UInt32) (rows : List Bytes) : dumpRows base rows =
    rows.mapIdx fun j row => dumpRow (base + (rowLength * j).toUInt32) row := by
  induction rows generalizing base with
  | nil => rfl
  | cons row rows ih =>
    have next (j : Nat) : base + rowLength.toUInt32 + (rowLength * j).toUInt32 =
        base + (rowLength * (j + 1)).toUInt32 := by
      rw [UInt32.add_assoc, Nat.mul_succ, Nat.add_comm (rowLength * j)]
      exact congrArg (base + ·) (UInt32.ofNat_add _ _).symm
    rw [dumpRows, ih, List.mapIdx_cons]
    simp only [next]
    rw [show base + (rowLength * 0).toUInt32 = base from UInt32.add_zero base]

/-- The rows of a dump. -/
def rowTexts (base : UInt32) (data : Bytes) : List (List Char) :=
  (Bytes.chunks rowLength data).mapIdx fun j row => rowText (base + (rowLength * j).toUInt32) row

theorem toList_hexdump (base : UInt32) (data : Bytes) :
    (hexdump data base).toList = (rowTexts base data).flatMap (· ++ ['\n']) := by
  rw [hexdump, String.toList_join, dumpRows_eq, rowTexts, List.flatMap_def, List.flatMap_def]
  refine congrArg List.flatten (List.ext_getElem? fun j => ?_)
  simp only [List.getElem?_map, List.getElem?_mapIdx, Option.map_map, Function.comp_def,
    toList_dumpRow]

theorem lines_hexdump (base : UInt32) (data : Bytes) :
    lines (hexdump data base).toList = rowTexts base data := by
  rw [toList_hexdump]
  refine lines_flatMap fun text mem => ?_
  obtain ⟨j, h, rfl⟩ := List.mem_mapIdx.mp mem
  exact ⟨fun inside => ne_of_mem_rowText inside rfl, dropReturn_rowText _ _⟩

theorem hexdump_append {a : Bytes} (whole : rowLength ∣ a.length) (base : UInt32) (b : Bytes) :
    hexdump (a ++ b) base = hexdump a base ++ hexdump b (base + a.length.toUInt32) := by
  have pos : 0 < rowLength := by decide
  have length : rowLength * (Bytes.chunks rowLength a).length = a.length := by
    obtain ⟨rows, eq⟩ := whole
    rw [Bytes.length_chunks pos, eq]
    unfold rowLength
    omega
  have address (j : Nat) : base + (rowLength * (j + (Bytes.chunks rowLength a).length)).toUInt32 =
      base + a.length.toUInt32 + (rowLength * j).toUInt32 := by
    rw [Nat.mul_add, length, Nat.add_comm, UInt32.add_assoc]
    exact congrArg (base + ·) (UInt32.ofNat_add _ _)
  rw [hexdump, Bytes.chunks_append pos whole, dumpRows_eq, List.mapIdx_append, String.join_append,
    ← dumpRows_eq, hexdump, hexdump, dumpRows_eq (base + a.length.toUInt32)]
  simp only [address]

section

variable (base : UInt32) (data : Bytes)

theorem flatMap_rowBytes_rowTexts : (rowTexts base data).flatMap rowBytes = data := by
  have pos : 0 < rowLength := by decide
  have columns : (rowTexts base data).map rowBytes = Bytes.chunks rowLength data := by
    refine List.ext_getElem? fun j => ?_
    rw [rowTexts, List.getElem?_map, List.getElem?_mapIdx]
    cases h : (Bytes.chunks rowLength data)[j]? with
    | none => rfl
    | some row =>
      exact congrArg some (rowBytes_rowText _ _ (Bytes.eq_piece_of_getElem?_chunks pos h).2)
  rw [List.flatMap_def, columns, Bytes.flatten_chunks pos]

theorem rowShows_of_getElem?_rowTexts {j : Nat} {text : List Char}
    (h : (rowTexts base data)[j]? = some text) :
    RowShows ((base.toNat + 16 * j) % 2 ^ 32) (Bytes.piece 16 data j) text := by
  rw [rowTexts, List.getElem?_mapIdx] at h
  obtain ⟨row, here, rfl⟩ := Option.map_eq_some_iff.mp h
  obtain ⟨rfl, length⟩ := Bytes.eq_piece_of_getElem?_chunks (by decide) here
  have address : (base + (rowLength * j).toUInt32).toNat = (base.toNat + 16 * j) % 2 ^ 32 := by
    rw [UInt32.toNat_add]
    show (base.toNat + 16 * j % 2 ^ 32) % 2 ^ 32 = _
    omega
  exact address ▸ rowShows_rowText _ length

end

/-- Dumps that look alike are of the same bytes, wherever those lie. -/
theorem eq_of_hexdump_eq {a b : Bytes} {base base' : UInt32}
    (same : hexdump a base = hexdump b base') : a = b := by
  rw [← flatMap_rowBytes_rowTexts base a, ← lines_hexdump, same, lines_hexdump,
    flatMap_rowBytes_rowTexts]

/-- **A dump shows what was dumped.** It has one row for each sixteen bytes; a row opens with its
    address, which wraps at 2^32, and the columns of all rows are the data. Where the data is cut
    between two rows, the dump is that of both parts. -/
theorem hexdump_shows (base : UInt32) (data : Bytes) :
    let rows := lines (hexdump data base).toList
    (hexdump data base).toList = rows.flatMap (· ++ ['\n']) ∧
    rows.length = (data.length + 15) / 16 ∧
    rows.flatMap rowBytes = data ∧
    (∀ j row, rows[j]? = some row →
      RowShows ((base.toNat + 16 * j) % 2 ^ 32) (Bytes.piece 16 data j) row) ∧
    ∀ a b, data = a ++ b → 16 ∣ a.length →
      hexdump data base = hexdump a base ++ hexdump b (base + a.length.toUInt32) := by
  intro rows
  have eq : rows = rowTexts base data := lines_hexdump base data
  refine ⟨eq ▸ toList_hexdump base data, ?_, eq ▸ flatMap_rowBytes_rowTexts base data,
    fun j text h => rowShows_of_getElem?_rowTexts base data (eq ▸ h), ?_⟩
  · rw [eq, rowTexts, List.length_mapIdx, Bytes.length_chunks (by decide)]
    rfl
  · rintro a b rfl whole
    exact hexdump_append whole base b

/-- Twenty bytes across the end of the addresses. -/
theorem hexdump_shows_wrapped :
    let data : Bytes := (List.range 20).map fun i => (0x41 + i).toUInt8
    let rows := lines (hexdump data 0xFFFFFFF0).toList
    (∃ row, rows[1]? = some row ∧ RowShows 0 [0x51, 0x52, 0x53, 0x54] row) ∧
      16 ∣ (data.take 16).length ∧
      hexdump data 0xFFFFFFF0 = hexdump (data.take 16) 0xFFFFFFF0 ++ hexdump (data.drop 16) 0 := by
  intro data rows
  obtain ⟨-, count, -, shows, cut⟩ := hexdump_shows 0xFFFFFFF0 data
  have second : 1 < rows.length := by
    rw [count]
    decide
  refine ⟨⟨rows[1], List.getElem?_eq_getElem second, ?_⟩, by decide, ?_⟩
  · exact shows 1 _ (List.getElem?_eq_getElem second)
  · have wraps : (0xFFFFFFF0 : UInt32) + (data.take 16).length.toUInt32 = 0 := by decide
    rw [cut (data.take 16) (data.drop 16) (by decide) (by decide), wraps]

example : hexdump (Bytes.ascii "OK\r\n") 0 =
    "00000000  4f 4b 0d 0a                                       |OK..|\n" := by cbv

end SerialIsp.Text
