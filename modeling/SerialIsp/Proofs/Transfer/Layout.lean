import Mathlib.Algebra.Ring.Nat
import SerialIsp.Proofs.Dialogue.Memory
import SerialIsp.Proofs.Wire.Damage

/-!
# How encoded data is laid out

Data that is written as lines is cut twice: into blocks of twenty full lines, which are answered
one by one, and into lines. A line holds at most forty-five bytes, and where it is not the last one
it is full, so that cutting at the end of a block cuts at the end of a line. That is why the blocks
can be written one after the other, and why a reader that knows nothing but the number of bytes
still to come knows how many characters to wait for.

The lines are those of the grammar (`WholeLine`), which says what a line is without a writer.
`blockLengths` lists what a reader asks for; it is the recursion of `readBlocksFrom` without the
session, and reading blocks is reading one for each of these lengths (`readBlocks_eq`).
-/

namespace SerialIsp

open Wire

/-! ## Lines -/

namespace Wire

theorem sixBitChar_visible (v : UInt8) : 33 ≤ sixBitChar v ∧ sixBitChar v ≤ 96 := by
  have all : ∀ n < 256, 33 ≤ sixBitChar (UInt8.ofNat n) ∧ sixBitChar (UInt8.ofNat n) ≤ 96 := by
    decide +kernel
  have this := all v.toNat v.toNat_lt
  rwa [UInt8.ofNat_toNat] at this

theorem visible_encodeGroups (b : Bytes) : ∀ c ∈ encodeGroups b, 33 ≤ c ∧ c ≤ 96 := by
  have group (x y z : UInt8) : ∀ c ∈ encodeGroup x y z, 33 ≤ c ∧ c ≤ 96 := by
    intro c mem
    simp only [encodeGroup, List.mem_cons, List.not_mem_nil, or_false] at mem
    rcases mem with rfl | rfl | rfl | rfl
    all_goals exact sixBitChar_visible _
  intro c mem
  induction b using encodeGroups.induct with
  | case1 => cases mem
  | case2 x => exact group x 0 0 c mem
  | case3 x y => exact group x y 0 c mem
  | case4 x y z rest ih =>
    rw [encodeGroups, List.mem_append] at mem
    rcases mem with here | later
    · exact group x y z c here
    · exact ih later

/-- The line that carries some bytes. -/
def WholeLine.of (b : Bytes) (ne : b ≠ []) (fits : b.length ≤ lineCapacity) : WholeLine where
  head := sixBitChar b.length.toUInt8
  body := encodeGroups b
  plain := by
    intro c mem
    rcases List.mem_cons.mp mem with rfl | body
    · exact UInt8.le_trans (by decide) (sixBitChar_visible _).1
    · exact plain_encodeGroups b c body
  counts := by
    rw [valueOf_count fits]
    exact Nat.ne_of_gt (List.length_pos_iff.mpr ne)
  whole := by rw [length_encodeGroups, valueOf_count fits, bodyLength_eq]

section

variable {b : Bytes} (ne : b ≠ []) (fits : b.length ≤ lineCapacity)

theorem WholeLine.data_of : (WholeLine.of b ne fits).data = b := by
  show (unpack (encodeGroups b)).take (valueOf (sixBitChar b.length.toUInt8)) = b
  rw [valueOf_count fits, take_unpack_encodeGroups]

theorem WholeLine.bytes_of :
    (WholeLine.of b ne fits).bytes ++ [Bytes.cr, Bytes.lf] = encodeLine b := rfl

theorem WholeLine.visible_of : ∀ c ∈ (WholeLine.of b ne fits).bytes, 33 ≤ c ∧ c ≤ 96 := by
  intro c mem
  rcases List.mem_cons.mp mem with rfl | body
  · exact sixBitChar_visible _
  · exact visible_encodeGroups b c body

end

/-- **The lines of a text** that carries `x`: as many as are needed, full but for the last one,
    each of visible characters with a line end behind them. -/
structure LaidOut (x : Bytes) (lines : List WholeLine) : Prop where
  text : encode x = lines.flatMap fun line => line.bytes ++ [Bytes.cr, Bytes.lf]
  content : lines.flatMap WholeLine.data = x
  count : lines.length = (x.length + (lineCapacity - 1)) / lineCapacity
  full : ∀ line ∈ lines.dropLast, line.data.length = lineCapacity
  carries : ∀ line ∈ lines, 0 < line.data.length ∧ line.data.length ≤ lineCapacity
  visible : ∀ line ∈ lines, ∀ c ∈ line.bytes, 33 ≤ c ∧ c ≤ 96

theorem LaidOut.nil : LaidOut [] [] where
  text := by
    rw [encode, Bytes.chunks_nil]
    rfl
  content := rfl
  count := rfl
  full := nofun
  carries := nofun
  visible := nofun

/-- One line in front of the others. It is full, unless there are no others. -/
theorem LaidOut.cons {x : Bytes} {lines : List WholeLine} (ne : x ≠ [])
    (later : LaidOut (x.drop lineCapacity) lines) : ∃ line, LaidOut x (line :: lines) := by
  have pos := List.length_pos_iff.mpr ne
  have first : x.take lineCapacity ≠ [] := by
    rw [ne_eq, List.take_eq_nil_iff]
    exact fun none => none.elim (by decide) ne
  have fits : (x.take lineCapacity).length ≤ lineCapacity := List.length_take_le ..
  have data := WholeLine.data_of first fits
  refine ⟨WholeLine.of _ first fits, ?_, ?_, ?_, ?_, ?_, ?_⟩
  · rw [encode_of_ne_nil ne, List.flatMap_cons, WholeLine.bytes_of, later.text]
  · rw [List.flatMap_cons, data, later.content, List.take_append_drop]
  · rw [List.length_cons, later.count, List.length_drop]
    simp only [lineCapacity]
    omega
  · intro line mem
    cases lines with
    | nil => cases mem
    | cons second others =>
      rw [List.dropLast_cons_cons, List.mem_cons] at mem
      rcases mem with rfl | mem
      · have more := later.count
        rw [List.length_cons, List.length_drop] at more
        rw [data, List.length_take]
        simp only [lineCapacity] at more ⊢
        omega
      · exact later.full line mem
  · intro line mem
    rcases List.mem_cons.mp mem with rfl | mem
    · rw [data]
      exact ⟨List.length_pos_iff.mpr first, fits⟩
    · exact later.carries line mem
  · intro line mem
    rcases List.mem_cons.mp mem with rfl | mem
    · exact WholeLine.visible_of first fits
    · exact later.visible line mem

theorem exists_laidOut (x : Bytes) : ∃ lines, LaidOut x lines := by
  induction x using Bytes.chunks_induction (by decide : 0 < lineCapacity) with
  | nil => exact ⟨[], .nil⟩
  | step x ne ih =>
    obtain ⟨lines, later⟩ := ih
    obtain ⟨line, all⟩ := later.cons ne
    exact ⟨line :: lines, all⟩

/-! ## Blocks -/

theorem encode_nil : encode [] = [] := by
  rw [encode, Bytes.chunks_nil, List.flatMap_nil]

theorem encode_append {a : Bytes} (whole : lineCapacity ∣ a.length) (b : Bytes) :
    encode (a ++ b) = encode a ++ encode b := by
  rw [encode, Bytes.chunks_append (by decide) whole, List.flatMap_append, encode, encode]

/-- **Blocks are written one by one**, since a block ends where a line ends. -/
theorem flatMap_encode_chunks (x : Bytes) :
    (Bytes.chunks blockCapacity x).flatMap encode = encode x := by
  induction x using Bytes.chunks_induction blockCapacity_pos with
  | nil => rw [Bytes.chunks_nil, List.flatMap_nil, encode_nil]
  | step x ne ih =>
    rw [Bytes.chunks_of_ne_nil blockCapacity_pos ne, List.flatMap_cons, ih]
    rcases Nat.lt_or_ge x.length blockCapacity with last | more
    · rw [List.take_of_length_le (Nat.le_of_lt last), List.drop_eq_nil_of_le (Nat.le_of_lt last),
        encode_nil, List.append_nil]
    · have whole : lineCapacity ∣ (x.take blockCapacity).length := by
        rw [List.length_take_of_le more]
        exact Nat.dvd_mul_right ..
      rw [← encode_append whole, List.take_append_drop]

/-- The lengths of the blocks that `left` bytes come in. -/
def blockLengths (left : Nat) : List Nat :=
  if _h : left = 0 then []
  else min left blockCapacity :: blockLengths (left - min left blockCapacity)
termination_by left
decreasing_by exact sub_block_lt _h

theorem blockLengths_zero : blockLengths 0 = [] := by
  rw [blockLengths]
  exact dif_pos rfl

theorem blockLengths_of_ne_zero {left : Nat} (more : left ≠ 0) :
    blockLengths left = min left blockCapacity :: blockLengths (left - min left blockCapacity) := by
  rw [blockLengths]
  exact dif_neg more

theorem map_length_chunks (x : Bytes) :
    (Bytes.chunks blockCapacity x).map List.length = blockLengths x.length := by
  induction x using Bytes.chunks_induction blockCapacity_pos with
  | nil => rw [Bytes.chunks_nil, List.length_nil, blockLengths_zero, List.map_nil]
  | step x ne ih =>
    have some := List.length_pos_iff.mpr ne
    have rest : x.length - blockCapacity = x.length - min x.length blockCapacity := by omega
    rw [List.length_drop, rest] at ih
    rw [Bytes.chunks_of_ne_nil blockCapacity_pos ne, List.map_cons, ih, List.length_take,
      Nat.min_comm, ← blockLengths_of_ne_zero (Nat.ne_of_gt some)]

/-- What is waited for adds up, block by block. -/
theorem sum_encodedLength (x : Bytes) :
    ((blockLengths x.length).map encodedLength).sum = encodedLength x.length := by
  calc ((blockLengths x.length).map encodedLength).sum
      = ((Bytes.chunks blockCapacity x).map fun b => (encode b).length).sum := by
        rw [← map_length_chunks, List.map_map]
        exact congrArg _ (List.map_congr_left fun b _ => (length_encode b).symm)
    _ = ((Bytes.chunks blockCapacity x).flatMap encode).length := List.length_flatMap.symm
    _ = encodedLength x.length := by rw [flatMap_encode_chunks, length_encode]

end Wire

/-! ## Reading -/

namespace Session

variable {δ : Type} [Transport δ]

/-- Reads a block of each of these lengths. The first has the number `block`, and `before` bytes
    were read in front of it. -/
def readEach (progress : Bool) (block before : Nat) : List Nat → SessionM δ Bytes
  | [] => return []
  | length :: rest => do
    let b ← readBlock block length
    report progress (.update (before + length))
    return b ++ (← readEach progress (block + 1) (before + length) rest)

theorem readBlocksFrom_eq {count left : Nat} (some : left ≤ count) (progress : Bool)
    (block : Nat) : (readBlocksFrom progress count block left : SessionM δ Bytes) =
      readEach progress block (count - left) (blockLengths left) := by
  induction left using Nat.strongRecOn generalizing block with
  | ind left ih =>
    rw [readBlocksFrom]
    by_cases none : left = 0
    · rw [dif_pos none, none, blockLengths_zero, readEach]
    · have before : count - (left - min left blockCapacity) =
          count - left + min left blockCapacity := by omega
      have later := ih _ (sub_block_lt none) (by omega) (block + 1)
      rw [before] at later
      rw [dif_neg none, blockLengths_of_ne_zero none, readEach]
      simp only [before, later]

/-- **A reader asks for one block after the other**, each of them with the length it has in the
    data. -/
theorem readBlocks_eq (progress : Bool) (count : Nat) :
    (readBlocks progress count : SessionM δ Bytes) = (do
      notify (.readingBlocks count (blockCount count))
      readEach progress 0 0 (blockLengths count)) := by
  rw [readBlocks, readBlocksFrom_eq (Nat.le_refl count), Nat.sub_self]

end Session

/-! ## The layout -/

namespace Wire

theorem encodedLength_lt {n : Nat} (small : n < 2 ^ 62) : encodedLength n < UInt64.size := by
  have words : UInt64.size = 2 ^ 64 := rfl
  unfold encodedLength lineCapacity
  omega

/-- **The layout of encoded data.** A text is as long as was reckoned beforehand, in words as well
    as without bound. It is lines of visible characters, all of them full but for the last. The
    blocks of the data are written one by one, and a reader waits for exactly their lengths. -/
theorem encode_layout (x : Bytes) :
    (encode x).length = encodedLength x.length ∧
    (x.length < 2 ^ 62 → (encodedSize x.length.toUInt64).toNat = (encode x).length) ∧
    (∃ lines, LaidOut x lines) ∧
    (Bytes.chunks blockCapacity x).flatMap encode = encode x ∧
    (Bytes.chunks blockCapacity x).map List.length = blockLengths x.length ∧
    ((blockLengths x.length).map encodedLength).sum = encodedLength x.length ∧
    ∀ {δ : Type} [Transport δ] (progress : Bool),
      (Session.readBlocks progress x.length : SessionM δ Bytes) = (do
        Session.notify (.readingBlocks x.length (blockCount x.length))
        Session.readEach progress 0 0 (blockLengths x.length)) := by
  refine ⟨length_encode x, fun small => ?_, exists_laidOut x, flatMap_encode_chunks x,
    map_length_chunks x, sum_encodedLength x, fun progress => Session.readBlocks_eq progress _⟩
  have word : x.length.toUInt64.toNat = x.length := by
    rw [Nat.toUInt64_eq, UInt64.toNat_ofNat']
    exact Nat.mod_eq_of_lt (Nat.lt_trans small (by decide))
  rw [encodedSize, word, Nat.toUInt64_eq, UInt64.toNat_ofNat',
    Nat.mod_eq_of_lt (encodedLength_lt small), length_encode]

/-- A full block and four bytes more, which are a line and a block of their own. -/
theorem encode_layout_twoBlocks :
    let x : Bytes := .replicate 904 7
    x.length < 2 ^ 62 ∧ (encode x).length = 1271 ∧
      (encodedSize x.length.toUInt64).toNat = (encode x).length := by
  intro x
  have length : x.length = 904 := List.length_replicate
  have small : x.length < 2 ^ 62 := by
    rw [length]
    decide
  obtain ⟨reckoned, sized, -⟩ := encode_layout x
  refine ⟨small, ?_, sized small⟩
  rw [reckoned, length]
  rfl

end Wire

end SerialIsp
