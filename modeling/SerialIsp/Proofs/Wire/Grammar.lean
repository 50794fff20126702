import SerialIsp.Proofs.Wire.Lines

/-!
# The language of printable lines

Which byte strings are lines, said with numbers and lengths only and without a reader: a
printable character has a value of six bits, four values are a number of 24 bits and so three
bytes, and a line is a character for its byte count with as many groups behind it as the count
asks for. Characters below the blank may stand around lines, and a line that counts nothing
ends the text. A text that is not of this shape has a first line that is cut.

Every byte string is of one kind or the other, so it is enough to follow `decodeFrom` through
both of them: what it returns then says which kind it read.
-/

namespace SerialIsp.Wire

/-! ## Values and groups -/

/-- The six bits that a printable character stands for, as a number. -/
def valueOf (c : UInt8) : Nat := (c.toNat - 32) % 64

/-- Every four characters are a number of 24 bits, most significant first, and its three
    bytes. -/
def unpack : Bytes → Bytes
  | a :: b :: c :: d :: rest =>
    let n := ((valueOf a * 64 + valueOf b) * 64 + valueOf c) * 64 + valueOf d
    (n / 65536).toUInt8 :: (n / 256 % 256).toUInt8 :: (n % 256).toUInt8 :: unpack rest
  | _ => []

theorem isControl_iff (c : UInt8) : isControl c = true ↔ c < 32 := by
  rw [isControl, decide_eq_true_iff]

theorem isControl_of_le {c : UInt8} (plain : 32 ≤ c) : isControl c = false := by
  rw [isControl, decide_eq_false_iff_not, UInt8.not_lt]
  exact plain

theorem toNat_sixBits {c : UInt8} (plain : 32 ≤ c) : (sixBits c).toNat = valueOf c := by
  rw [sixBits, UInt8.toNat_and, UInt8.toNat_sub_of_le _ _ plain]
  exact Nat.and_two_pow_sub_one_eq_mod (c.toNat - 32) 6

theorem valueOf_lt (c : UInt8) : valueOf c < 64 := Nat.mod_lt _ (by decide)

/-- Bits that do not overlap add up. -/
theorem toNat_shiftLeft_or {hi lo k : UInt8} {m : Nat} (fits : k.toNat < 8)
    (scale : 1 <<< k.toNat = m) (low : lo.toNat < m) :
    (hi <<< k ||| lo).toNat = (hi.toNat * m + lo.toNat) % 256 := by
  have small : lo.toNat % 2 ^ 8 = lo.toNat := Nat.mod_eq_of_lt lo.toNat_lt
  rw [Nat.one_shiftLeft] at scale
  subst scale
  rw [UInt8.toNat_or, UInt8.toNat_shiftLeft, Nat.mod_eq_of_lt fits, ← small,
    ← Nat.or_mod_two_pow, ← Nat.shiftLeft_add_eq_or_of_lt low, Nat.shiftLeft_eq, small]

theorem toNat_shiftRight_of_lt {v k : UInt8} {m : Nat} (fits : k.toNat < 8)
    (scale : 1 <<< k.toNat = m) : (v >>> k).toNat = v.toNat / m := by
  rw [Nat.one_shiftLeft] at scale
  rw [UInt8.toNat_shiftRight, Nat.mod_eq_of_lt fits, Nat.shiftRight_eq_div_pow, scale]

/-- **The bits of a group are its number.** -/
theorem decodeGroups_eq_unpack {b : Bytes} (plain : ∀ c ∈ b, 32 ≤ c) :
    decodeGroups b = unpack b := by
  induction b using unpack.induct with
  | case1 a b c d rest ih =>
    simp only [List.mem_cons, forall_eq_or_imp] at plain
    obtain ⟨plainA, plainB, plainC, plainD, plain⟩ := plain
    have valA := toNat_sixBits plainA
    have valB := toNat_sixBits plainB
    have valC := toNat_sixBits plainC
    have valD := toNat_sixBits plainD
    have ltA := valueOf_lt a
    have ltB := valueOf_lt b
    have ltC := valueOf_lt c
    have ltD := valueOf_lt d
    have first : (sixBits b >>> 4).toNat = valueOf b / 16 := by
      rw [toNat_shiftRight_of_lt (m := 16) (by decide) rfl, valB]
    have second : (sixBits c >>> 2).toNat = valueOf c / 4 := by
      rw [toNat_shiftRight_of_lt (m := 4) (by decide) rfl, valC]
    rw [decodeGroups, unpack, ih plain]
    simp only [List.cons.injEq, and_true]
    refine ⟨?first, ?second, ?third⟩
    all_goals
      apply UInt8.toNat_inj.mp
      rw [Nat.toUInt8_eq, UInt8.toNat_ofNat']
    case first =>
      have low : (sixBits b >>> 4).toNat < 4 := by omega
      rw [toNat_shiftLeft_or (m := 4) (by decide) rfl low, first, valA]
      omega
    case second =>
      have low : (sixBits c >>> 2).toNat < 16 := by omega
      rw [toNat_shiftLeft_or (m := 16) (by decide) rfl low, second, valB]
      omega
    case third =>
      have low : (sixBits d).toNat < 64 := by omega
      rw [toNat_shiftLeft_or (m := 64) (by decide) rfl low, valC, valD]
      omega
  | case2 b short => rw [decodeGroups.eq_2 b short, unpack.eq_2 b short]

/-! ## Texts -/

/-- The characters that carry `k` bytes: four for each three of them, the last ones filled
    up. -/
def bodyLength (k : Nat) : Nat := 4 * ((k + 2) / 3)

/-- A line: a character that counts its bytes, and the groups for as many. -/
structure WholeLine where
  head : UInt8
  body : Bytes
  plain : ∀ c ∈ head :: body, 32 ≤ c
  counts : valueOf head ≠ 0
  whole : body.length = bodyLength (valueOf head)

/-- A line as it stands in the text. -/
def WholeLine.bytes (line : WholeLine) : Bytes := line.head :: line.body

/-- What a line carries: as many bytes of its groups as it counts. -/
def WholeLine.data (line : WholeLine) : Bytes := (unpack line.body).take (valueOf line.head)

/-- What may stand around lines. -/
def IsGap (b : Bytes) : Prop := ∀ c ∈ b, c < 32

/-- How a text ends: nothing follows, or a character that counts no bytes, and then
    anything. -/
def IsEnding (b : Bytes) : Prop :=
  b = [] ∨ ∃ mark rest, b = mark :: rest ∧ 32 ≤ mark ∧ valueOf mark = 0

/-- A line that is cut: it counts bytes, and its groups are cut by the end of the text or by a
    character that may not stand in them. -/
def IsCut (b : Bytes) : Prop :=
  ∃ head rest, b = head :: rest ∧ 32 ≤ head ∧ valueOf head ≠ 0 ∧
    (rest.length < bodyLength (valueOf head) ∨
      ∃ c ∈ rest.take (bodyLength (valueOf head)), c < 32)

/-- `Lines b out`: `b` is lines, each with a gap in front of it, and `out` is what they
    carry. -/
inductive Lines : Bytes → Bytes → Prop
  | nil : Lines [] []
  | cons {gap b out : Bytes} (line : WholeLine) (around : IsGap gap) (more : Lines b out) :
      Lines (gap ++ line.bytes ++ b) (line.data ++ out)

/-- A text of the language, and what it carries. -/
def IsText (e out : Bytes) : Prop :=
  ∃ lines gap ending, e = lines ++ gap ++ ending ∧ Lines lines out ∧ IsGap gap ∧ IsEnding ending

/-- A text whose first line that is no line stands `offset` bytes into it. -/
def IsCutAt (e : Bytes) (offset : Nat) : Prop :=
  ∃ lines gap cut out, e = lines ++ gap ++ cut ∧ Lines lines out ∧ IsGap gap ∧ IsCut cut ∧
    offset = (lines ++ gap).length

/-! ## Reading what is in the language, and what is not -/

theorem bodyLength_eq (k : Nat) : bodyLength k = groupLength k := Nat.mul_comm ..

theorem any_isControl_eq_false {b : Bytes} (plain : ∀ c ∈ b, 32 ≤ c) :
    b.any isControl = false := by
  rw [List.any_eq_false]
  intro c mem
  rw [isControl_of_le (plain c mem)]
  exact Bool.false_ne_true

theorem decodeFrom_isGap {gap : Bytes} (around : IsGap gap) (offset : Nat) (rest : Bytes) :
    decodeFrom offset (gap ++ rest) = decodeFrom (offset + gap.length) rest :=
  decodeFrom_gap (fun c mem => (isControl_iff c).mpr (around c mem)) offset rest

theorem decodeFrom_wholeLine (line : WholeLine) (offset : Nat) (rest : Bytes) :
    decodeFrom offset (line.bytes ++ rest) =
      (decodeFrom (offset + line.bytes.length) rest).map (line.data ++ ·) := by
  have count := toNat_sixBits (line.plain line.head List.mem_cons_self)
  have plain (c : UInt8) (mem : c ∈ line.body) : 32 ≤ c :=
    line.plain c (List.mem_cons_of_mem _ mem)
  have read := decodeFrom_line (isControl_of_le (line.plain line.head List.mem_cons_self))
    (count ▸ line.counts) (by rw [line.whole, count, bodyLength_eq])
    (any_isControl_eq_false plain) offset rest
  rw [count, decodeGroups_eq_unpack plain] at read
  exact read

/-- **Lines are read** as what they carry. -/
theorem Lines.decodeFrom {b out : Bytes} (lines : Lines b out) (offset : Nat) (rest : Bytes) :
    decodeFrom offset (b ++ rest) = (decodeFrom (offset + b.length) rest).map (out ++ ·) := by
  induction lines generalizing offset with
  | nil =>
    show Wire.decodeFrom offset rest = (Wire.decodeFrom offset rest).map id
    cases Wire.decodeFrom offset rest <;> rfl
  | @cons gap b out line around more ih =>
    rw [List.append_assoc, List.append_assoc, decodeFrom_isGap around, decodeFrom_wholeLine, ih,
      List.length_append, List.length_append, Nat.add_assoc, Nat.add_assoc, Nat.add_assoc]
    cases Wire.decodeFrom (offset + (gap.length + (line.bytes.length + b.length))) rest with
    | error cut => rfl
    | ok tail => exact congrArg Except.ok (List.append_assoc ..).symm

theorem IsEnding.decodeFrom {b : Bytes} (ending : IsEnding b) (offset : Nat) :
    decodeFrom offset b = .ok [] := by
  rcases ending with rfl | ⟨mark, rest, rfl, plain, zero⟩
  · rw [Wire.decodeFrom]
  · have count := toNat_sixBits plain
    rw [Wire.decodeFrom, isControl_of_le plain, count]
    exact if_pos zero

theorem IsCut.decodeFrom {b : Bytes} (cut : IsCut b) (offset : Nat) :
    decodeFrom offset b = .error ⟨offset⟩ := by
  obtain ⟨head, rest, rfl, plain, counts, bad⟩ := cut
  have count := toNat_sixBits plain
  rw [Wire.decodeFrom, isControl_of_le plain, count]
  refine (if_neg counts).trans (if_pos ?_)
  rw [Bool.or_eq_true, decide_eq_true_iff, ← bodyLength_eq, List.length_take, List.any_eq_true]
  rcases bad with short | ⟨c, mem, control⟩
  · exact .inl (by omega)
  · exact .inr ⟨c, mem, (isControl_iff c).mpr control⟩

theorem IsText.decode {e out : Bytes} (text : IsText e out) : decode e = .ok out := by
  obtain ⟨lines, gap, ending, rfl, whole, around, last⟩ := text
  rw [Wire.decode, List.append_assoc, whole.decodeFrom, decodeFrom_isGap around, last.decodeFrom]
  exact congrArg Except.ok (List.append_nil out)

theorem IsCutAt.decode {e : Bytes} {offset : Nat} (cutAt : IsCutAt e offset) :
    decode e = .error ⟨offset⟩ := by
  obtain ⟨lines, gap, cut, out, rfl, whole, around, first, rfl⟩ := cutAt
  rw [Wire.decode, List.append_assoc, whole.decodeFrom, decodeFrom_isGap around,
    first.decodeFrom, Nat.zero_add, List.length_append]
  rfl

/-! ## There is nothing else -/

/-- A line in front of a text, and the gap in front of it. -/
theorem IsText.cons {gap e out : Bytes} (around : IsGap gap) (line : WholeLine)
    (text : IsText e out) : IsText (gap ++ line.bytes ++ e) (line.data ++ out) := by
  obtain ⟨lines, later, ending, rfl, whole, rest, last⟩ := text
  refine ⟨gap ++ line.bytes ++ lines, later, ending, ?_, .cons line around whole, rest, last⟩
  simp only [List.append_assoc]

theorem IsCutAt.cons {gap e : Bytes} {offset : Nat} (around : IsGap gap) (line : WholeLine)
    (cutAt : IsCutAt e offset) :
    IsCutAt (gap ++ line.bytes ++ e) ((gap ++ line.bytes).length + offset) := by
  obtain ⟨lines, later, cut, out, rfl, whole, rest, first, rfl⟩ := cutAt
  refine ⟨gap ++ line.bytes ++ lines, later, cut, line.data ++ out, ?_,
    .cons line around whole, rest, first, ?_⟩
  · simp only [List.append_assoc]
  · rw [← List.length_append]
    simp only [List.append_assoc]

theorem exists_gap (e : Bytes) :
    ∃ gap behind, e = gap ++ behind ∧ IsGap gap ∧ ∀ c ∈ behind.head?, 32 ≤ c := by
  induction e with
  | nil => exact ⟨[], [], rfl, nofun, nofun⟩
  | cons c e ih =>
    by_cases control : c < 32
    · obtain ⟨gap, behind, rfl, around, opens⟩ := ih
      refine ⟨c :: gap, behind, rfl, ?_, opens⟩
      rintro d (_ | ⟨_, mem⟩)
      · exact control
      · exact around d mem
    · refine ⟨[], c :: e, rfl, nofun, ?_⟩
      rintro d ⟨⟩
      exact UInt8.not_lt.mp control

/-- What stands behind a gap is an ending, a line that is cut, or a whole line and more. -/
theorem ending_or_cut_or_line (b : Bytes) (opens : ∀ c ∈ b.head?, 32 ≤ c) :
    IsEnding b ∨ IsCut b ∨ ∃ (line : WholeLine) (rest : Bytes), b = line.bytes ++ rest := by
  cases b with
  | nil => exact .inl (.inl rfl)
  | cons head rest =>
    have plain : 32 ≤ head := opens head rfl
    by_cases zero : valueOf head = 0
    · exact .inl (.inr ⟨head, rest, rfl, plain, zero⟩)
    refine .inr ?_
    by_cases short : rest.length < bodyLength (valueOf head)
    · exact .inl ⟨head, rest, rfl, plain, zero, .inl short⟩
    by_cases control : ∃ c ∈ rest.take (bodyLength (valueOf head)), c < 32
    · exact .inl ⟨head, rest, rfl, plain, zero, .inr control⟩
    refine .inr ⟨⟨head, rest.take (bodyLength (valueOf head)), ?_, zero, ?_⟩,
      rest.drop (bodyLength (valueOf head)), ?_⟩
    · intro c mem
      rcases List.mem_cons.mp mem with rfl | inside
      · exact plain
      · exact UInt8.not_lt.mp fun low => control ⟨c, inside, low⟩
    · rw [List.length_take]
      omega
    · rw [WholeLine.bytes, List.cons_append, List.take_append_drop]

/-- **Every byte string** is a text of the language or has a first line that is cut. -/
theorem isText_or_isCutAt (e : Bytes) : (∃ out, IsText e out) ∨ ∃ offset, IsCutAt e offset := by
  induction length : e.length using Nat.strongRecOn generalizing e with
  | ind n ih =>
    subst length
    obtain ⟨gap, behind, parts, around, opens⟩ := exists_gap e
    rcases ending_or_cut_or_line behind opens with ending | cut | ⟨line, rest, next⟩
    · exact .inl ⟨[], [], gap, behind, parts, .nil, around, ending⟩
    · exact .inr ⟨gap.length, [], gap, behind, [], parts, .nil, around, cut, rfl⟩
    · rw [next, ← List.append_assoc] at parts
      have shorter : rest.length < e.length := by
        rw [parts]
        simp only [List.length_append, WholeLine.bytes, List.length_cons]
        omega
      rcases ih rest.length shorter rest rfl with ⟨out, text⟩ | ⟨offset, cutAt⟩
      · exact .inl ⟨_, parts ▸ text.cons around line⟩
      · exact .inr ⟨_, parts ▸ cutAt.cons around line⟩

/-- **The language that is read.** A byte string is read exactly when it is a text of the
    language, as what that text carries; every other one is cut, and the offset that is told
    is that of the first line that is no line. -/
theorem decode_language (e : Bytes) :
    (∀ out, decode e = .ok out ↔ IsText e out) ∧
    (∀ offset, decode e = .error ⟨offset⟩ ↔ IsCutAt e offset) ∧
    ((∃ out, IsText e out) ∨ ∃ offset, IsCutAt e offset) := by
  have either := isText_or_isCutAt e
  refine ⟨fun out => ⟨fun read => ?_, IsText.decode⟩,
    fun offset => ⟨fun failed => ?_, IsCutAt.decode⟩, either⟩
  · rcases either with ⟨out', text⟩ | ⟨offset, cutAt⟩
    · rwa [← Except.ok.inj (text.decode.symm.trans read)]
    · exact nomatch read.symm.trans cutAt.decode
  · rcases either with ⟨out, text⟩ | ⟨offset', cutAt⟩
    · exact nomatch failed.symm.trans text.decode
    · have same := Except.error.inj (cutAt.decode.symm.trans failed)
      rwa [← CutLine.mk.inj same]

end SerialIsp.Wire
