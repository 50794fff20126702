import SerialIsp.Proofs.Wire.Grammar
import SerialIsp.Wire.Block

/-!
# One wrong character

A reader takes a block when its lines read back to as many bytes as are due, and these have the
sum that was told. Where one character of the lines is wrong, whichever it is and whatever it
became, that is enough: what is taken is what was sent.

There are two kinds of damage, and each is caught by one half of the test.

* **A wrong character in a group** is six wrong bits. They go to one byte or to two, and where they
  go to two their weights are so far apart that the sum settles them all
  (`OneWrong.eq_of_byteSum`).
* **A wrong count** sends the reader into the line, where it takes the groups for lines of their
  own. Each of these costs a character for its count, so that too few bytes come out
  (`length_decodeFrom_le`), and a count that is too large runs into the end of the line.
-/

namespace SerialIsp.Wire

/-! ## Sums -/

theorem byteSum_cons (c : UInt8) (b : Bytes) : byteSum (c :: b) = c.toUInt32 + byteSum b := by
  have from_ (b : Bytes) (start : UInt32) :
      b.foldl (fun sum byte => sum + byte.toUInt32) start = start + byteSum b := by
    unfold byteSum
    induction b generalizing start with
    | nil => exact (UInt32.add_zero start).symm
    | cons d b ih =>
      rw [List.foldl_cons, List.foldl_cons, ih, ih (0 + d.toUInt32), UInt32.zero_add,
        UInt32.add_assoc]
  unfold byteSum
  rw [List.foldl_cons, from_, UInt32.zero_add]
  rfl

theorem byteSum_append (a b : Bytes) : byteSum (a ++ b) = byteSum a + byteSum b := by
  induction a with
  | nil => exact (UInt32.zero_add _).symm
  | cons c a ih => rw [List.cons_append, byteSum_cons, byteSum_cons, ih, UInt32.add_assoc]

theorem byteSum_append_left {a b c : Bytes} :
    byteSum (a ++ b) = byteSum (a ++ c) ↔ byteSum b = byteSum c := by
  rw [byteSum_append, byteSum_append, UInt32.add_right_inj]

theorem byteSum_append_right {a b c : Bytes} :
    byteSum (a ++ c) = byteSum (b ++ c) ↔ byteSum a = byteSum b := by
  rw [byteSum_append, byteSum_append, UInt32.add_left_inj]

theorem toNat_byteSum_le (b : Bytes) : (byteSum b).toNat ≤ 255 * b.length := by
  induction b with
  | nil => exact Nat.le_refl 0
  | cons c b ih =>
    have byte : c.toNat < 256 := c.toNat_lt
    have wraps := Nat.mod_le (c.toNat + (byteSum b).toNat) UInt32.size
    rw [byteSum_cons, UInt32.toNat_add, UInt8.toNat_toUInt32, List.length_cons]
    exact Nat.le_trans wraps (by omega)

/-- The sum of a few bytes does not wrap around. -/
theorem toNat_byteSum_cons (c : UInt8) {b : Bytes} (few : b.length ≤ 900) :
    (byteSum (c :: b)).toNat = c.toNat + (byteSum b).toNat := by
  have byte : c.toNat < 256 := c.toNat_lt
  have rest := toNat_byteSum_le b
  rw [byteSum_cons, UInt32.toNat_add, UInt8.toNat_toUInt32]
  apply Nat.mod_eq_of_lt
  omega

/-! ## A wrong character in a group -/

/-- The three bytes of four values. -/
def groupOf (a b c d : Nat) : Bytes :=
  [(4 * a + b / 16).toUInt8, (16 * (b % 16) + c / 4).toUInt8, (64 * (c % 4) + d).toUInt8]

theorem unpack_cons (a b c d : UInt8) (rest : Bytes) : unpack (a :: b :: c :: d :: rest) =
    groupOf (valueOf a) (valueOf b) (valueOf c) (valueOf d) ++ unpack rest := by
  have ltB := valueOf_lt b
  have ltC := valueOf_lt c
  have ltD := valueOf_lt d
  let n := ((valueOf a * 64 + valueOf b) * 64 + valueOf c) * 64 + valueOf d
  have first : n / 65536 = 4 * valueOf a + valueOf b / 16 := by omega
  have second : n / 256 % 256 = 16 * (valueOf b % 16) + valueOf c / 4 := by omega
  have third : n % 256 = 64 * (valueOf c % 4) + valueOf d := by omega
  show (n / 65536).toUInt8 :: (n / 256 % 256).toUInt8 :: (n % 256).toUInt8 :: unpack rest = _
  rw [first, second, third]
  rfl

theorem length_unpack (b : Bytes) : (unpack b).length = 3 * (b.length / 4) := by
  induction b using unpack.induct with
  | case1 a b c d rest ih =>
    rw [unpack_cons, List.length_append, ih]
    simp only [groupOf, List.length_cons, List.length_nil]
    omega
  | case2 b short =>
    rw [unpack.eq_2 b short]
    rcases b with _ | ⟨a, _ | ⟨b, _ | ⟨c, _ | ⟨d, rest⟩⟩⟩⟩
    iterate 4
      · simp
    · exact (short a b c d rest rfl).elim

/-- Four values of six bits and another four, which differ in one place at most. -/
structure OneWrong (a b c d a' b' c' d' : Nat) : Prop where
  small : a < 64 ∧ b < 64 ∧ c < 64 ∧ d < 64
  small' : a' < 64 ∧ b' < 64 ∧ c' < 64 ∧ d' < 64
  one : b = b' ∧ c = c' ∧ d = d' ∨ a = a' ∧ c = c' ∧ d = d' ∨ a = a' ∧ b = b' ∧ d = d' ∨
    a = a' ∧ b = b' ∧ c = c'

namespace OneWrong

variable {a b c d a' b' c' d' : Nat}

/-! The weights of a value in its two bytes are so far apart that the sum settles both parts. -/

theorem of_first (h : OneWrong a b c d a' b' c' d') (sum : 4 * a + b / 16 = 4 * a' + b' / 16) :
    a = a' ∧ b / 16 = b' / 16 := by
  obtain ⟨⟨-, ltB, -, -⟩, ⟨-, ltB', -, -⟩, one⟩ := h
  rcases one with ⟨rfl, rfl, rfl⟩ | ⟨rfl, rfl, rfl⟩ | ⟨rfl, rfl, rfl⟩ | ⟨rfl, rfl, rfl⟩
  all_goals omega

theorem of_second (h : OneWrong a b c d a' b' c' d')
    (sum : 4 * a + b / 16 + (16 * (b % 16) + c / 4) =
      4 * a' + b' / 16 + (16 * (b' % 16) + c' / 4)) : a = a' ∧ b = b' ∧ c / 4 = c' / 4 := by
  obtain ⟨⟨-, ltB, -, -⟩, ⟨-, ltB', -, -⟩, one⟩ := h
  rcases one with ⟨rfl, rfl, rfl⟩ | ⟨rfl, rfl, rfl⟩ | ⟨rfl, rfl, rfl⟩ | ⟨rfl, rfl, rfl⟩
  case inr.inl =>
    have : b = b' := by omega
    exact ⟨rfl, this, rfl⟩
  all_goals omega

theorem of_third (h : OneWrong a b c d a' b' c' d')
    (sum : 4 * a + b / 16 + (16 * (b % 16) + c / 4 + (64 * (c % 4) + d)) =
      4 * a' + b' / 16 + (16 * (b' % 16) + c' / 4 + (64 * (c' % 4) + d'))) :
    a = a' ∧ b = b' ∧ c = c' ∧ d = d' := by
  obtain ⟨⟨-, ltB, ltC, -⟩, ⟨-, ltB', ltC', -⟩, one⟩ := h
  rcases one with ⟨rfl, rfl, rfl⟩ | ⟨rfl, rfl, rfl⟩ | ⟨rfl, rfl, rfl⟩ | ⟨rfl, rfl, rfl⟩
  case inr.inl =>
    have : b = b' := by omega
    exact ⟨rfl, this, rfl, rfl⟩
  case inr.inr.inl =>
    have : c = c' := by omega
    exact ⟨rfl, rfl, this, rfl⟩
  all_goals omega

/-- **One wrong value changes the sum** of the bytes, of all three or of the first ones, unless
    it changes none of them. -/
theorem eq_of_byteSum (h : OneWrong a b c d a' b' c' d') (n : Nat)
    (same : byteSum ((groupOf a b c d).take n) = byteSum ((groupOf a' b' c' d').take n)) :
    (groupOf a b c d).take n = (groupOf a' b' c' d').take n := by
  obtain ⟨ltA, ltB, ltC, ltD⟩ := h.small
  obtain ⟨ltA', ltB', ltC', ltD'⟩ := h.small'
  have byte {k : Nat} (lt : k < 256) : k.toUInt8.toNat = k := Nat.mod_eq_of_lt lt
  have first {a b : Nat} (ltA : a < 64) (ltB : b < 64) :
      (4 * a + b / 16).toUInt8.toNat = 4 * a + b / 16 := byte (by omega)
  have second {b c : Nat} (ltC : c < 64) :
      (16 * (b % 16) + c / 4).toUInt8.toNat = 16 * (b % 16) + c / 4 := byte (by omega)
  have third {c d : Nat} (ltD : d < 64) :
      (64 * (c % 4) + d).toUInt8.toNat = 64 * (c % 4) + d := byte (by omega)
  have none : (byteSum []).toNat = 0 := rfl
  have sums := congrArg UInt32.toNat same
  unfold groupOf at sums ⊢
  match n with
  | 0 => rfl
  | 1 =>
    simp only [List.take_succ_cons, List.take_zero] at sums ⊢
    iterate 2 rw [toNat_byteSum_cons _ (by simp)] at sums
    rw [first ltA ltB, first ltA' ltB', none] at sums
    obtain ⟨rfl, eq⟩ := h.of_first sums
    rw [eq]
  | 2 =>
    simp only [List.take_succ_cons, List.take_zero] at sums ⊢
    iterate 4 rw [toNat_byteSum_cons _ (by simp)] at sums
    rw [first ltA ltB, first ltA' ltB', second ltC, second ltC', none] at sums
    obtain ⟨rfl, rfl, eq⟩ := h.of_second sums
    rw [eq]
  | n + 3 =>
    simp only [List.take_succ_cons, List.take_nil] at sums ⊢
    iterate 6 rw [toNat_byteSum_cons _ (by simp)] at sums
    rw [first ltA ltB, first ltA' ltB', second ltC, second ltC', third ltD, third ltD', none]
      at sums
    obtain ⟨rfl, rfl, rfl, rfl⟩ := h.of_third sums
    rfl

end OneWrong

/-- **A wrong character among groups** changes the sum of the bytes that are taken from them,
    unless it changes none of these bytes. -/
theorem take_unpack_set {body : Bytes} {j : Nat} {v : UInt8} (n : Nat)
    (same : byteSum ((unpack (body.set j v)).take n) = byteSum ((unpack body).take n)) :
    (unpack (body.set j v)).take n = (unpack body).take n := by
  induction body using unpack.induct generalizing j n with
  | case1 a b c d rest ih =>
    -- either it stands in the first group, or the first group is as it was
    have first {a' b' c' d' : UInt8}
        (wrong : OneWrong (valueOf a') (valueOf b') (valueOf c') (valueOf d')
          (valueOf a) (valueOf b) (valueOf c) (valueOf d))
        (same : byteSum ((unpack (a' :: b' :: c' :: d' :: rest)).take n) =
          byteSum ((unpack (a :: b :: c :: d :: rest)).take n)) :
        (unpack (a' :: b' :: c' :: d' :: rest)).take n =
          (unpack (a :: b :: c :: d :: rest)).take n := by
      rw [unpack_cons, unpack_cons, List.take_append, List.take_append] at same ⊢
      have lengths : (groupOf (valueOf a') (valueOf b') (valueOf c') (valueOf d')).length =
          (groupOf (valueOf a) (valueOf b) (valueOf c) (valueOf d)).length := rfl
      rw [lengths, byteSum_append_right] at same
      rw [lengths, wrong.eq_of_byteSum n same]
    have small : valueOf a < 64 ∧ valueOf b < 64 ∧ valueOf c < 64 ∧ valueOf d < 64 :=
      ⟨valueOf_lt a, valueOf_lt b, valueOf_lt c, valueOf_lt d⟩
    have ltV := valueOf_lt v
    obtain ⟨ltA, ltB, ltC, ltD⟩ := small
    rcases j with _ | _ | _ | _ | j
    · exact first ⟨⟨ltV, ltB, ltC, ltD⟩, ⟨ltA, ltB, ltC, ltD⟩, .inl ⟨rfl, rfl, rfl⟩⟩ same
    · exact first ⟨⟨ltA, ltV, ltC, ltD⟩, ⟨ltA, ltB, ltC, ltD⟩, .inr (.inl ⟨rfl, rfl, rfl⟩)⟩ same
    · exact first ⟨⟨ltA, ltB, ltV, ltD⟩, ⟨ltA, ltB, ltC, ltD⟩,
        .inr (.inr (.inl ⟨rfl, rfl, rfl⟩))⟩ same
    · exact first ⟨⟨ltA, ltB, ltC, ltV⟩, ⟨ltA, ltB, ltC, ltD⟩,
        .inr (.inr (.inr ⟨rfl, rfl, rfl⟩))⟩ same
    · have later : (a :: b :: c :: d :: rest).set (j + 4) v =
          a :: b :: c :: d :: rest.set j v := rfl
      rw [later, unpack_cons, unpack_cons, List.take_append, List.take_append] at same ⊢
      rw [ih _ (byteSum_append_left.mp same)]
  | case2 b short =>
    have nothing : unpack b = [] := unpack.eq_2 b short
    have length := length_unpack (b.set j v)
    rw [List.length_set, ← length_unpack, nothing, List.length_nil] at length
    rw [nothing, List.length_eq_zero_iff.mp length]

/-! ## Reading into a line -/

theorem ok_of_map_append {r : Except CutLine Bytes} {front out : Bytes}
    (read : r.map (front ++ ·) = .ok out) : ∃ tail, r = .ok tail ∧ out = front ++ tail := by
  cases r with
  | error cut => cases read
  | ok tail => exact ⟨tail, rfl, (Except.ok.inj read).symm⟩

/-- **What is read from characters in front of a line end**: nothing more, or a line of theirs and
    then the rest. A line that would run over the line end is cut. -/
theorem decodeFrom_plain {head : UInt8} {body rest out : Bytes} {offset : Nat}
    (plain : ∀ c ∈ head :: body, 32 ≤ c)
    (read : decodeFrom offset (head :: body ++ Bytes.cr :: rest) = .ok out) :
    valueOf head = 0 ∧ out = [] ∨
      valueOf head ≠ 0 ∧ bodyLength (valueOf head) ≤ body.length ∧ ∃ between tail,
        decodeFrom between (body.drop (bodyLength (valueOf head)) ++ Bytes.cr :: rest) = .ok tail ∧
          out = (unpack (body.take (bodyLength (valueOf head)))).take (valueOf head) ++ tail := by
  have headPlain : 32 ≤ head := plain head List.mem_cons_self
  by_cases zero : valueOf head = 0
  · have ending : IsEnding (head :: body ++ Bytes.cr :: rest) :=
      .inr ⟨head, body ++ Bytes.cr :: rest, rfl, headPlain, zero⟩
    rw [ending.decodeFrom] at read
    exact .inl ⟨zero, (Except.ok.inj read).symm⟩
  right
  refine ⟨zero, ?_⟩
  by_cases beyond : body.length < bodyLength (valueOf head)
  · -- the carriage return stands where a group should go on
    have cut : IsCut (head :: body ++ Bytes.cr :: rest) := by
      refine ⟨head, body ++ Bytes.cr :: rest, rfl, headPlain, zero, .inr ⟨Bytes.cr, ?_, by decide⟩⟩
      rw [List.take_append, List.mem_append]
      right
      obtain ⟨k, more⟩ := Nat.exists_eq_succ_of_ne_zero (Nat.sub_ne_zero_of_lt beyond)
      rw [more, List.take_succ_cons]
      exact List.mem_cons_self
    rw [cut.decodeFrom] at read
    cases read
  · have fits := Nat.not_lt.mp beyond
    let line : WholeLine := {
      head
      body := body.take (bodyLength (valueOf head))
      plain := by
        intro c mem
        apply plain c
        rcases List.mem_cons.mp mem with rfl | inside
        · exact List.mem_cons_self
        · exact List.mem_cons_of_mem _ (List.mem_of_mem_take inside)
      counts := zero
      whole := List.length_take_of_le fits }
    have parts : head :: body ++ Bytes.cr :: rest =
        line.bytes ++ (body.drop (bodyLength (valueOf head)) ++ Bytes.cr :: rest) := by
      rw [← List.append_assoc]
      show _ = head :: (body.take _ ++ body.drop _) ++ Bytes.cr :: rest
      rw [List.take_append_drop]
    rw [parts, decodeFrom_wholeLine] at read
    obtain ⟨tail, later, whole⟩ := ok_of_map_append read
    exact ⟨fits, _, tail, later, whole⟩

/-- **Too few bytes come out** of characters that are read as lines of their own. Each line takes
    one of them for its count. -/
theorem length_decodeFrom_le {body rest out : Bytes} {offset k : Nat}
    (plain : ∀ c ∈ body, 32 ≤ c)
    (behind : ∀ offset out, decodeFrom offset (Bytes.cr :: rest) = .ok out → out.length ≤ k)
    (read : decodeFrom offset (body ++ Bytes.cr :: rest) = .ok out) :
    out.length ≤ 3 * ((body.length - 1) / 4) + k := by
  induction length : body.length using Nat.strongRecOn generalizing body offset out with
  | ind n ih =>
    subst length
    cases body with
    | nil =>
      have := behind offset out read
      omega
    | cons head body =>
      rcases decodeFrom_plain plain read with ⟨-, rfl⟩ | ⟨-, fits, between, tail, later, rfl⟩
      · exact Nat.zero_le _
      · have plainRest (c : UInt8) (mem : c ∈ body.drop (bodyLength (valueOf head))) : 32 ≤ c :=
          plain c (List.mem_cons_of_mem _ (List.mem_of_mem_drop mem))
        have shorter : (body.drop (bodyLength (valueOf head))).length < (head :: body).length := by
          rw [List.length_drop, List.length_cons]
          omega
        have rest := ih _ shorter plainRest later rfl
        have here := List.length_take_le (valueOf head)
          (unpack (body.take (bodyLength (valueOf head))))
        rw [List.length_append, List.length_cons]
        rw [List.length_drop] at rest
        unfold bodyLength at *
        omega

/-! ## The line -/

theorem le_of_isControl_eq_false {c : UInt8} (clean : isControl c = false) : 32 ≤ c := by
  rw [isControl, decide_eq_false_iff_not] at clean
  exact UInt8.not_lt.mp clean

theorem plain_encodeGroups (b : Bytes) : ∀ c ∈ encodeGroups b, 32 ≤ c := by
  intro c mem
  exact le_of_isControl_eq_false (isControl_of_mem_encodeGroups mem)

theorem take_unpack_encodeGroups (b : Bytes) : (unpack (encodeGroups b)).take b.length = b := by
  rw [← decodeGroups_eq_unpack (plain_encodeGroups b)]
  exact take_decodeGroups_encodeGroups b

theorem valueOf_count {b : Bytes} (fits : b.length ≤ lineCapacity) :
    valueOf (sixBitChar b.length.toUInt8) = b.length := by
  have all : ∀ n < 46, valueOf (sixBitChar (Nat.toUInt8 n)) = n := by decide
  have fits : b.length ≤ 45 := fits
  exact all b.length (by omega)

theorem decodeFrom_behind {offset : Nat} {after out : Bytes}
    (read : decodeFrom offset (Bytes.cr :: Bytes.lf :: encode after) = .ok out) : out = after := by
  have control : ∀ c ∈ [Bytes.cr, Bytes.lf], isControl c = true := List.all_eq_true.mp rfl
  have gap := decodeFrom_gap control offset (encode after)
  have whole := decodeFrom_encode after (offset + [Bytes.cr, Bytes.lf].length) []
  rw [List.append_nil] at whole
  rw [decodeFrom] at whole
  have read := read.symm.trans (gap.trans whole)
  exact (Except.ok.inj read).trans (List.append_nil after)

/-- **A wrong count**: what has the right length is right. -/
theorem eq_of_wrongCount {b after out : Bytes} {v : UInt8} {offset : Nat} (ne : b ≠ [])
    (read : decodeFrom offset (v :: encodeGroups b ++ Bytes.cr :: Bytes.lf :: encode after) =
      .ok out) (length : out.length = (b ++ after).length) : out = b ++ after := by
  have some := List.length_pos_iff.mpr ne
  have groups := length_encodeGroups b
  have behind (offset : Nat) (out : Bytes)
      (read : decodeFrom offset (Bytes.cr :: Bytes.lf :: encode after) = .ok out) :
      out.length ≤ after.length :=
    Nat.le_of_eq (congrArg List.length (decodeFrom_behind read))
  rw [List.length_append] at length
  unfold groupLength at groups
  by_cases control : v < 32
  · -- the whole line is read as lines of their own
    have gap : IsGap [v] := by
      intro c mem
      rw [List.mem_singleton.mp mem]
      exact control
    have skipped : v :: encodeGroups b ++ Bytes.cr :: Bytes.lf :: encode after =
        [v] ++ (encodeGroups b ++ Bytes.cr :: Bytes.lf :: encode after) := rfl
    rw [skipped, decodeFrom_isGap gap] at read
    have few := length_decodeFrom_le (plain_encodeGroups b) behind read
    omega
  have plain : ∀ c ∈ v :: encodeGroups b, 32 ≤ c := by
    intro c mem
    rcases List.mem_cons.mp mem with rfl | inside
    · exact UInt8.not_lt.mp control
    · exact plain_encodeGroups b c inside
  rcases decodeFrom_plain plain read with ⟨-, rfl⟩ | ⟨-, fits, between, tail, later, rfl⟩
  · rw [List.length_nil] at length
    omega
  rw [List.length_append, List.length_take, length_unpack, List.length_take] at length
  rcases Nat.lt_or_eq_of_le fits with less | all
  · -- what is left of the line is read as lines of their own
    have plainRest (c : UInt8) (mem : c ∈ (encodeGroups b).drop (bodyLength (valueOf v))) :
        32 ≤ c := plain c (List.mem_cons_of_mem _ (List.mem_of_mem_drop mem))
    have few := length_decodeFrom_le plainRest behind later
    rw [List.length_drop] at few
    unfold bodyLength at *
    omega
  · rw [all, List.drop_length, List.nil_append] at later
    obtain rfl := decodeFrom_behind later
    have count : valueOf v = b.length := by
      unfold bodyLength at *
      omega
    rw [all, List.take_length, count, take_unpack_encodeGroups]

/-- **A wrong character in a group**: what has the right sum is right. -/
theorem eq_of_wrongGroup {b after out : Bytes} {v : UInt8} {j offset : Nat} (ne : b ≠ [])
    (fits : b.length ≤ lineCapacity) (inside : j < (encodeGroups b).length)
    (read : decodeFrom offset (sixBitChar b.length.toUInt8 :: (encodeGroups b).set j v ++
      Bytes.cr :: Bytes.lf :: encode after) = .ok out)
    (sum : byteSum out = byteSum (b ++ after)) : out = b ++ after := by
  have count := valueOf_count fits
  have counts : valueOf (sixBitChar b.length.toUInt8) ≠ 0 := by
    rw [count]
    exact Nat.ne_of_gt (List.length_pos_iff.mpr ne)
  have headPlain : 32 ≤ sixBitChar b.length.toUInt8 :=
    le_of_isControl_eq_false (isControl_sixBitChar _)
  have whole : ((encodeGroups b).set j v).length =
      bodyLength (valueOf (sixBitChar b.length.toUInt8)) := by
    rw [List.length_set, length_encodeGroups, count, bodyLength_eq]
  by_cases control : v < 32
  · have cut : IsCut (sixBitChar b.length.toUInt8 :: (encodeGroups b).set j v ++
        Bytes.cr :: Bytes.lf :: encode after) := by
      refine ⟨_, _, rfl, headPlain, counts, .inr ⟨v, ?_, control⟩⟩
      rw [← whole]
      show v ∈ ((encodeGroups b).set j v ++ Bytes.cr :: Bytes.lf :: encode after).take _
      rw [List.take_left]
      exact List.mem_set inside v
    rw [cut.decodeFrom] at read
    cases read
  have plain : ∀ c ∈ sixBitChar b.length.toUInt8 :: (encodeGroups b).set j v, 32 ≤ c := by
    intro c mem
    rcases List.mem_cons.mp mem with rfl | inside
    · exact headPlain
    · rcases List.mem_or_eq_of_mem_set inside with old | rfl
      · exact plain_encodeGroups b c old
      · exact UInt8.not_lt.mp control
  rcases decodeFrom_plain plain read with ⟨zero, -⟩ | ⟨-, -, between, tail, later, rfl⟩
  · exact absurd zero counts
  rw [← whole, List.drop_length, List.nil_append] at later
  obtain rfl := decodeFrom_behind later
  rw [← whole, List.take_length, count] at sum ⊢
  rw [byteSum_append_right] at sum
  have same := take_unpack_set b.length (sum.trans (by rw [take_unpack_encodeGroups]))
  rw [same, take_unpack_encodeGroups]

/-- A wrong character in the first of some lines. -/
theorem eq_of_wrongLine {b after out : Bytes} {c v : UInt8} {p offset : Nat} (ne : b ≠ [])
    (fits : b.length ≤ lineCapacity) (stands : (encodeLine b)[p]? = some c)
    (inLine : c ≠ Bytes.cr ∧ c ≠ Bytes.lf)
    (read : decodeFrom offset ((encodeLine b).set p v ++ encode after) = .ok out)
    (length : out.length = (b ++ after).length) (sum : byteSum out = byteSum (b ++ after)) :
    out = b ++ after := by
  match p with
  | 0 =>
    have line : (encodeLine b).set 0 v ++ encode after =
        v :: encodeGroups b ++ Bytes.cr :: Bytes.lf :: encode after := by simp [encodeLine]
    rw [line] at read
    exact eq_of_wrongCount ne read length
  | p + 1 =>
    rw [encodeLine, List.cons_append, List.getElem?_cons_succ] at stands
    by_cases inside : p < (encodeGroups b).length
    · have line : (encodeLine b).set (p + 1) v ++ encode after = sixBitChar b.length.toUInt8 ::
          (encodeGroups b).set p v ++ Bytes.cr :: Bytes.lf :: encode after := by
        simp [encodeLine, List.set_append_left _ _ inside]
      rw [line] at read
      exact eq_of_wrongGroup ne fits inside read sum
    · -- it is one of the two that end the line
      rw [List.getElem?_append_right (Nat.not_lt.mp inside)] at stands
      have mem : c ∈ [Bytes.cr, Bytes.lf] := List.mem_of_getElem? stands
      simp only [List.mem_cons, List.not_mem_nil, or_false] at mem
      exact absurd mem (not_or.mpr inLine)

theorem eq_of_decodeFrom_set (x : Bytes) {out : Bytes} {c v : UInt8} {p offset : Nat}
    (stands : (encode x)[p]? = some c) (inLine : c ≠ Bytes.cr ∧ c ≠ Bytes.lf)
    (read : decodeFrom offset ((encode x).set p v) = .ok out) (length : out.length = x.length)
    (sum : byteSum out = byteSum x) : out = x := by
  have pos : 0 < lineCapacity := by decide
  induction x using Bytes.chunks_induction pos generalizing p offset out with
  | nil =>
    rw [encode, Bytes.chunks_nil] at stands
    cases stands
  | step x ne ih =>
    have whole : x.take lineCapacity ++ x.drop lineCapacity = x := List.take_append_drop ..
    have ne' : x.take lineCapacity ≠ [] := by
      rw [ne_eq, List.take_eq_nil_iff]
      exact fun h => h.elim (Nat.ne_of_gt pos) ne
    have fits : (x.take lineCapacity).length ≤ lineCapacity := List.length_take_le ..
    rw [encode_of_ne_nil ne] at stands read
    rw [← whole] at length sum
    by_cases first : p < (encodeLine (x.take lineCapacity)).length
    · rw [List.getElem?_append_left first] at stands
      rw [List.set_append_left _ _ first] at read
      exact (eq_of_wrongLine ne' fits stands inLine read length sum).trans whole
    · -- the first line is as it was, and the wrong one is behind it
      have behind := Nat.not_lt.mp first
      rw [List.getElem?_append_right behind] at stands
      rw [List.set_append_right _ _ behind, decodeFrom_encodeLine ne' fits] at read
      obtain ⟨tail, later, rfl⟩ := ok_of_map_append read
      rw [List.length_append, List.length_append, Nat.add_left_cancel_iff] at length
      rw [byteSum_append_left] at sum
      rw [ih stands later length sum, whole]

/-- **One wrong character is caught or harmless.** A character of some lines, for a count or in a
    group, has become another one. Where the lines still read back to as many bytes of the same
    sum, these are the bytes they were made from. -/
theorem eq_of_decode_set (x : Bytes) (p : Nat) (c v : UInt8) (stands : (encode x)[p]? = some c)
    (inLine : c ≠ Bytes.cr ∧ c ≠ Bytes.lf) (y : Bytes)
    (read : decode ((encode x).set p v) = .ok y) (length : y.length = x.length)
    (sum : byteSum y = byteSum x) : y = x :=
  eq_of_decodeFrom_set x stands inLine read length sum

/-- The last character of this line carries no bit of its byte. -/
theorem eq_of_decode_set_padding :
    (encode [255])[4]? = some 96 ∧ decode ((encode [255]).set 4 65) = .ok [255] ∧
      ([255] : Bytes) = [255] := by
  have stands : (encode [255])[4]? = some 96 := by decide +kernel
  have read : decode ((encode [255]).set 4 65) = .ok [255] := by
    have some : (decode ((encode [255]).set 4 65)).toOption = some [255] := by decide +kernel
    cases ended : decode ((encode [255]).set 4 65) with
    | error cut =>
      rw [ended] at some
      cases some
    | ok out =>
      rw [ended] at some
      exact congrArg Except.ok (Option.some.inj some)
  exact ⟨stands, read, eq_of_decode_set [255] 4 96 65 stands (by decide) [255] read rfl rfl⟩

end SerialIsp.Wire
