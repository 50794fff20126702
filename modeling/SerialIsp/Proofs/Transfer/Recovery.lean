import SerialIsp.Proofs.Dialogue.Lines
import SerialIsp.Proofs.Transfer.Bounds
import SerialIsp.Proofs.Wire.Lines
import SerialIsp.Proofs.Wire.Orders

/-!
# Recovery

A read of memory in lines recovers from up to three bad sendings of every block. The device
may spoil a sending in any way that keeps its length: the lines cannot be decoded, or carry
another number of bytes, or the number behind them is wrong or is none. Whatever it spoils and
wherever, three things hold:

* the data arrives as it is,
* every bad sending is answered with `RESEND`, and every good one with `OK`,
* nothing behind the last sending is read.

After a fourth bad sending of one block the transfer is given up.

A log settles its transfer, which is the converse of `readBlocks_log`, so all that is left to
show is that the sendings of a device make a log.
-/

namespace SerialIsp

open Wire

variable {α δ σ : Type}

/-! ## Lines -/

namespace Dialogue

/-- A line is read up to its end. -/
theorem lineFrom_of_text {text : Bytes} {room : Nat} (fits : text.length ≤ room)
    (plain : ∀ c ∈ text, c ≠ Bytes.cr ∧ c ≠ Bytes.lf) (line rest : Bytes) :
    lineFrom line room (text ++ Bytes.cr :: Bytes.lf :: rest) =
      ⟨[], .done (line ++ text) rest⟩ := by
  have first : FirstLine text (text ++ Bytes.cr :: Bytes.lf :: rest) rest :=
    ⟨plain, [Bytes.cr, Bytes.lf], .crlf rest, by simp⟩
  have mute := (listening_lineFrom line room).mute (text ++ Bytes.cr :: Bytes.lf :: rest)
  have ended : (lineFrom line room (text ++ Bytes.cr :: Bytes.lf :: rest)).close =
      .done (line ++ text) rest := lineFrom_done.mpr ⟨text, first, fits, rfl⟩
  show Course.mk _ _ = _
  rw [mute, ended]

end Dialogue

/-- The number that a line tells, if it tells one. -/
def toldSum (text : Bytes) : Option UInt32 := word? (Text.trim (Text.Utf8.lossyChars text))

theorem toldSum_decimal (n : UInt32) : toldSum (Bytes.ascii (Text.decimal n.toNat)) = some n := by
  have ascii : ∀ c ∈ (Text.decimal n.toNat).toList, c.toNat < 0x80 := by
    rw [Text.toList_decimal]
    exact Text.forall_mem_digits (by decide) n.toNat
  have chars : Text.Utf8.lossyChars (Bytes.ascii (Text.decimal n.toNat)) =
      Text.digits 10 n.toNat := by
    rw [← Text.toList_decimal, ← congrArg String.toList (Text.lossy_ascii ascii), Text.Utf8.lossy,
      String.toList_ofList]
  rw [toldSum, chars, Text.trim_digits, Command.word?_digits]

theorem Dialogue.line_of_text {text : Bytes} (fits : text.length ≤ Session.lineLimit)
    (plain : ∀ c ∈ text, c ≠ Bytes.cr ∧ c ≠ Bytes.lf) (rest : Bytes) :
    line (text ++ Bytes.cr :: Bytes.lf :: rest) =
      ⟨[], .done (Text.Utf8.lossy text) rest⟩ := by
  rw [line, bind_done (lineFrom_of_text fits plain [] rest)]
  rfl

theorem Dialogue.orNone_number_of_text {text : Bytes} (fits : text.length ≤ Session.lineLimit)
    (plain : ∀ c ∈ text, c ≠ Bytes.cr ∧ c ≠ Bytes.lf) (rest : Bytes) :
    orNone number (text ++ Bytes.cr :: Bytes.lf :: rest) = ⟨[], .done (toldSum text) rest⟩ := by
  rw [orNone, number, bind_done (line_of_text fits plain rest), Text.Utf8.lossy,
    String.toList_ofList, toldSum, word?]
  cases Text.readNumber 10 Text.limit32 (Text.trim (Text.Utf8.lossyChars text)) <;> rfl

/-! ## Repeating -/

namespace Dialogue

/-- `n` sendings in a row bring nothing, and `words` are said in each of them. -/
def AllVain (sending : Dialogue (Option α)) (words : List Bytes) : Nat → Bytes → Bytes → Prop
  | 0, input, rest => input = rest
  | n + 1, input, rest =>
    ∃ between, sending input = ⟨words, .done none between⟩ ∧ AllVain sending words n between rest

section

variable {sending : Dialogue (Option α)} {again : Dialogue Unit} {words asked : List Bytes}
  {resends : Nat} {input rest : Bytes}

/-- Sendings in vain are repeated, as long as they are not too many. -/
theorem untilArrived_of_allVain (asks : ∀ input, again input = ⟨asked, .done () input⟩) {n : Nat}
    (h : AllVain sending words n input rest) (few : n ≤ resends) {block : Nat} {c : Course α}
    (later : untilArrived block sending again (resends - n) rest = c) :
    untilArrived block sending again resends input =
      ⟨(List.replicate n (words ++ asked)).flatten ++ c.said, c.close⟩ := by
  induction n generalizing resends input with
  | zero =>
    obtain rfl : input = rest := h
    exact later
  | succ n ih =>
    obtain ⟨between, vain, more⟩ := h
    cases resends with
    | zero => exact absurd few (Nat.not_succ_le_zero _)
    | succ left =>
      rw [Nat.succ_sub_succ] at later
      rw [untilArrived, bind_done vain]
      dsimp only
      rw [bind_done (asks between), ih more (Nat.le_of_succ_le_succ few) later,
        List.replicate_succ, List.flatten_cons]
      simp only [List.append_assoc]

/-- After too many the block is given up, and the last one is not asked for again. -/
theorem untilArrived_givesUp (asks : ∀ input, again input = ⟨asked, .done () input⟩)
    (h : AllVain sending words (resends + 1) input rest) (block : Nat) :
    untilArrived block sending again resends input =
      ⟨(List.replicate resends (words ++ asked)).flatten ++ words,
        .failed (.corruptBlock block (maxResends + 1)) rest⟩ := by
  induction resends generalizing input with
  | zero =>
    obtain ⟨between, vain, rfl⟩ := h
    rw [untilArrived, bind_done vain]
    dsimp only [fail]
    rw [List.append_nil]
    rfl
  | succ left ih =>
    obtain ⟨between, vain, more⟩ := h
    rw [untilArrived, bind_done vain]
    dsimp only
    rw [bind_done (asks between), ih more, List.replicate_succ, List.flatten_cons]
    simp only [List.append_assoc]

end

end Dialogue

/-! ## A log settles its transfer -/

namespace Dialogue

theorem allVain_of_allRefused {length : Nat} {refused : List Attempt} {input rest : Bytes}
    (h : AllRefused length refused input rest) :
    AllVain (receiveBlock length) [] refused.length input rest := by
  induction refused generalizing input with
  | nil => exact h
  | cons a refused ih =>
    obtain ⟨none, between, heard, more⟩ := h
    refine ⟨between, ?_, ih more⟩
    rw [receiveBlock_of_heard heard, accept_eq_none.mpr none]

/-- Refused attempts are asked for again, as long as they are not too many. -/
theorem untilArrived_of_allRefused {length resends block : Nat} {refused : List Attempt}
    {input rest : Bytes} {c : Course Bytes} (h : AllRefused length refused input rest)
    (few : refused.length ≤ resends)
    (later : untilArrived block (receiveBlock length) (say blockWanted)
      (resends - refused.length) rest = c) :
    untilArrived block (receiveBlock length) (say blockWanted) resends input =
      ⟨List.replicate refused.length blockWanted ++ c.said, c.close⟩ := by
  rw [untilArrived_of_allVain (say_apply blockWanted) (allVain_of_allRefused h) few later,
    List.nil_append, List.flatten_replicate_singleton]

theorem untilArrived_of_givenUp {length resends : Nat} {refused : List Attempt}
    {input rest : Bytes} (h : AllRefused length refused input rest)
    (all : refused.length = resends + 1) (block : Nat) :
    untilArrived block (receiveBlock length) (say blockWanted) resends input =
      ⟨List.replicate resends blockWanted,
        .failed (.corruptBlock block (maxResends + 1)) rest⟩ := by
  rw [untilArrived_givesUp (say_apply blockWanted) (all ▸ allVain_of_allRefused h), List.nil_append,
    List.flatten_replicate_singleton, List.append_nil]

theorem readBlock_of_heard {d : Delivery} {length : Nat} {input rest : Bytes}
    (h : d.Heard length input rest) (block : Nat) :
    readBlock block length input = ⟨d.answers, .done d.content rest⟩ := by
  obtain ⟨few, brings, between, refused, taken⟩ := h
  have last (resends : Nat) : untilArrived block (receiveBlock length) (say blockWanted) resends
      between = ⟨[], .done d.content rest⟩ := by
    rw [untilArrived.eq_def, bind_done (receiveBlock_of_heard taken), accept_eq_some.mpr brings]
    rfl
  rw [readBlock, bind_done (untilArrived_of_allRefused refused few (last _)), List.append_nil]
  rfl

theorem readBlocksFrom_of_allHeard {left block : Nat} {ds : List Delivery} {input rest : Bytes}
    {c : Course Bytes} (h : AllHeard left ds input rest)
    (later : readBlocksFrom (block + ds.length) (left - ds.length * blockCapacity) rest = c) :
    readBlocksFrom block left input =
      ⟨ds.flatMap Delivery.answers ++ c.said,
        c.close.map (ds.flatMap Delivery.content ++ ·)⟩ := by
  induction ds generalizing block left input with
  | nil =>
    obtain rfl : input = rest := h
    rw [List.length_nil, Nat.zero_mul, Nat.sub_zero, Nat.add_zero] at later
    rw [later]
    rcases c with ⟨said, _ | _ | _⟩ <;> rfl
  | cons d ds ih =>
    obtain ⟨some, between, heard, more⟩ := h
    -- what comes behind all deliveries comes behind the later ones
    have number : block + (d :: ds).length = block + 1 + ds.length := by
      rw [List.length_cons]
      omega
    have still : left - (d :: ds).length * blockCapacity =
        left - min left blockCapacity - ds.length * blockCapacity := by
      rw [List.length_cons, blockCapacity_eq]
      omega
    rw [number, still] at later
    rw [readBlocksFrom_of_pos some, bind_done (readBlock_of_heard heard block), bind_pure_apply,
      ih more later, List.flatMap_cons, List.flatMap_cons, List.append_assoc]
    rcases c with ⟨said, _ | _ | _⟩
    · simp only [Close.map, List.append_assoc]
    · rfl
    · rfl

/-- **A log of all blocks** is a transfer that ends with its data. -/
theorem readBlocksFrom_of_complete {log : TransferLog} {left : Nat} {input rest : Bytes}
    (tells : log.Tells left input rest) (all : log.missing left = 0) (block : Nat) :
    readBlocksFrom block left input = ⟨log.answers, .done log.data rest⟩ := by
  obtain ⟨between, delivered, refused⟩ := tells.heard
  rw [tells.needed all] at refused
  obtain rfl : between = rest := refused
  have later : readBlocksFrom (block + log.delivered.length)
      (left - log.delivered.length * blockCapacity) between = ⟨[], .done [] between⟩ := by
    rw [show left - log.delivered.length * blockCapacity = 0 from all, readBlocksFrom]
    rfl
  rw [readBlocksFrom_of_allHeard delivered later, TransferLog.answers, tells.needed all,
    List.length_nil, Nat.zero_min, List.replicate_zero, Close.map, List.append_nil,
    List.append_nil]
  rfl

/-- **A log that ends with four refused attempts** is a transfer that is given up. -/
theorem readBlocksFrom_of_givenUp {log : TransferLog} {left : Nat} {input rest : Bytes}
    (tells : log.Tells left input rest) (four : log.refused.length = maxResends + 1)
    (block : Nat) : readBlocksFrom block left input =
      ⟨log.answers,
        .failed (.corruptBlock (block + log.delivered.length) (maxResends + 1)) rest⟩ := by
  obtain ⟨between, delivered, refused⟩ := tells.heard
  have some : 0 < log.missing left := by
    refine Nat.pos_of_ne_zero fun all => ?_
    rw [tells.needed all] at four
    cases four
  have failed : readBlock (block + log.delivered.length) (min (log.missing left) blockCapacity)
      between = _ := bind_failed (untilArrived_of_givenUp refused four _)
  have later : readBlocksFrom (block + log.delivered.length) (log.missing left) between =
      ⟨List.replicate maxResends blockWanted,
        .failed (.corruptBlock (block + log.delivered.length) (maxResends + 1)) rest⟩ := by
    rw [readBlocksFrom_of_pos some, bind_failed failed]
  rw [readBlocksFrom_of_allHeard delivered later, TransferLog.answers, four]
  rfl

end Dialogue

/-! ## Sendings -/

/-- A block as it is sent, well or badly: its lines, and the text of the line behind them. -/
structure Sending where
  lines : Bytes
  told : Bytes
  deriving DecidableEq, Repr

namespace Sending

/-- What is on the line. -/
def bytes (x : Sending) : Bytes := x.lines ++ x.told ++ [Bytes.cr, Bytes.lf]

/-- The sending keeps the length of one for a block of `length` bytes, but spoils it: the lines
    cannot be decoded, or carry another number of bytes, or have another sum than is told. -/
structure Spoils (x : Sending) (length : Nat) : Prop where
  full : x.lines.length = encodedLength length
  fits : x.told.length ≤ Session.lineLimit
  plain : ∀ c ∈ x.told, c ≠ Bytes.cr ∧ c ≠ Bytes.lf
  bad : ∀ b, decode x.lines = .ok b → b.length = length → toldSum x.told ≠ some (byteSum b)

/-- What is heard of it. -/
def attempt (x : Sending) : Attempt := ⟨x.lines, toldSum x.told⟩

theorem attempt_heard {x : Sending} {length : Nat} (full : x.lines.length = encodedLength length)
    (fits : x.told.length ≤ Session.lineLimit)
    (plain : ∀ c ∈ x.told, c ≠ Bytes.cr ∧ c ≠ Bytes.lf) (rest : Bytes) :
    x.attempt.Heard length (x.bytes ++ rest) rest := by
  refine ⟨x.told ++ Bytes.cr :: Bytes.lf :: rest, ?_, full,
    Dialogue.orNone_number_of_text fits plain rest⟩
  simp only [bytes, attempt, List.append_assoc, List.cons_append, List.nil_append]

/-- What is spoiled is refused. -/
theorem spoils_iff {x : Sending} {length : Nat} : x.Spoils length ↔
    x.lines.length = encodedLength length ∧ x.told.length ≤ Session.lineLimit ∧
      (x.told.all fun c => c != Bytes.cr && c != Bytes.lf) = true ∧
      Dialogue.accept length x.attempt.lines x.attempt.sum = none := by
  have plain : (x.told.all fun c => c != Bytes.cr && c != Bytes.lf) = true ↔
      ∀ c ∈ x.told, c ≠ Bytes.cr ∧ c ≠ Bytes.lf := by simp
  rw [plain, Dialogue.accept_eq_none]
  constructor
  · rintro ⟨full, fits, plain, bad⟩
    exact ⟨full, fits, plain, fun b ⟨decoded, size, sum⟩ => bad b decoded size sum⟩
  · rintro ⟨full, fits, plain, bad⟩
    exact ⟨full, fits, plain, fun b decoded size sum => bad b ⟨decoded, size, sum⟩⟩

instance (x : Sending) (length : Nat) : Decidable (x.Spoils length) :=
  decidable_of_iff' _ spoils_iff

theorem Spoils.refused {x : Sending} {length : Nat} (spoils : x.Spoils length) :
    x.attempt.Refused length := Dialogue.accept_eq_none.mp (spoils_iff.mp spoils).2.2.2

theorem allRefused {xs : List Sending} {length : Nat} (spoil : ∀ x ∈ xs, x.Spoils length)
    (rest : Bytes) :
    AllRefused length (xs.map attempt) (xs.flatMap bytes ++ rest) rest := by
  induction xs with
  | nil => rfl
  | cons x xs ih =>
    have first := spoil x List.mem_cons_self
    rw [List.flatMap_cons, List.append_assoc]
    exact ⟨first.refused, _, attempt_heard first.full first.fits first.plain _,
      ih fun y mem => spoil y (List.mem_cons_of_mem _ mem)⟩

/-- The sending that spoils nothing. -/
def good (b : Bytes) : Sending := ⟨encode b, Bytes.ascii (Text.decimal (byteSum b).toNat)⟩

theorem bytes_good (b : Bytes) : (good b).bytes = blockFrame b := by
  rw [bytes, good, blockFrame, List.append_assoc, Bytes.ascii, Bytes.ascii, String.toList_append,
    List.map_append]
  rfl

theorem good_brings (b : Bytes) : (good b).attempt.Brings b.length b :=
  ⟨decode_encode b, rfl, toldSum_decimal _⟩

theorem good_heard (b rest : Bytes) :
    (good b).attempt.Heard b.length (blockFrame b ++ rest) rest := by
  have told : (good b).told =
      (Text.digits 10 (byteSum b).toNat).map fun c => c.toNat.toUInt8 := by
    rw [good, Bytes.ascii, Text.toList_decimal]
  rw [← bytes_good]
  refine attempt_heard (length_encode b) ?_ ?_ rest
  · have small : (byteSum b).toNat < Nat.pow 10 Session.lineLimit :=
      Nat.lt_trans (byteSum b).toNat_lt (by decide)
    rw [told, List.length_map]
    exact Text.length_digits_le (by decide) small
  · rw [told, List.forall_mem_map]
    exact Text.forall_mem_digits (by decide) _

end Sending

/-- What a device sends for one block: bad sendings, and a good one. -/
structure Turn where
  spoiled : List Sending
  block : Bytes
  deriving DecidableEq, Repr

namespace Turn

/-- What is on the line. -/
def bytes (t : Turn) : Bytes := t.spoiled.flatMap Sending.bytes ++ blockFrame t.block

/-- The block is recovered from its bad sendings. -/
def Recovers (t : Turn) : Prop :=
  t.spoiled.length ≤ maxResends ∧ ∀ x ∈ t.spoiled, x.Spoils t.block.length

instance (t : Turn) : Decidable t.Recovers := inferInstanceAs (Decidable (_ ∧ _))

/-- What is answered. -/
def answers (t : Turn) : List Bytes :=
  List.replicate t.spoiled.length blockWanted ++ [blockTaken]

/-- The delivery it makes. -/
def delivery (t : Turn) : Delivery :=
  ⟨t.spoiled.map Sending.attempt, (Sending.good t.block).attempt, t.block⟩

theorem answers_delivery (t : Turn) : t.delivery.answers = t.answers := by
  rw [Delivery.answers, delivery, List.length_map]
  rfl

theorem Recovers.heard {t : Turn} (recovers : t.Recovers) (rest : Bytes) :
    t.delivery.Heard t.block.length (t.bytes ++ rest) rest := by
  refine ⟨?_, Sending.good_brings _, blockFrame t.block ++ rest, ?_, Sending.good_heard _ _⟩
  · rw [delivery, List.length_map]
    exact recovers.1
  · rw [bytes, List.append_assoc]
    exact Sending.allRefused recovers.2 _

/-- **Turns make deliveries**, as far as they go. -/
theorem allHeard {ts : List Turn} {d : Bytes}
    (blocks : ts.map block <+: Bytes.chunks blockCapacity d) (recover : ∀ t ∈ ts, t.Recovers)
    (rest : Bytes) : AllHeard d.length (ts.map delivery) (ts.flatMap bytes ++ rest) rest := by
  have pos := blockCapacity_pos
  induction ts generalizing d with
  | nil => rfl
  | cons t ts ih =>
    rcases Decidable.em (d = []) with rfl | ne
    · rw [Bytes.chunks_nil] at blocks
      cases List.prefix_nil.mp blocks
    rw [Bytes.chunks_of_ne_nil pos ne] at blocks
    obtain ⟨first, later⟩ := List.cons_prefix_cons.mp blocks
    have size : min d.length blockCapacity = t.block.length := by
      rw [first, List.length_take, Nat.min_comm]
    have still : d.length - min d.length blockCapacity = (d.drop blockCapacity).length := by
      rw [List.length_drop]
      omega
    rw [List.flatMap_cons, List.append_assoc]
    refine ⟨List.length_pos_iff.mpr ne, ts.flatMap bytes ++ rest, ?_, ?_⟩
    · rw [size]
      exact (recover t List.mem_cons_self).heard _
    · rw [still]
      exact ih later fun u mem => recover u (List.mem_cons_of_mem _ mem)

theorem flatMap_content (ts : List Turn) :
    (ts.map delivery).flatMap Delivery.content = (ts.map block).flatten := by
  rw [List.flatMap_map, ← List.flatMap_id', List.flatMap_map]
  rfl

theorem flatMap_answers (ts : List Turn) :
    (ts.map delivery).flatMap Delivery.answers = ts.flatMap answers := by
  rw [List.flatMap_map]
  exact congrArg (ts.flatMap ·) (funext answers_delivery)

end Turn

/-! ## Transfers -/

namespace Dialogue

/-- **All turns recover**: the data arrives. -/
theorem readBlocks_recovers {ts : List Turn} {d : Bytes}
    (blocks : ts.map Turn.block = Bytes.chunks blockCapacity d)
    (recover : ∀ t ∈ ts, t.Recovers) (rest : Bytes) :
    readBlocksFrom 0 d.length (ts.flatMap Turn.bytes ++ rest) =
      ⟨ts.flatMap Turn.answers, .done d rest⟩ := by
  have pos := blockCapacity_pos
  have count : ts.length = (d.length + (blockCapacity - 1)) / blockCapacity := by
    rw [← Bytes.length_chunks pos, ← blocks, List.length_map]
  have all : TransferLog.missing ⟨ts.map Turn.delivery, []⟩ d.length = 0 := by
    rw [TransferLog.missing, List.length_map, count, blockCapacity_eq]
    omega
  have whole : ts.map Turn.block <+: Bytes.chunks blockCapacity d := blocks ▸ List.prefix_refl _
  have heard := Turn.allHeard whole recover rest
  have tells : TransferLog.Tells ⟨ts.map Turn.delivery, []⟩ d.length
      (ts.flatMap Turn.bytes ++ rest) rest :=
    ⟨⟨rest, heard, rfl⟩, Nat.zero_le _, fun _ => rfl⟩
  rw [readBlocksFrom_of_complete tells all, TransferLog.answers, TransferLog.data,
    Turn.flatMap_answers, Turn.flatMap_content, blocks, Bytes.flatten_chunks pos]
  exact congrArg (Course.mk · _) (List.append_nil _)

/-- **One turn does not**: the transfer is given up at its block. -/
theorem readBlocks_givesUp {ts : List Turn} {b d : Bytes} {bad : List Sending}
    (blocks : ts.map Turn.block ++ [b] <+: Bytes.chunks blockCapacity d)
    (recover : ∀ t ∈ ts, t.Recovers) (four : bad.length = maxResends + 1)
    (spoil : ∀ x ∈ bad, x.Spoils b.length) (rest : Bytes) :
    readBlocksFrom 0 d.length (ts.flatMap Turn.bytes ++ (bad.flatMap Sending.bytes ++ rest)) =
      ⟨ts.flatMap Turn.answers ++ List.replicate maxResends blockWanted,
        .failed (.corruptBlock ts.length (maxResends + 1)) rest⟩ := by
  have pos := blockCapacity_pos
  obtain ⟨some, size⟩ := Bytes.length_of_append_prefix_chunks pos blocks
  have missing : TransferLog.missing ⟨ts.map Turn.delivery, bad.map Sending.attempt⟩ d.length =
      d.length - (ts.map Turn.block).length * blockCapacity := by
    rw [TransferLog.missing, List.length_map, List.length_map]
  have delivered := Turn.allHeard ((List.prefix_append ..).trans blocks) recover
    (bad.flatMap Sending.bytes ++ rest)
  have tells : TransferLog.Tells ⟨ts.map Turn.delivery, bad.map Sending.attempt⟩ d.length
      (ts.flatMap Turn.bytes ++ (bad.flatMap Sending.bytes ++ rest)) rest := by
    refine ⟨⟨_, delivered, ?_⟩, ?_, fun none => ?_⟩
    · rw [missing, ← size]
      exact Sending.allRefused spoil rest
    · rw [List.length_map]
      exact Nat.le_of_eq four
    · rw [missing] at none
      omega
  have all : (bad.map Sending.attempt).length = maxResends + 1 := by
    rw [List.length_map]
    exact four
  rw [readBlocksFrom_of_givenUp tells all, TransferLog.answers, Turn.flatMap_answers, all,
    List.length_map, Nat.zero_add]
  rfl

/-- A command to read that was answered with success leads to its transfer. -/
theorem readMemory_of_answered {address count : UInt32} {input stream : Bytes}
    (haddress : address % 4 = 0) (hcount : count % 4 = 0)
    (answered : (status input).close = .done (.known .cmdSuccess) stream) :
    readMemory address count .lines input =
      ⟨(Command.readMemory address count).line :: (readBlocksFrom 0 count.toNat stream).said,
        (readBlocksFrom 0 count.toNat stream).close⟩ := by
  have opened : opening address count input =
      ⟨[(Command.readMemory address count).line], .done () stream⟩ := by
    rw [opening, checkAlignment, checkAlignment, if_neg (not_not_intro haddress),
      if_neg (not_not_intro hcount)]
    exact command_of_answered answered
  rw [readMemory_eq, bind_done opened]
  rfl

end Dialogue

/-! ## Runs -/

/-- A transport serves a stream: it takes every write, and every read gets the next bytes of
    the stream, as many as there are. Dropping the input loses nothing, as nothing arrives
    before it is read. -/
def Served : (stream : Bytes) → List Call → Prop
  | _, [] => True
  | stream, .write b outcome :: cs => outcome = .ok b.length ∧ Served stream cs
  | stream, .read n _ outcome :: cs => outcome = .ok (stream.take n) ∧ Served (stream.drop n) cs
  | stream, .clear outcome :: cs => outcome = .ok () ∧ Served stream cs

instance decidableServed : (stream : Bytes) → (cs : List Call) → Decidable (Served stream cs)
  | _, [] => isTrue trivial
  | stream, .write _ _ :: cs =>
    have := decidableServed stream cs
    inferInstanceAs (Decidable (_ ∧ _))
  | stream, .read n _ _ :: cs =>
    have := decidableServed (stream.drop n) cs
    inferInstanceAs (Decidable (_ ∧ _))
  | stream, .clear _ :: cs =>
    have := decidableServed stream cs
    inferInstanceAs (Decidable (_ ∧ _))

theorem Served.received_prefix {stream : Bytes} {cs : List Call} (h : Served stream cs) :
    received cs <+: stream := by
  induction cs generalizing stream with
  | nil => exact List.nil_prefix
  | cons c cs ih =>
    cases c with
    | write b outcome => exact ih h.2
    | clear outcome => exact ih h.2
    | read n timeout outcome =>
      obtain ⟨rfl, later⟩ := h
      have whole := List.take_append_drop n stream
      have rest := (List.prefix_append_right_inj (stream.take n)).mpr (ih later)
      rwa [whole] at rest

/-- The last call did all that was asked of it, or it was a read that took what was left. -/
theorem Served.last_full {stream : Bytes} {pre : List Call} {c : Call}
    (h : Served stream (pre ++ [c])) :
    c.full ∨ ((∃ n timeout outcome, c = .read n timeout outcome) ∧
      received (pre ++ [c]) = stream) := by
  induction pre generalizing stream with
  | nil =>
    cases c with
    | write b outcome =>
      obtain ⟨rfl, -⟩ := h
      exact .inl rfl
    | clear outcome =>
      obtain ⟨rfl, -⟩ := h
      exact .inl trivial
    | read n timeout outcome =>
      obtain ⟨rfl, -⟩ := h
      rcases Nat.lt_or_ge stream.length n with short | enough
      · refine .inr ⟨⟨n, timeout, _, rfl⟩, ?_⟩
        rw [List.nil_append, received_read, List.take_of_length_le (Nat.le_of_lt short)]
      · exact .inl (List.length_take_of_le enough)
  | cons d pre ih =>
    cases d with
    | write b outcome => exact ih h.2
    | clear outcome => exact ih h.2
    | read n timeout outcome =>
      obtain ⟨rfl, later⟩ := h
      refine (ih later).imp_right fun ⟨isRead, rest⟩ => ⟨isRead, ?_⟩
      show stream.take n ++ received (pre ++ [c]) = stream
      rw [rest, List.take_append_drop]

theorem Close.ofResult_inj {r r' : Except Failure α} {rest rest' : Bytes}
    (h : Close.ofResult r rest = Close.ofResult r' rest') : r = r' ∧ rest = rest' := by
  cases r <;> cases r' <;> cases h
  · exact ⟨rfl, rfl⟩
  · exact ⟨rfl, rfl⟩

/-- The last byte that came, came with a read. -/
theorem exists_last_read {cs : List Call} (some : received cs ≠ []) :
    ∃ pre n timeout b c post, cs = pre ++ .read n timeout (.ok (b ++ [c])) :: post ∧
      received cs = received pre ++ b ++ [c] := by
  induction cs with
  | nil => exact absurd rfl some
  | cons d cs ih =>
    rcases Decidable.em (received cs = []) with none | later
    · have last : received (d :: cs) = d.arrived := by
        show d.arrived ++ received cs = d.arrived
        rw [none, List.append_nil]
      rw [last] at some ⊢
      unfold Call.arrived at some ⊢
      split at some
      · next n timeout arrived =>
        refine ⟨[], n, timeout, arrived.dropLast, arrived.getLast some, cs, ?_, ?_⟩
        · rw [List.dropLast_concat_getLast]
          rfl
        · rw [received_nil, List.nil_append, List.dropLast_concat_getLast]
      · exact absurd rfl some
    · obtain ⟨pre, n, timeout, b, c, post, rfl, last⟩ := ih later
      refine ⟨d :: pre, n, timeout, b, c, post, rfl, ?_⟩
      show d.arrived ++ received _ = d.arrived ++ received pre ++ b ++ [c]
      rw [last, List.append_assoc, List.append_assoc, List.append_assoc]

section

variable [OnLine σ]

/-- **A line that serves all that a dialogue needs** is read that far and no further. A byte
    that is held back is the first one needed. -/
theorem FollowsAt.of_heard {action : ExceptT Failure (StateM σ) α} {p : Dialogue α} {s : σ}
    (follows : FollowsAt action p s) {stream needed rest : Bytes}
    (heard : held s ++ stream = needed ++ rest) (opened : (held s).length ≤ needed.length)
    {said : List Bytes} {r : Except Failure α}
    (course : ∀ more, p (needed ++ more) = ⟨said, .ofResult r more⟩) {cs : List Call}
    (ran : calls (action s).2 = calls s ++ cs) (served : Served stream cs) :
    (action s).1 = r ∧ sent cs = said ∧ held s ++ received cs = needed ∧
      held (action s).2 = [] := by
  obtain ⟨ds, ran', law, ending⟩ := follows
  obtain rfl : cs = ds := List.append_cancel_left (ran.symm.trans ran')
  have awake (more : Bytes) : (p (needed ++ more)).close ≠ .waiting := by
    rw [course]
    cases r <;> exact nofun
  have settled := ending.resolve_right fun broken => by
    -- the last call was a read that took the whole stream, on which the dialogue ends
    obtain ⟨pre, c, rfl, -, short⟩ := broken.last
    obtain ⟨⟨n, timeout, outcome, rfl⟩, all⟩ := served.last_full.resolve_left short
    rcases broken.waits with ⟨pre', b, o, same⟩ | waits
    · cases List.singleton_inj.mp (List.append_inj' same rfl).2
    · rw [all, heard] at waits
      exact awake rest (congrArg Course.close waits)
  obtain ⟨more, whole⟩ := served.received_prefix
  rw [← whole, ← List.append_assoc] at heard
  have ended := settled.course more
  rw [heard, course rest] at ended
  obtain ⟨said', close⟩ := Course.mk.inj ended
  obtain ⟨same, left⟩ := Close.ofResult_inj close
  have took : held s ++ received cs = needed ++ held (action s).2 := by
    rw [left, ← List.append_assoc] at heard
    exact List.append_cancel_right heard
  have none : held (action s).2 = [] := by
    -- otherwise the last byte was read while nothing more was needed
    refine Decidable.byContradiction fun kept => ?_
    have some : received cs ≠ [] := by
      intro none
      have length := congrArg List.length took
      have := List.length_pos_iff.mpr kept
      rw [none, List.append_nil, List.length_append] at length
      omega
    obtain ⟨pre, n, timeout, b, c, post, rfl, last⟩ := exists_last_read some
    have full : (b ++ [c]).length = n := settled.full _ (List.mem_append_right _ List.mem_cons_self)
    have waits := law.reads rfl b (by rw [← full, List.length_append]; exact Nat.lt_succ_self _)
    rw [last, ← List.append_assoc, ← List.append_assoc] at took
    have before := congrArg List.dropLast took
    rw [List.dropLast_concat, List.dropLast_append_of_ne_nil kept] at before
    rw [before] at waits
    exact awake _ waits
  exact ⟨same.symm, said'.symm, by rw [took, none, List.append_nil], none⟩

/-- Where nothing is held back, all that is needed comes from the line. -/
theorem FollowsAt.of_served {action : ExceptT Failure (StateM σ) α} {p : Dialogue α} {s : σ}
    (follows : FollowsAt action p s) (fresh : held s = []) {needed rest : Bytes}
    {said : List Bytes} {r : Except Failure α}
    (course : ∀ more, p (needed ++ more) = ⟨said, .ofResult r more⟩) {cs : List Call}
    (ran : calls (action s).2 = calls s ++ cs) (served : Served (needed ++ rest) cs) :
    (action s).1 = r ∧ sent cs = said ∧ received cs = needed ∧ held (action s).2 = [] := by
  have opened : (held s).length ≤ needed.length := by
    rw [fresh]
    exact Nat.zero_le _
  have heard := follows.of_heard (by rw [fresh, List.nil_append]) opened course ran served
  rwa [fresh, List.nil_append] at heard

/-- **A line that falls silent too early** is read to its end, and the action fails. -/
theorem FollowsAt.of_silence {action : ExceptT Failure (StateM σ) α} {p : Dialogue α} {s : σ}
    (follows : FollowsAt action p s) {stream : Bytes} {said : List Bytes}
    (waits : p (held s ++ stream) = ⟨said, .waiting⟩) {cs : List Call}
    (ran : calls (action s).2 = calls s ++ cs) (served : Served stream cs) :
    (∃ failure, (action s).1 = .error failure ∧ failure.isBreak) ∧ sent cs = said ∧
      received cs = stream := by
  obtain ⟨ds, ran', -, ending⟩ := follows
  obtain rfl : cs = ds := List.append_cancel_left (ran.symm.trans ran')
  rcases ending with settled | broken
  · -- a dialogue that came to its end does not wait for what comes behind
    obtain ⟨more, whole⟩ := served.received_prefix
    have ended := settled.course more
    rw [List.append_assoc, whole, waits] at ended
    cases result : (action s).1 with
    | ok a =>
      rw [result] at ended
      cases ended
    | error failure =>
      rw [result] at ended
      cases ended
  · obtain ⟨pre, c, rfl, -, short⟩ := broken.last
    obtain ⟨⟨n, timeout, outcome, rfl⟩, all⟩ := served.last_full.resolve_left short
    refine ⟨broken.result, ?_, all⟩
    rcases broken.waits with ⟨pre', b, o, same⟩ | waiting
    · cases List.singleton_inj.mp (List.append_inj' same rfl).2
    · rw [all, waits] at waiting
      exact (Course.mk.inj waiting).1.symm

end

namespace Session

variable [Transport δ]

/-- **A read of memory in lines recovers** from every block that is spoiled three times at
    most, and gives up at a block that is spoiled four times. -/
theorem readMemory_recovers (address : UInt32) (d : Bytes) (aligned : address % 4 = 0)
    (small : d.length < UInt32.size) (words : d.length % 4 = 0) (progress : Bool) (s : Session δ)
    (fresh : s.heldBack = none) (reply : Bytes)
    (answered : ∀ more, (Dialogue.status (reply ++ more)).close =
      .done (.known .cmdSuccess) more)
    (ts : List Turn) (recover : ∀ t ∈ ts, t.Recovers) (rest : Bytes) (cs : List Call)
    (ran : calls (readMemory address d.length.toUInt32 .lines progress s).2 = calls s ++ cs) :
    let run := readMemory address d.length.toUInt32 .lines progress s
    let asked := (Command.readMemory address d.length.toUInt32).line
    let good := reply ++ ts.flatMap Turn.bytes
    (ts.map Turn.block = Bytes.chunks blockCapacity d → Served (good ++ rest) cs →
      run.1 = .ok d ∧ sent cs = asked :: ts.flatMap Turn.answers ∧ received cs = good ∧
        run.2.heldBack = none) ∧
    ∀ (b : Bytes) (bad : List Sending), ts.map Turn.block ++ [b] <+: Bytes.chunks blockCapacity d →
      bad.length = 4 → (∀ x ∈ bad, x.Spoils b.length) →
      Served (good ++ bad.flatMap Sending.bytes ++ rest) cs →
      run.1 = .error (.corruptBlock ts.length 4) ∧
        sent cs = asked :: ts.flatMap Turn.answers ++ List.replicate 3 blockWanted ∧
        received cs = good ++ bad.flatMap Sending.bytes ∧ run.2.heldBack = none := by
  have count : d.length.toUInt32.toNat = d.length := UInt32.toNat_ofNat_of_lt' small
  have counted : d.length.toUInt32 % 4 = 0 := by
    refine UInt32.toNat.inj ?_
    rw [UInt32.toNat_mod, count]
    exact words
  have follows := readMemory_follows address d.length.toUInt32 .lines progress s
  have empty : held s = [] := by
    show s.heldBack.toList = []
    rw [fresh]
    rfl
  have kept {P : Session δ} (h : held P = []) : P.heldBack = none := Option.toList_eq_nil_iff.mp h
  refine ⟨fun blocks served => ?_, fun b bad blocks four spoil served => ?_⟩
  · have course (more : Bytes) :
        Dialogue.readMemory address d.length.toUInt32 .lines
          (reply ++ ts.flatMap Turn.bytes ++ more) =
        ⟨(Command.readMemory address d.length.toUInt32).line :: ts.flatMap Turn.answers,
          .ofResult (.ok d) more⟩ := by
      rw [List.append_assoc, Dialogue.readMemory_of_answered aligned counted (answered _), count,
        Dialogue.readBlocks_recovers blocks recover]
      rfl
    obtain ⟨result, said, heard, none⟩ := follows.of_served empty course ran served
    exact ⟨result, said, heard, kept none⟩
  · have course (more : Bytes) :
        Dialogue.readMemory address d.length.toUInt32 .lines
          (reply ++ ts.flatMap Turn.bytes ++ bad.flatMap Sending.bytes ++ more) =
        ⟨(Command.readMemory address d.length.toUInt32).line :: ts.flatMap Turn.answers ++
            List.replicate 3 blockWanted,
          .ofResult (.error (.corruptBlock ts.length 4)) more⟩ := by
      rw [List.append_assoc, List.append_assoc,
        Dialogue.readMemory_of_answered aligned counted (answered _), count,
        Dialogue.readBlocks_givesUp blocks recover four spoil]
      rfl
    obtain ⟨result, said, heard, none⟩ := follows.of_served empty course ran served
    exact ⟨result, said, heard, kept none⟩

theorem status_success (more : Bytes) :
    (Dialogue.status (Bytes.ascii "0\r\n" ++ more)).close = .done (.known .cmdSuccess) more := by
  have taken : Dialogue.take statusLength (Bytes.ascii "0\r\n" ++ more) =
      ⟨[], .done (Bytes.ascii "0\r\n") more⟩ := Dialogue.take_append (Bytes.ascii "0\r\n") more
  rw [Dialogue.status, Dialogue.bind_done taken]
  rfl

/-- Four bytes with a wrong sum. -/
def wrongSum : Sending := ⟨encode [7, 7, 7, 7], Bytes.ascii "29"⟩

/-- A device that sends these, one with each answer. -/
def sending (sendings : List Bytes) : Session Scripted :=
  start { replies := sendings.modifyHead (Bytes.ascii "0\r\n" ++ ·) } {}

/-- The second of two blocks recovers, or does not. -/
theorem readMemory_recovers_rehearsed :
    let d : Bytes := .replicate 904 7
    let first : Turn := ⟨[], .replicate 900 7⟩
    let second : Turn := ⟨.replicate 3 wrongSum, [7, 7, 7, 7]⟩
    let recovering :=
      sending (first.bytes :: .replicate 3 wrongSum.bytes ++ [blockFrame second.block])
    let stubborn := sending (first.bytes :: .replicate 4 wrongSum.bytes)
    (readMemory 0 d.length.toUInt32 .lines false recovering).1 = .ok d ∧
      (readMemory 0 d.length.toUInt32 .lines false stubborn).1 = .error (.corruptBlock 1 4) := by
  intro d first second recovering stubborn
  have small : d.length < UInt32.size := by decide +kernel
  have words : d.length % 4 = 0 := by decide +kernel
  constructor
  · obtain ⟨cs, ran⟩ : ∃ cs,
        calls (readMemory 0 d.length.toUInt32 .lines false recovering).2 = cs := ⟨_, rfl⟩
    have blocks : [first, second].map Turn.block = Bytes.chunks blockCapacity d := by
      decide +kernel
    have served : Served (Bytes.ascii "0\r\n" ++ [first, second].flatMap Turn.bytes ++ []) cs := by
      rw [← ran]
      decide +kernel
    have recovers := readMemory_recovers 0 d rfl small words false recovering rfl _ status_success
      [first, second] (by decide +kernel) [] cs ran
    exact (recovers.1 blocks served).1
  · obtain ⟨cs, ran⟩ : ∃ cs,
        calls (readMemory 0 d.length.toUInt32 .lines false stubborn).2 = cs := ⟨_, rfl⟩
    have served : Served (Bytes.ascii "0\r\n" ++ [first].flatMap Turn.bytes ++
        (List.replicate 4 wrongSum).flatMap Sending.bytes ++ []) cs := by
      rw [← ran]
      decide +kernel
    have givesUp := readMemory_recovers 0 d rfl small words false stubborn rfl _ status_success
      [first] (by decide +kernel) [] cs ran
    exact (givesUp.2 [7, 7, 7, 7] (.replicate 4 wrongSum) (by decide +kernel) rfl
      (by decide +kernel) served).1

end Session
end SerialIsp
