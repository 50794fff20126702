import SerialIsp.Proofs.Transfer.Recovery
import SerialIsp.Proofs.Wire.Texts

/-!
# Sending

Data goes to RAM block by block, and each block is sent until the device answers it with `OK`,
four times at most. A device may answer anything, in any order. So the answers are first shared
out among the blocks (`ReplyLog.share`), which knows nothing of the transfer: a block gets the
answers up to its first `OK`. What is sent, and what the transfer comes to, is then read off the
shares: a block is sent once more than it was refused, and the fourth refusal ends the transfer.

The writer and the reader of blocks are written apart. At the end of the file the reader is given
what the writer sent, and gets the data back with every block taken at once.
-/

namespace SerialIsp

open Wire

variable {δ ε : Type}

/-! ## Replies -/

/-- The text of the reply that takes a block. -/
def okText : Bytes := Bytes.ascii Session.okReply

/-- A text with the end of its line. -/
def lineOf (text : Bytes) : Bytes := text ++ [Bytes.cr, Bytes.lf]

/-- Texts that fit on a line. -/
def FitsLine (text : Bytes) : Prop :=
  text.length ≤ Session.lineLimit ∧ ∀ c ∈ text, c ≠ Bytes.cr ∧ c ≠ Bytes.lf

instance (text : Bytes) : Decidable (FitsLine text) :=
  -- byte by byte of the text, not of all bytes there are
  have := List.decidableBAll (fun c => c ≠ Bytes.cr ∧ c ≠ Bytes.lf) text
  inferInstanceAs (Decidable (_ ∧ _))

theorem fitsLine_okText : FitsLine okText := by decide

theorem lossy_eq_okReply {text : Bytes} :
    Text.Utf8.lossy text = Session.okReply ↔ text = okText := by
  have plain : (Session.okReply.toList.all fun c => Text.IsPlain c) = true := by decide
  exact Text.lossy_eq_iff fun c mem => of_decide_eq_true (List.all_eq_true.mp plain c mem)

/-- The replies to the blocks of a transfer. -/
structure ReplyLog where
  /-- For each block that was taken, the replies that refused it before. -/
  taken : List (List Bytes)
  /-- The replies that refused the block behind those. -/
  refused : List Bytes
  deriving DecidableEq, Repr

namespace ReplyLog

/-- A log with a block in front. -/
def cons (refusals : List Bytes) (log : ReplyLog) : ReplyLog :=
  ⟨refusals :: log.taken, log.refused⟩

/-- Shares replies out among blocks. A block is taken when at most three replies come before its
    first `OK`; of those to a block that is not, the first four count. -/
def share : (blocks : Nat) → (replies : List Bytes) → ReplyLog
  | 0, _ => ⟨[], []⟩
  | blocks + 1, replies =>
    let refusals := replies.takeWhile (· != okText)
    if refusals.length ≤ maxResends ∧ refusals.length < replies.length then
      (share blocks (replies.drop (refusals.length + 1))).cons refusals
    else ⟨[], refusals.take (maxResends + 1)⟩

/-- The replies of a log, in order. -/
def texts (log : ReplyLog) : List Bytes := log.taken.flatMap (· ++ [okText]) ++ log.refused

/-- What is sent of some blocks: each that was taken once more than it was refused, and the one
    behind those until it is given up. -/
def frames : ReplyLog → (blocks : List Bytes) → List Bytes
  | _, [] => []
  | ⟨[], refused⟩, b :: _ =>
    List.replicate (min (refused.length + 1) (maxResends + 1)) (blockFrame b)
  | ⟨refusals :: taken, refused⟩, b :: rest =>
    List.replicate (refusals.length + 1) (blockFrame b) ++ frames ⟨taken, refused⟩ rest

/-- What a transfer of blocks comes to, the first of which has the number `block`. -/
def close (log : ReplyLog) (block blocks : Nat) (rest : Bytes) : Close Unit :=
  if log.taken.length = blocks then .done () rest
  else if log.refused.length = maxResends + 1 then
    .failed (.corruptBlock (block + log.taken.length) (maxResends + 1)) rest
  else .waiting

theorem takeWhile_refusals {refusals : List Bytes} (refuse : okText ∉ refusals)
    (later : List Bytes) : (refusals ++ later).takeWhile (· != okText) =
      refusals ++ later.takeWhile (· != okText) := by
  refine List.takeWhile_append_of_pos fun t mem => ?_
  rw [bne_iff_ne]
  rintro rfl
  exact refuse mem

/-- What the next block gets. -/
theorem share_cases (blocks : Nat) (replies : List Bytes) :
    (∃ refusals later, replies = refusals ++ okText :: later ∧ okText ∉ refusals ∧
      refusals.length ≤ maxResends ∧
      share (blocks + 1) replies = (share blocks later).cons refusals) ∨
    ∃ refused later, replies = refused ++ later ∧ okText ∉ refused ∧
      share (blocks + 1) replies = ⟨[], refused⟩ ∧
      (refused.length = maxResends + 1 ∨ refused.length ≤ maxResends ∧ later = []) := by
  by_cases mem : okText ∈ replies
  · obtain ⟨refusals, later, rfl, refuse⟩ := List.eq_append_cons_of_mem mem
    rw [share, takeWhile_refusals refuse, List.takeWhile_cons_of_neg (by simp), List.append_nil]
    by_cases few : refusals.length ≤ maxResends
    · left
      refine ⟨refusals, later, rfl, refuse, few, ?_⟩
      have answered : refusals.length < (refusals ++ okText :: later).length := by simp
      have behind : (refusals ++ okText :: later).drop (refusals.length + 1) = later := by
        rw [← List.drop_drop, List.drop_left, List.drop_one, List.tail_cons]
      simp only [few, answered, and_self, ↓reduceIte, behind]
    · right
      have all := List.take_append_drop (maxResends + 1) refusals
      refine ⟨refusals.take (maxResends + 1),
        refusals.drop (maxResends + 1) ++ okText :: later, ?_, ?_, ?_, .inl ?_⟩
      · rw [← List.append_assoc, all]
      · exact fun mem => refuse (List.mem_of_mem_take mem)
      · simp only [few, false_and, ↓reduceIte]
      · exact List.length_take_of_le (Nat.not_le.mp few)
  · right
    have all := takeWhile_refusals mem []
    rw [List.append_nil, List.takeWhile_nil, List.append_nil] at all
    rw [share, all]
    have last : ¬ (replies.length ≤ maxResends ∧ replies.length < replies.length) := by simp
    simp only [last, ↓reduceIte]
    refine ⟨replies.take (maxResends + 1), replies.drop (maxResends + 1),
      (List.take_append_drop ..).symm, fun first => mem (List.mem_of_mem_take first), rfl, ?_⟩
    by_cases few : replies.length ≤ maxResends
    · right
      rw [List.take_of_length_le (by omega), List.drop_of_length_le (by omega)]
      exact ⟨few, rfl⟩
    · exact .inl (List.length_take_of_le (Nat.not_le.mp few))

theorem texts_cons (refusals : List Bytes) (log : ReplyLog) :
    (log.cons refusals).texts = refusals ++ okText :: log.texts := by
  simp only [texts, cons, List.flatMap_cons, List.append_assoc, List.cons_append, List.nil_append]

section

variable {log : ReplyLog} {blocks : Nat} (block : Nat) (rest : Bytes)

theorem close_of_taken (all : log.taken.length = blocks) :
    log.close block blocks rest = .done () rest := if_pos all

theorem close_of_givenUp (early : log.taken.length < blocks)
    (four : log.refused.length = maxResends + 1) :
    log.close block blocks rest =
      .failed (.corruptBlock (block + log.taken.length) (maxResends + 1)) rest := by
  rw [close, if_neg (Nat.ne_of_lt early), if_pos four]

theorem close_of_silence (early : log.taken.length < blocks)
    (few : log.refused.length ≤ maxResends) : log.close block blocks rest = .waiting := by
  rw [close, if_neg (Nat.ne_of_lt early), if_neg (Nat.ne_of_lt (Nat.lt_succ_of_le few))]

end

theorem close_cons (refusals : List Bytes) (log : ReplyLog) (block blocks : Nat) (rest : Bytes) :
    (log.cons refusals).close block (blocks + 1) rest = log.close (block + 1) blocks rest := by
  have number : block + (log.taken.length + 1) = block + 1 + log.taken.length := by omega
  simp only [close, cons, List.length_cons, Nat.add_right_cancel_iff, number]

/-- Replies are left over only where no more are awaited. -/
theorem share_texts (blocks : Nat) (replies : List Bytes) :
    ∃ later, replies = (share blocks replies).texts ++ later ∧
      ((share blocks replies).taken.length = blocks ∧ (share blocks replies).refused = [] ∨
        (share blocks replies).taken.length < blocks ∧
          ((share blocks replies).refused.length = maxResends + 1 ∨
            (share blocks replies).refused.length ≤ maxResends ∧ later = [])) := by
  induction blocks generalizing replies with
  | zero => exact ⟨replies, rfl, .inl ⟨rfl, rfl⟩⟩
  | succ blocks ih =>
    rcases share_cases blocks replies with
      ⟨refusals, behind, rfl, -, -, shared⟩ | ⟨refused, later, rfl, -, shared, ending⟩
    · obtain ⟨later, split, ending⟩ := ih behind
      rw [shared, texts_cons]
      refine ⟨later, ?_, ?_⟩
      · rw [List.append_assoc, List.cons_append, ← split]
      · exact ending.imp (And.imp_left (congrArg Nat.succ)) (And.imp_left Nat.succ_lt_succ)
    · rw [shared]
      exact ⟨later, rfl, .inr ⟨Nat.succ_pos _, ending⟩⟩

end ReplyLog

/-! ## One block -/

namespace Dialogue

theorem sendFrame_of_reply {text : Bytes} (fits : FitsLine text) (frame rest : Bytes) :
    sendFrame frame (lineOf text ++ rest) =
      ⟨[frame], .done (if text = okText then some () else none) rest⟩ := by
  have read : line (lineOf text ++ rest) = ⟨[], .done (Text.Utf8.lossy text) rest⟩ := by
    rw [lineOf, List.append_assoc]
    exact line_of_text fits.1 fits.2 rest
  rw [sendFrame, bind_done (say_apply frame _), bind_done read]
  simp only [pure_apply, lossy_eq_okReply, List.append_nil]

theorem sendFrame_nil (frame : Bytes) : sendFrame frame [] = ⟨[frame], .waiting⟩ := by
  rw [sendFrame, bind_done (say_apply frame _)]
  rfl

theorem allVain_of_refusals {refusals : List Bytes} (fits : ∀ t ∈ refusals, FitsLine t)
    (refuse : okText ∉ refusals) (frame rest : Bytes) :
    AllVain (sendFrame frame) [frame] refusals.length (refusals.flatMap lineOf ++ rest) rest := by
  induction refusals with
  | nil => rfl
  | cons t refusals ih =>
    rw [List.mem_cons, not_or] at refuse
    rw [List.flatMap_cons, List.append_assoc]
    refine ⟨refusals.flatMap lineOf ++ rest, ?_, ?_⟩
    · rw [sendFrame_of_reply (fits t List.mem_cons_self), if_neg (Ne.symm refuse.1)]
    · exact ih (fun u mem => fits u (List.mem_cons_of_mem _ mem)) refuse.2

section

variable {refusals : List Bytes} (fits : ∀ t ∈ refusals, FitsLine t) (refuse : okText ∉ refusals)
  (block : Nat) (b rest : Bytes)

include fits refuse

theorem writeBlock_of_taken (few : refusals.length ≤ maxResends) :
    writeBlock block b (refusals.flatMap lineOf ++ (lineOf okText ++ rest)) =
      ⟨List.replicate (refusals.length + 1) (blockFrame b), .done () rest⟩ := by
  have last (resends : Nat) : untilArrived block (sendFrame (blockFrame b)) (pure ()) resends
      (lineOf okText ++ rest) = ⟨[blockFrame b], .done () rest⟩ := by
    rw [untilArrived.eq_def, bind_done (sendFrame_of_reply fitsLine_okText _ rest), if_pos rfl]
    rfl
  have vain := allVain_of_refusals fits refuse (blockFrame b) (lineOf okText ++ rest)
  rw [writeBlock, untilArrived_of_allVain (pure_apply ()) vain few (last _), List.append_nil,
    List.flatten_replicate_singleton, List.replicate_succ']

theorem writeBlock_of_givenUp (four : refusals.length = maxResends + 1) :
    writeBlock block b (refusals.flatMap lineOf ++ rest) =
      ⟨List.replicate (maxResends + 1) (blockFrame b),
        .failed (.corruptBlock block (maxResends + 1)) rest⟩ := by
  have vain := allVain_of_refusals fits refuse (blockFrame b) rest
  rw [four] at vain
  rw [writeBlock, untilArrived_givesUp (pure_apply ()) vain, List.append_nil,
    List.flatten_replicate_singleton, List.replicate_succ']

theorem writeBlock_of_silence (few : refusals.length ≤ maxResends) :
    writeBlock block b (refusals.flatMap lineOf) =
      ⟨List.replicate (refusals.length + 1) (blockFrame b), .waiting⟩ := by
  have last (resends : Nat) : untilArrived block (sendFrame (blockFrame b)) (pure ()) resends [] =
      ⟨[blockFrame b], .waiting⟩ := by
    have waits : (sendFrame (blockFrame b) []).close = .waiting := by rw [sendFrame_nil]
    rw [untilArrived.eq_def, bind_waiting waits, sendFrame_nil]
  have vain := allVain_of_refusals fits refuse (blockFrame b) []
  rw [List.append_nil] at vain
  rw [writeBlock, untilArrived_of_allVain (pure_apply ()) vain few (last _), List.append_nil,
    List.flatten_replicate_singleton, List.replicate_succ']

end

/-! ## All blocks -/

/-- **The replies settle the transfer**, whatever they are. -/
theorem writeBlocks_of_share {replies : List Bytes} (fits : ∀ t ∈ replies, FitsLine t)
    (block : Nat) (bs : List Bytes) {rest : Bytes}
    (last : (ReplyLog.share bs.length replies).taken.length < bs.length →
      (ReplyLog.share bs.length replies).refused.length ≤ maxResends → rest = []) :
    writeBlocks block bs ((ReplyLog.share bs.length replies).texts.flatMap lineOf ++ rest) =
      ⟨(ReplyLog.share bs.length replies).frames bs,
        (ReplyLog.share bs.length replies).close block bs.length rest⟩ := by
  induction bs generalizing block replies with
  | nil => rfl
  | cons b bs ih =>
    rw [List.length_cons] at last ⊢
    rcases ReplyLog.share_cases bs.length replies with
      ⟨refusals, later, rfl, refuse, few, shared⟩ | ⟨refused, later, rfl, refuse, shared, ending⟩
    · have fitRefusals : ∀ t ∈ refusals, FitsLine t := fun t mem =>
        fits t (List.mem_append_left _ mem)
      have fitLater : ∀ t ∈ later, FitsLine t := fun t mem =>
        fits t (List.mem_append_right _ (List.mem_cons_of_mem _ mem))
      rw [shared] at last ⊢
      have behind := ih fitLater (block + 1) fun early few => last (Nat.succ_lt_succ early) few
      rw [ReplyLog.texts_cons, List.flatMap_append, List.flatMap_cons, List.append_assoc,
        List.append_assoc, writeBlocks,
        bind_done (writeBlock_of_taken fitRefusals refuse block b _ few), behind,
        ReplyLog.close_cons]
      rfl
    · have fitRefused : ∀ t ∈ refused, FitsLine t := fun t mem =>
        fits t (List.mem_append_left _ mem)
      rw [shared] at last ⊢
      rw [writeBlocks]
      rcases ending with four | ⟨few, -⟩
      · have givenUp := writeBlock_of_givenUp fitRefused refuse block b rest four
        have often : min (refused.length + 1) (maxResends + 1) = maxResends + 1 := by omega
        rw [ReplyLog.texts, List.flatMap_nil, List.nil_append, bind_failed givenUp,
          ReplyLog.frames, often, ReplyLog.close_of_givenUp _ _ (Nat.succ_pos _) four]
        rfl
      · obtain rfl : rest = [] := last (Nat.succ_pos _) few
        have silence := writeBlock_of_silence fitRefused refuse block b few
        have waits := congrArg Course.close silence
        have often : min (refused.length + 1) (maxResends + 1) = refused.length + 1 := by omega
        rw [ReplyLog.texts, List.flatMap_nil, List.nil_append, List.append_nil,
          bind_waiting waits, silence, ReplyLog.frames, often,
          ReplyLog.close_of_silence _ _ (Nat.succ_pos _) few]

theorem writeBlocks_of_allTaken (block : Nat) (bs : List Bytes) (rest : Bytes) :
    writeBlocks block bs ((List.replicate bs.length okText).flatMap lineOf ++ rest) =
      ⟨bs.map blockFrame, .done () rest⟩ := by
  induction bs generalizing block with
  | nil => rfl
  | cons b bs ih =>
    have first (rest : Bytes) : writeBlock block b (lineOf okText ++ rest) =
        ⟨[blockFrame b], .done () rest⟩ :=
      @writeBlock_of_taken [] nofun nofun block b rest (Nat.zero_le _)
    rw [List.length_cons, List.replicate_succ, List.flatMap_cons, List.append_assoc, writeBlocks,
      bind_done (first _), ih]
    rfl

/-- Frames of blocks, one after the other, are read as they were written. -/
theorem readBlocks_of_frames (data rest : Bytes) :
    readBlocksFrom 0 data.length
        (((Bytes.chunks blockCapacity data).map blockFrame).flatten ++ rest) =
      ⟨List.replicate (Bytes.chunks blockCapacity data).length blockTaken, .done data rest⟩ := by
  let ts := (Bytes.chunks blockCapacity data).map (Turn.mk [])
  have blocks : ts.map Turn.block = Bytes.chunks blockCapacity data := by
    rw [List.map_map]
    exact List.map_id _
  have recover : ∀ t ∈ ts, t.Recovers := by
    intro t mem
    obtain ⟨b, -, rfl⟩ := List.mem_map.mp mem
    exact ⟨Nat.zero_le _, nofun⟩
  have bytes : ts.flatMap Turn.bytes =
      ((Bytes.chunks blockCapacity data).map blockFrame).flatten := by
    rw [List.flatMap_map]
    rfl
  have answers : ts.flatMap Turn.answers =
      List.replicate (Bytes.chunks blockCapacity data).length blockTaken := by
    rw [List.flatMap_map]
    induction Bytes.chunks blockCapacity data with
    | nil => rfl
    | cons b bs ih =>
      rw [List.flatMap_cons, ih]
      rfl
  rw [← bytes, readBlocks_recovers blocks recover, answers]

/-- A command to write that was answered with success leads to its transfer. -/
theorem writeToRam_of_answered {address : UInt32} {data input stream : Bytes}
    (haddress : address % 4 = 0) (hsize : data.length.toUInt32 % 4 = 0)
    (answered : (status input).close = .done (.known .cmdSuccess) stream) :
    writeToRam address data .lines input =
      ⟨(Command.writeToRam address data.length.toUInt32).line ::
          (writeBlocks 0 (Bytes.chunks blockCapacity data) stream).said,
        (writeBlocks 0 (Bytes.chunks blockCapacity data) stream).close⟩ := by
  rw [writeToRam, checkAlignment, checkAlignment, if_neg (not_not_intro haddress),
    if_neg (not_not_intro hsize)]
  show (command _ >>= fun _ => writeBlocks 0 _) input = _
  rw [bind_done (command_of_answered answered)]
  rfl

end Dialogue

/-! ## Runs -/

namespace Session

/-- A byte that is held back belongs to the reply. -/
theorem length_held_le (s : Session δ) {reply : Bytes}
    (answered : ∀ more, (Dialogue.status (reply ++ more)).close =
      .done (.known .cmdSuccess) more)
    (more : Bytes) : (held s).length ≤ (reply ++ more).length := by
  have some : 0 < reply.length := by
    refine List.length_pos_iff.mpr ?_
    rintro rfl
    -- no status is read from nothing
    cases answered []
  rw [List.length_append]
  exact Nat.le_trans (length_held s) (Nat.le_add_right_of_le some)

theorem toUInt32_mod_four {n : Nat} (small : n < UInt32.size) (words : n % 4 = 0) :
    n.toUInt32 % 4 = 0 := by
  refine UInt32.toNat.inj ?_
  rw [UInt32.toNat_mod, UInt32.toNat_ofNat_of_lt' small]
  exact words

variable [Transport δ] [Transport ε]

/-- **A write of memory in lines repeats** every block until it is taken, and gives up at a block
    that is refused four times. No reply is read but those that count. Where they end too early,
    the write fails as the line does. -/
theorem writeToRam_repeats (address : UInt32) (data : Bytes) (aligned : address % 4 = 0)
    (small : data.length < UInt32.size) (words : data.length % 4 = 0) (s : Session δ)
    (reply : Bytes)
    (answered : ∀ more, (Dialogue.status (reply ++ more)).close =
      .done (.known .cmdSuccess) more)
    (replies : List Bytes) (fits : ∀ t ∈ replies, FitsLine t) (stream : Bytes)
    (heard : held s ++ stream = reply ++ replies.flatMap lineOf) (cs : List Call)
    (ran : calls (writeToRam address data .lines s).2 = calls s ++ cs)
    (served : Served stream cs) :
    let run := writeToRam address data .lines s
    let blocks := Bytes.chunks blockCapacity data
    let log := ReplyLog.share blocks.length replies
    sent cs = (Command.writeToRam address data.length.toUInt32).line :: log.frames blocks ∧
      held s ++ received cs = reply ++ log.texts.flatMap lineOf ∧
      (log.taken.length = blocks.length → run.1 = .ok () ∧ run.2.heldBack = none) ∧
      (log.refused.length = 4 →
        run.1 = .error (.corruptBlock log.taken.length 4) ∧ run.2.heldBack = none) ∧
      (log.taken.length < blocks.length → log.refused.length < 4 →
        log.texts = replies ∧ ∃ failure, run.1 = .error failure ∧ failure.isBreak) := by
  intro run blocks log
  have sized := toUInt32_mod_four small words
  have course {rest : Bytes} (last : log.taken.length < blocks.length →
      log.refused.length ≤ maxResends → rest = []) :
      Dialogue.writeToRam address data .lines (reply ++ log.texts.flatMap lineOf ++ rest) =
        ⟨(Command.writeToRam address data.length.toUInt32).line :: log.frames blocks,
          log.close 0 blocks.length rest⟩ := by
    rw [List.append_assoc, Dialogue.writeToRam_of_answered aligned sized (answered _),
      Dialogue.writeBlocks_of_share fits 0 blocks last]
  have opened := length_held_le s answered (log.texts.flatMap lineOf)
  have kept {P : Session δ} (h : held P = []) : P.heldBack = none := Option.toList_eq_nil_iff.mp h
  have follows := writeToRam_follows address data .lines s
  obtain ⟨later, split, ending⟩ := ReplyLog.share_texts blocks.length replies
  have heard' : held s ++ stream =
      reply ++ log.texts.flatMap lineOf ++ later.flatMap lineOf := by
    rw [heard, List.append_assoc, ← List.flatMap_append, ← split]
  rcases ending with ⟨all, settled⟩ | ⟨early, four | ⟨few, rfl⟩⟩
  · have ends (more : Bytes) :
        Dialogue.writeToRam address data .lines (reply ++ log.texts.flatMap lineOf ++ more) =
          ⟨(Command.writeToRam address data.length.toUInt32).line :: log.frames blocks,
            .ofResult (.ok ()) more⟩ := by
      rw [course fun early => absurd all (Nat.ne_of_lt early), ReplyLog.close_of_taken _ _ all]
      rfl
    obtain ⟨result, said, took, none⟩ := follows.of_heard heard' opened ends ran served
    refine ⟨said, took, fun _ => ⟨result, kept none⟩, fun four => ?_, fun early => ?_⟩
    · rw [settled] at four
      cases four
    · exact absurd all (Nat.ne_of_lt early)
  · have many : ¬ log.refused.length ≤ maxResends := by
      rw [four]
      exact Nat.not_succ_le_self _
    have ends (more : Bytes) :
        Dialogue.writeToRam address data .lines (reply ++ log.texts.flatMap lineOf ++ more) =
          ⟨(Command.writeToRam address data.length.toUInt32).line :: log.frames blocks,
            .ofResult (.error (.corruptBlock log.taken.length 4)) more⟩ := by
      rw [course fun _ few => absurd few many, ReplyLog.close_of_givenUp _ _ early four,
        Nat.zero_add]
      rfl
    obtain ⟨result, said, took, none⟩ := follows.of_heard heard' opened ends ran served
    refine ⟨said, took, fun all => ?_, fun _ => ⟨result, kept none⟩, fun _ few => ?_⟩
    · exact absurd all (Nat.ne_of_lt early)
    · exact absurd four (Nat.ne_of_lt few)
  · have waits : Dialogue.writeToRam address data .lines (held s ++ stream) =
        ⟨(Command.writeToRam address data.length.toUInt32).line :: log.frames blocks,
          .waiting⟩ := by
      rw [heard', List.flatMap_nil, course fun _ _ => rfl, ReplyLog.close_of_silence _ _ early few]
    obtain ⟨broken, said, took⟩ := follows.of_silence waits ran served
    rw [List.append_nil] at split
    refine ⟨said, ?_, fun all => ?_, fun four => ?_, fun _ _ => ⟨split.symm, broken⟩⟩
    · rw [took, heard', List.flatMap_nil, List.append_nil]
    · exact absurd all (Nat.ne_of_lt early)
    · exact absurd four (Nat.ne_of_lt (Nat.lt_succ_of_le few))

/-- A device that answers each line and each frame at once. -/
def answering (replies : List Bytes) : Session Scripted :=
  start { replies := Bytes.ascii "0\r\n" :: replies.map lineOf } {}

/-- The second of two blocks is taken in the end, or is not. -/
theorem writeToRam_repeats_rehearsed :
    let data : Bytes := .replicate 904 7
    let refusal := Bytes.ascii "RESEND"
    let patient := answering (refusal :: okText :: .replicate 3 refusal ++ [okText])
    let stubborn := answering (refusal :: okText :: .replicate 4 refusal)
    (writeToRam 0 data .lines patient).1 = .ok () ∧
      (writeToRam 0 data .lines stubborn).1 = .error (.corruptBlock 1 4) := by
  intro data refusal patient stubborn
  have small : data.length < UInt32.size := by decide +kernel
  have words : data.length % 4 = 0 := by decide +kernel
  constructor
  · obtain ⟨cs, ran⟩ : ∃ cs, calls (writeToRam 0 data .lines patient).2 = cs := ⟨_, rfl⟩
    let replies := refusal :: okText :: List.replicate 3 refusal ++ [okText]
    have served : Served (Bytes.ascii "0\r\n" ++ replies.flatMap lineOf) cs := by
      rw [← ran]
      decide +kernel
    have repeated := writeToRam_repeats 0 data rfl small words patient _ status_success
      replies (by decide +kernel) _ rfl cs ran served
    exact (repeated.2.2.1 (by decide +kernel)).1
  · obtain ⟨cs, ran⟩ : ∃ cs, calls (writeToRam 0 data .lines stubborn).2 = cs := ⟨_, rfl⟩
    let replies := refusal :: okText :: List.replicate 4 refusal
    have served : Served (Bytes.ascii "0\r\n" ++ replies.flatMap lineOf) cs := by
      rw [← ran]
      decide +kernel
    have repeated := writeToRam_repeats 0 data rfl small words stubborn _ status_success
      replies (by decide +kernel) _ rfl cs ran served
    have second : (ReplyLog.share (Bytes.chunks blockCapacity data).length replies).taken.length =
        1 := by decide +kernel
    rw [← second]
    exact (repeated.2.2.2.1 (by decide +kernel)).1

/-- **What is written in lines is read back**, from whatever was said between. -/
theorem readMemory_of_writeToRam (data : Bytes) (small : data.length < UInt32.size)
    (words : data.length % 4 = 0) (target source : UInt32) (targetAligned : target % 4 = 0)
    (sourceAligned : source % 4 = 0) (w : Session δ) (reply : Bytes)
    (answered : ∀ more, (Dialogue.status (reply ++ more)).close =
      .done (.known .cmdSuccess) more)
    (rest stream : Bytes)
    (acknowledged : held w ++ stream =
      reply ++ (List.replicate (blockCount data.length) okText).flatMap lineOf ++ rest)
    (wcs : List Call) (wran : calls (writeToRam target data .lines w).2 = calls w ++ wcs)
    (wserved : Served stream wcs) :
    (writeToRam target data .lines w).1 = .ok () ∧
      ∃ frames,
        sent wcs = (Command.writeToRam target data.length.toUInt32).line :: frames ∧
        ∀ (progress : Bool) (r : Session ε) (rest stream : Bytes) (rcs : List Call),
          let run := readMemory source data.length.toUInt32 .lines progress r
          let whole := Bytes.ascii "0\r\n" ++ frames.flatten
          held r ++ stream = whole ++ rest → calls run.2 = calls r ++ rcs → Served stream rcs →
          run.1 = .ok data ∧
            sent rcs = (Command.readMemory source data.length.toUInt32).line ::
              List.replicate (blockCount data.length) blockTaken ∧
            held r ++ received rcs = whole ∧ run.2.heldBack = none := by
  have sized := toUInt32_mod_four small words
  have count : data.length.toUInt32.toNat = data.length := UInt32.toNat_ofNat_of_lt' small
  have blocks : blockCount data.length = (Bytes.chunks blockCapacity data).length := by
    rw [Bytes.length_chunks blockCapacity_pos, blockCount_eq, blockCapacity_eq]
  rw [blocks] at acknowledged ⊢
  have writing (more : Bytes) : Dialogue.writeToRam target data .lines
      (reply ++ (List.replicate (Bytes.chunks blockCapacity data).length okText).flatMap lineOf ++
        more) =
      ⟨(Command.writeToRam target data.length.toUInt32).line ::
        (Bytes.chunks blockCapacity data).map blockFrame, .ofResult (.ok ()) more⟩ := by
    rw [List.append_assoc, Dialogue.writeToRam_of_answered targetAligned sized (answered _),
      Dialogue.writeBlocks_of_allTaken]
    rfl
  have reading (more : Bytes) : Dialogue.readMemory source data.length.toUInt32 .lines
      (Bytes.ascii "0\r\n" ++ ((Bytes.chunks blockCapacity data).map blockFrame).flatten ++ more) =
      ⟨(Command.readMemory source data.length.toUInt32).line ::
        List.replicate (Bytes.chunks blockCapacity data).length blockTaken,
        .ofResult (.ok data) more⟩ := by
    rw [List.append_assoc, Dialogue.readMemory_of_answered sourceAligned sized (status_success _),
      count, Dialogue.readBlocks_of_frames]
    rfl
  obtain ⟨result, said, -, -⟩ := (writeToRam_follows target data .lines w).of_heard acknowledged
    (length_held_le w answered _) writing wran wserved
  refine ⟨result, _, said, ?_⟩
  intro progress r rest stream rcs run whole heard rran rserved
  obtain ⟨result, said, took, none⟩ :=
    (readMemory_follows source data.length.toUInt32 .lines progress r).of_heard heard
      (length_held_le r status_success _) reading rran rserved
  exact ⟨result, said, took, Option.toList_eq_nil_iff.mp none⟩

theorem readMemory_of_writeToRam_rehearsed :
    let data : Bytes := .replicate 904 7
    let frames := [blockFrame (.replicate 900 7), blockFrame (.replicate 4 7)]
    let writer := answering [okText, okText]
    let reader := sending [frames.flatten]
    (writeToRam 0 data .lines writer).1 = .ok () ∧
      (readMemory 4 data.length.toUInt32 .lines false reader).1 = .ok data := by
  intro data frames writer reader
  have small : data.length < UInt32.size := by decide +kernel
  have words : data.length % 4 = 0 := by decide +kernel
  obtain ⟨wcs, wran⟩ : ∃ cs, calls (writeToRam 0 data .lines writer).2 = cs := ⟨_, rfl⟩
  obtain ⟨rcs, rran⟩ : ∃ cs,
      calls (readMemory 4 data.length.toUInt32 .lines false reader).2 = cs := ⟨_, rfl⟩
  have wserved : Served (Bytes.ascii "0\r\n" ++ [okText, okText].flatMap lineOf) wcs := by
    rw [← wran]
    decide +kernel
  have rserved : Served (Bytes.ascii "0\r\n" ++ frames.flatten) rcs := by
    rw [← rran]
    decide +kernel
  have count : blockCount data.length = 2 := by decide +kernel
  have acknowledged : held writer ++ (Bytes.ascii "0\r\n" ++ [okText, okText].flatMap lineOf) =
      Bytes.ascii "0\r\n" ++ (List.replicate (blockCount data.length) okText).flatMap lineOf ++
        [] := by
    rw [count]
    rfl
  obtain ⟨written, frames', said, read⟩ := @readMemory_of_writeToRam Scripted Scripted _ _ data
    small words 0 4 rfl rfl writer _ status_success [] _ acknowledged wcs wran wserved
  have same : frames' = frames := by
    have all : sent wcs = (Command.writeToRam 0 data.length.toUInt32).line :: frames := by
      rw [← wran]
      decide +kernel
    rw [said] at all
    exact List.tail_eq_of_cons_eq all
  subst same
  exact ⟨written, (read false reader [] _ rcs (List.append_nil _).symm rran rserved).1⟩

end Session
end SerialIsp
