import SerialIsp.Proofs.Transfer.Sending

/-!
# Garbled sums

A block arrives as it is, and the line behind it does not tell its sum. It is any text without a
line end: no number, or another one. A line that fits is read to its end, so the sending is one
that `Sending.Spoils` speaks of, and a read recovers from it like from any other.

A line that does not fit is no such sending. It is given up at its sixty-fifth byte
(`orNone_number_of_overlong`), and what is left of it stays on the line, with its end. A status
line that is too long is read to its end, and this one is not: the block is asked for again, and
the next attempt at it opens with the rest of the garbled line.
-/

namespace SerialIsp

open Wire

variable {δ : Type}

/-! ## One attempt -/

namespace Sending

/-- The block is sent as it is, and the line behind it does not tell its sum. -/
structure Garbles (x : Sending) (b : Bytes) : Prop where
  lines : x.lines = encode b
  unbroken : Unbroken x.told
  wrong : toldSum x.told ≠ some (byteSum b)

instance (x : Sending) (b : Bytes) : Decidable (x.Garbles b) :=
  decidable_of_iff
    (x.lines = encode b ∧ Unbroken x.told ∧ toldSum x.told ≠ some (byteSum b))
    ⟨fun ⟨lines, unbroken, wrong⟩ => ⟨lines, unbroken, wrong⟩,
      fun garbles => ⟨garbles.lines, garbles.unbroken, garbles.wrong⟩⟩

theorem Garbles.spoils {x : Sending} {b : Bytes} (garbles : x.Garbles b)
    (fits : x.told.length ≤ Session.lineLimit) : x.Spoils b.length where
  full := by rw [garbles.lines, length_encode]
  fits := fits
  plain := garbles.unbroken
  bad c decoded _ := by
    rw [garbles.lines, decode_encode] at decoded
    cases decoded
    exact garbles.wrong

/-- A block whose garbled sums all fit on a line is recovered. -/
theorem recovers_of_garbles {t : Turn} (few : t.spoiled.length ≤ maxResends)
    (garbled : ∀ x ∈ t.spoiled, x.Garbles t.block ∧ x.told.length ≤ Session.lineLimit) :
    t.Recovers :=
  ⟨few, fun x mem => (garbled x mem).1.spoils (garbled x mem).2⟩

end Sending

namespace Dialogue

/-- A line that does not fit is no number, and is left where it stops fitting. -/
theorem orNone_number_of_overlong {text : Bytes} (unbroken : Unbroken text)
    (long : text.length = Session.lineLimit + 1) (rest : Bytes) :
    orNone number (text ++ rest) = ⟨[], .done none rest⟩ := by
  have failed : (line (text ++ rest)).close =
      .failed (.connecting (.malformedReply (Text.Utf8.lossy text))) rest :=
    line_failed.mpr ⟨text, unbroken, long, rfl, rfl⟩
  have garbled : line (text ++ rest) =
      ⟨[], .failed (.connecting (.malformedReply (Text.Utf8.lossy text))) rest⟩ :=
    congr (congrArg Course.mk (listening_line.mute _)) failed
  rw [orNone, number, bind_failed garbled]

/-- **A block with too long a line behind it** is refused in the middle of that line. -/
theorem receiveBlock_of_overlong {b told : Bytes} (unbroken : Unbroken told)
    (long : Session.lineLimit < told.length) (rest : Bytes) :
    receiveBlock b.length (encode b ++ told.take (Session.lineLimit + 1) ++ rest) =
      ⟨[], .done none rest⟩ := by
  have some : (told.take (Session.lineLimit + 1)).length = Session.lineLimit + 1 :=
    List.length_take_of_le long
  have cut : Unbroken (told.take (Session.lineLimit + 1)) := fun c mem =>
    unbroken c (List.mem_of_mem_take mem)
  let attempt : Attempt := ⟨encode b, none⟩
  have heard : attempt.Heard b.length
      (encode b ++ told.take (Session.lineLimit + 1) ++ rest) rest :=
    ⟨_, List.append_assoc .., length_encode b, orNone_number_of_overlong cut some rest⟩
  have refused : attempt.Refused b.length := fun c brings => nomatch brings.2.2
  rw [receiveBlock_of_heard heard, accept_eq_none.mpr refused]

end Dialogue

/-! ## Runs -/

namespace Session

variable [Transport δ]

/-- **Garbled sums cost a resend each**, up to three of them for a block, as long as their lines
    fit. Any line that does not fit costs more: the attempt ends at its sixty-fifth byte, and the
    rest of it lies in front of the block when that is sent again. -/
theorem readMemory_of_garbledSums (address : UInt32) (d : Bytes) (aligned : address % 4 = 0)
    (small : d.length < UInt32.size) (words : d.length % 4 = 0) (progress : Bool) (s : Session δ)
    (reply : Bytes)
    (answered : ∀ more, (Dialogue.status (reply ++ more)).close =
      .done (.known .cmdSuccess) more)
    (ts : List Turn) (blocks : ts.map Turn.block = Bytes.chunks blockCapacity d)
    (few : ∀ t ∈ ts, t.spoiled.length ≤ 3)
    (garbled : ∀ t ∈ ts, ∀ x ∈ t.spoiled, x.Garbles t.block ∧ x.told.length ≤ 64)
    (rest stream : Bytes) (heard : held s ++ stream = reply ++ ts.flatMap Turn.bytes ++ rest)
    (cs : List Call)
    (ran : calls (readMemory address d.length.toUInt32 .lines progress s).2 = calls s ++ cs)
    (served : Served stream cs) :
    let run := readMemory address d.length.toUInt32 .lines progress s
    (run.1 = .ok d ∧
      sent cs = (Command.readMemory address d.length.toUInt32).line :: ts.flatMap Turn.answers ∧
      held s ++ received cs = reply ++ ts.flatMap Turn.bytes ∧ run.2.heldBack = none) ∧
    ∀ (block : Nat) (b g : Bytes), Unbroken g → 64 < g.length →
      ∀ (u : Session δ) (rest stream : Bytes) (cs : List Call),
        let attempt := receiveBlock block b.length u
        held u ++ stream = encode b ++ g ++ [Bytes.cr, Bytes.lf] ++ rest →
        calls attempt.2 = calls u ++ cs → Served stream cs →
        attempt.1 = .ok none ∧ sent cs = [] ∧
          held u ++ received cs = encode b ++ g.take 65 ∧ attempt.2.heldBack = none := by
  have kept {P : Session δ} (h : held P = []) : P.heldBack = none := Option.toList_eq_nil_iff.mp h
  constructor
  · have count : d.length.toUInt32.toNat = d.length := UInt32.toNat_ofNat_of_lt' small
    have recover : ∀ t ∈ ts, t.Recovers := fun t mem =>
      Sending.recovers_of_garbles (few t mem) (garbled t mem)
    have course (more : Bytes) : Dialogue.readMemory address d.length.toUInt32 .lines
        (reply ++ ts.flatMap Turn.bytes ++ more) =
        ⟨(Command.readMemory address d.length.toUInt32).line :: ts.flatMap Turn.answers,
          .ofResult (.ok d) more⟩ := by
      rw [List.append_assoc, Dialogue.readMemory_of_answered aligned
        (toUInt32_mod_four small words) (answered _), count,
        Dialogue.readBlocks_recovers blocks recover]
      rfl
    have follows := readMemory_follows (δ := δ) address d.length.toUInt32 .lines progress s
    obtain ⟨result, said, took, none⟩ :=
      follows.of_heard heard (length_held_le s answered _) course ran served
    exact ⟨result, said, took, kept none⟩
  · intro block b g unbroken long u rest stream cs attempt heard ran served
    have whole : held u ++ stream = encode b ++ g.take 65 ++
        (g.drop 65 ++ [Bytes.cr, Bytes.lf] ++ rest) := by
      rw [heard]
      simp only [List.append_assoc]
      rw [← List.append_assoc (g.take 65), List.take_append_drop]
    have opened : (held u).length ≤ (encode b ++ g.take 65).length := by
      have one := length_held u
      rw [List.length_append, List.length_take_of_le long]
      omega
    have course (more : Bytes) : Dialogue.receiveBlock b.length (encode b ++ g.take 65 ++ more) =
        ⟨[], .ofResult (.ok none) more⟩ := Dialogue.receiveBlock_of_overlong unbroken long more
    obtain ⟨result, said, took, none⟩ :=
      (receiveBlock_follows block b.length u).of_heard whole opened course ran served
    exact ⟨result, said, took, kept none⟩

/-- Four bytes with this line behind them. -/
def sevens (told : Bytes) : Sending := ⟨encode [7, 7, 7, 7], told⟩

/-- A second block of two garbled sums, one of which is a number; and a line of seventy bytes,
    five of which are left. -/
theorem readMemory_of_garbledSums_rehearsed :
    let d : Bytes := .replicate 904 7
    let first : Turn := ⟨[], .replicate 900 7⟩
    let second : Turn := ⟨[sevens (Bytes.ascii "2x8"), sevens (Bytes.ascii "29")], [7, 7, 7, 7]⟩
    let device := sending
      [first.bytes, (sevens (Bytes.ascii "2x8")).bytes, (sevens (Bytes.ascii "29")).bytes,
        blockFrame second.block]
    let long := start { queue := (sevens (.replicate 70 120)).bytes : Scripted } {}
    (readMemory 0 d.length.toUInt32 .lines false device).1 = .ok d ∧
      (receiveBlock 0 4 long).1 = .ok none ∧
      received (calls (receiveBlock 0 4 long).2) = encode [7, 7, 7, 7] ++ .replicate 65 120 := by
  intro d first second device long
  have small : d.length < UInt32.size := by decide +kernel
  have words : d.length % 4 = 0 := by decide +kernel
  obtain ⟨cs, ran⟩ : ∃ cs, calls (readMemory 0 d.length.toUInt32 .lines false device).2 = cs :=
    ⟨_, rfl⟩
  have blocks : [first, second].map Turn.block = Bytes.chunks blockCapacity d := by decide +kernel
  have few : ∀ t ∈ [first, second], t.spoiled.length ≤ 3 := by decide
  have garbled : ∀ t ∈ [first, second], ∀ x ∈ t.spoiled,
      x.Garbles t.block ∧ x.told.length ≤ 64 := by decide +kernel
  have served : Served (Bytes.ascii "0\r\n" ++ [first, second].flatMap Turn.bytes ++ []) cs := by
    rw [← ran]
    decide +kernel
  obtain ⟨arrived, attempt⟩ := readMemory_of_garbledSums 0 d rfl small words false device _
    status_success [first, second] blocks few garbled [] _ rfl cs ran served
  obtain ⟨ds, heard⟩ : ∃ ds, calls (receiveBlock 0 4 long).2 = ds := ⟨_, rfl⟩
  have servedLong : Served (sevens (.replicate 70 120)).bytes ds := by
    rw [← heard]
    decide +kernel
  obtain ⟨refused, -, took, -⟩ := attempt 0 [7, 7, 7, 7] (.replicate 70 120) (by decide +kernel)
    (by decide) long [] _ ds (by decide +kernel) heard servedLong
  rw [heard]
  exact ⟨arrived.1, refused, took⟩

/-- **Not every garbled line costs one resend.** Of seventy bytes, five stand in front of the
    block that is sent again. -/
theorem overlong_sum_costs_more : ¬ ∀ b g : Bytes, b ≠ [] → b.length ≤ blockCapacity →
    b.length % 4 = 0 → (Sending.mk (encode b) g).Garbles b →
    (readMemory 0 b.length.toUInt32 .lines false
      (sending [(Sending.mk (encode b) g).bytes, blockFrame b])).1 = .ok b := by
  intro recovers
  have garbles : (sevens (.replicate 70 120)).Garbles [7, 7, 7, 7] := by decide +kernel
  have same := recovers [7, 7, 7, 7] (.replicate 70 120) (by decide) (by decide) rfl garbles
  exact absurd same (by decide +kernel)

end Session
end SerialIsp
