import SerialIsp.Proofs.Reading
import SerialIsp.Proofs.Wire.Orders

/-!
# Status lines

A status is a decimal number on a line, like any number the bootloader sends, but it is not read
like one. Three bytes are taken first, and the digits in front of them are the status; only then
is the line read to its end, from the third byte on (`Dialogue.status_of_line`). So it matters how
long the line is.

* **A line of three bytes and more**, with its end, is read up to its end and no further. Of its
  digits the first three are taken, and the others are dropped with the rest of the line.
* **A line of two bytes**, a digit and a single line end, leaves one byte to be taken from the
  reply behind it, and that reply's line is dropped.

`commandStatus` sends its command first, and names it in the timeouts of the reply.
-/

namespace SerialIsp

open Wire

/-! ## The first three digits -/

namespace Text

/-- The number that the first three digits of `n` make, or all where there are no more. -/
def firstThree (n : Nat) : Nat := if n < 1000 then n else firstThree (n / 10)
termination_by n
decreasing_by omega

theorem firstThree_of_lt {n : Nat} (h : n < 1000) : firstThree n = n := by
  rw [firstThree]
  exact if_pos h

theorem firstThree_lt (n : Nat) : firstThree n < 1000 := by
  fun_induction firstThree n with
  | case1 n h => exact h
  | case2 n h ih => exact ih

theorem le_firstThree {n : Nat} (h : 100 ≤ n) : 100 ≤ firstThree n := by
  fun_induction firstThree n with
  | case1 n small => exact h
  | case2 n large ih => exact ih (by omega)

theorem digits_firstThree (n : Nat) : digits 10 (firstThree n) = (digits 10 n).take 3 := by
  fun_induction firstThree n with
  | case1 n small => rw [List.take_of_length_le (length_digits_le (by decide) small)]
  | case2 n large ih =>
    have three : 2 < (digits 10 (n / 10)).length := lt_length_digits (by show 100 ≤ n / 10; omega)
    rw [ih, digits_of_le (n := n) (by omega), List.take_append_of_le_length three]

end Text

/-! ## A number on a line -/

theorem unbroken_number (n : Nat) : Unbroken (number n) := forall_mem_number (by decide) n

theorem takeWhile_mark {mark rest : Bytes} (marks : LineMark mark rest) (k : Nat) :
    ((mark ++ rest).take k).takeWhile Session.isDigit = [] := by
  cases k with
  | zero => rfl
  | succ k => cases marks <;> rfl

/-- The leading digits of the first bytes of a line are those of its number. -/
theorem takeWhile_take_number {mark rest : Bytes} (marks : LineMark mark rest) (n k : Nat) :
    ((number n ++ mark ++ rest).take k).takeWhile Session.isDigit = (number n).take k := by
  have digits : ∀ c ∈ (number n).take k, Session.isDigit c = true := fun c mem =>
    forall_mem_number (motive := (Session.isDigit · = true)) (by decide) n c
      (List.mem_of_mem_take mem)
  rw [List.append_assoc, List.take_append, List.takeWhile_append_of_pos digits,
    takeWhile_mark marks, List.append_nil]

theorem Wire.Status.value_ofValue (n : UInt32) : (Status.ofValue n).value = n := by
  unfold ofValue
  cases entry : StatusCode.all[n.toNat]? with
  | none => rfl
  | some code =>
    have positions : ∀ i < 20, (StatusCode.all[i]?).map StatusCode.value = some i.toUInt32 := by
      decide
    obtain ⟨inside, -⟩ := List.getElem?_eq_some_iff.mp entry
    have position := positions n.toNat inside
    rw [entry] at position
    exact (Option.some.inj position).trans UInt32.ofNat_toNat

theorem Wire.Status.ofValue_of_le {n : UInt32} (h : 20 ≤ n.toNat) : ofValue n = .unknown n := by
  have beyond : StatusCode.all[n.toNat]? = none := List.getElem?_eq_none h
  rw [ofValue, beyond]

/-! ## Reading a status off a line -/

namespace Dialogue

/-- **The status of a line**, and what is then left to be read: all but the first two bytes. -/
theorem status_of_line {n : Nat} {mark rest : Bytes} (marks : LineMark mark rest)
    (three : 3 ≤ (Wire.number n ++ mark ++ rest).length) :
    (status (Wire.number n ++ mark ++ rest)).close =
      (lineRest ((Wire.number n ++ mark ++ rest).drop 2)).close.map fun _ =>
        Status.ofValue (Text.firstThree n).toUInt32 := by
  have digits := takeWhile_take_number marks n 3
  have below : Text.firstThree n < Text.limit32 :=
    Nat.lt_trans (Text.firstThree_lt n) (by decide)
  have told : Text.readNumber 10 Text.limit32
      (((Wire.number n).take 3).map fun d => Char.ofNat d.toNat) = .ok (Text.firstThree n) := by
    have chars := Command.chars_number n
    rw [Command.chars] at chars
    rw [List.map_take, chars, ← Text.digits_firstThree, Text.readNumber_digits below]
  rcases input : Wire.number n ++ mark ++ rest with _ | ⟨a, _ | ⟨b, _ | ⟨c, more⟩⟩⟩
  iterate 3
    · rw [input] at three
      exact absurd three (by simp)
  · rw [input] at digits
    have first : ([a, b, c] : Bytes).takeWhile Session.isDigit = (Wire.number n).take 3 := digits
    rw [status_cons, first, told]
    exact congrArg Course.close (bind_pure_apply lineRest _ (c :: more))

/-- Where three bytes lie within the line, reading ends with it. -/
theorem lineRest_of_line {text mark rest : Bytes} (unbroken : Unbroken text)
    (marks : LineMark mark rest) (three : 3 ≤ (text ++ mark).length) :
    (lineRest ((text ++ mark ++ rest).drop 2)).close = .done () rest := by
  match text with
  | [] =>
    cases marks <;> exact absurd three (by simp)
  | [a] =>
    cases marks with
    | crlf => rfl
    | lf | cr => exact absurd three (by simp)
  | a :: b :: text =>
    have behind : Unbroken text := (unbroken_cons.mp (unbroken_cons.mp unbroken).2).2
    exact lineRest_done.mpr ⟨text, firstLine_of_mark behind marks⟩

theorem status_of_longLine {n : Nat} {mark rest : Bytes} (marks : LineMark mark rest)
    (three : 3 ≤ (Wire.number n ++ mark).length) :
    (status (Wire.number n ++ mark ++ rest)).close =
      .done (.ofValue (Text.firstThree n).toUInt32) rest := by
  have longer : 3 ≤ (Wire.number n ++ mark ++ rest).length := by
    rw [List.length_append]
    omega
  rw [status_of_line marks longer, lineRest_of_line (unbroken_number n) marks three]
  rfl

/-- Where they do not, the line behind it is read to its end as well. -/
theorem status_of_shortLine {n : Nat} {mark rest : Bytes} (marks : LineMark mark rest)
    (digit : n < 10) (single : mark.length = 1) (ne : rest ≠ []) :
    (status (Wire.number n ++ mark ++ rest)).close =
      (lineRest rest).close.map fun _ => .ofValue n.toUInt32 := by
  have one : (Wire.number n).length = 1 := by
    rw [length_number, Text.digits_of_lt digit]
    rfl
  have two : (Wire.number n ++ mark).length = 2 := by rw [List.length_append, one, single]
  have some := List.length_pos_iff.mpr ne
  have three : 3 ≤ (Wire.number n ++ mark ++ rest).length := by
    rw [List.length_append, two]
    omega
  have behind : (Wire.number n ++ mark ++ rest).drop 2 = rest := by rw [← two, List.drop_left]
  rw [status_of_line marks three, behind, Text.firstThree_of_lt (by omega)]

end Dialogue

/-! ## Commands and their statuses -/

namespace Session

variable {δ : Type} [Transport δ] {queue : δ → Bytes} {steady : δ → Prop}

/-- The line of a command is taken, and this is what lies ahead then. -/
structure Replied (queue : δ → Bytes) (steady : δ → Prop) (c : Command) (s : Session δ)
    (input : Bytes) : Prop where
  taken : (Transport.write s.device c.line).1 = .ok c.line.length
  steady : steady (Transport.write s.device c.line).2
  ahead : s.heldBack.toList ++ queue (Transport.write s.device c.line).2 = input

section

variable (q : Queues queue steady) {c : Command} {s : Session δ} {input : Bytes}
  (replied : Replied queue steady c s input)

include q replied

/-- **A command's status** is what reading one off the reply comes to, and timeouts name the
    command. -/
theorem outcome_commandStatus : outcome queue (commandStatus c) s =
    ((Dialogue.status input).close.atOnce.1.mapError (Failure.during c.kind),
      (Dialogue.status input).close.atOnce.2) := by
  let asking : Session δ := { s with
    timeout := max c.kind.patience s.settings.timeout
    journal.notices := s.journal.notices.push (.sendingCommand c) }
  obtain ⟨notices, sent⟩ := writeBytes_apply c.line asking
  have full : writeResult c.line (Transport.write s.device c.line).1 = .ok () := by
    rw [replied.taken]
    exact if_pos rfl
  -- the write leaves the byte held back where it is
  let asked : Session δ := { asking with
    device := (Transport.write s.device c.line).2
    journal.calls := s.journal.calls.push (.write c.line (Transport.write s.device c.line).1)
    journal.notices := notices }
  have sent : (writeBytes c.line : SessionM δ Unit) asking = (.ok (), asked) :=
    sent.trans (congrArg (·, asked) full)
  have heard : ahead queue asked = input := replied.ahead
  obtain ⟨-, read⟩ := readStatus_readsAs q asked replied.steady
  rw [heard] at read
  rw [← read, outcome, outcome, commandStatus, bind_apply]
  simp only [notify, modify_apply, bind_apply, get_apply, during, withTimeout]
  rw [sent]
  dsimp only
  rcases readStatus asked with ⟨failure | status, t⟩
  · rfl
  · obtain ⟨told, traced⟩ := traceNotice_apply (.statusTraced c.kind status)
      { t with timeout := s.timeout }
    dsimp only
    rw [traced]
    rfl

end

theorem outcome_of_longLine (q : Queues queue steady) {c : Command} {s : Session δ} {n : UInt32}
    {mark rest : Bytes} (marks : LineMark mark rest) (three : 3 ≤ (number n.toNat ++ mark).length)
    (replied : Replied queue steady c s (number n.toNat ++ mark ++ rest)) :
    outcome queue (commandStatus c) s =
      (.ok (.ofValue (Text.firstThree n.toNat).toUInt32), rest) := by
  rw [outcome_commandStatus q replied, Dialogue.status_of_longLine marks three]
  rfl

theorem outcome_of_three_digits (q : Queues queue steady) {c : Command} {s : Session δ}
    {n : UInt32} {mark rest : Bytes} (small : n.toNat < 1000) (marks : LineMark mark rest)
    (three : 3 ≤ (number n.toNat ++ mark).length)
    (replied : Replied queue steady c s (number n.toNat ++ mark ++ rest)) :
    outcome queue (commandStatus c) s = (.ok (.ofValue n), rest) := by
  have back : n.toNat.toUInt32 = n := UInt32.ofNat_toNat
  rw [outcome_of_longLine q marks three replied, Text.firstThree_of_lt small, back]

/-- **A reply that ends in CR LF.** A status below a thousand comes back as it was sent, and what
    is behind its line is left as it is. A longer one comes back as an unknown status with its
    first three digits, which is not the one that was sent. -/
theorem commandStatus_of_line (q : Queues queue steady) (c : Command) (s : Session δ) (n : UInt32)
    (rest : Bytes)
    (replied : Replied queue steady c s (number n.toNat ++ [Bytes.cr, Bytes.lf] ++ rest)) :
    (Status.ofValue n).value = n ∧
      (n.toNat < 1000 → outcome queue (commandStatus c) s = (.ok (.ofValue n), rest)) ∧
      (1000 ≤ n.toNat → ∃ m : UInt32, outcome queue (commandStatus c) s = (.ok (.unknown m), rest) ∧
        m.toNat = Text.firstThree n.toNat ∧ m ≠ n) := by
  have some := List.length_pos_iff.mpr (Text.digits_ne_nil n.toNat)
  have three : 3 ≤ (number n.toNat ++ [Bytes.cr, Bytes.lf]).length := by
    rw [List.length_append, length_number]
    exact Nat.add_le_add_right some 2
  have below := Text.firstThree_lt n.toNat
  have number : (Text.firstThree n.toNat).toUInt32.toNat = Text.firstThree n.toNat :=
    Nat.mod_eq_of_lt (Nat.lt_trans below (by decide))
  refine ⟨Status.value_ofValue n, ?_, ?_⟩
  · intro small
    exact outcome_of_three_digits q small (.crlf rest) three replied
  · intro large
    have unknown : 100 ≤ Text.firstThree n.toNat := Text.le_firstThree (by omega)
    refine ⟨(Text.firstThree n.toNat).toUInt32, ?_, number, ?_⟩
    · rw [outcome_of_longLine q (.crlf rest) three replied, Status.ofValue_of_le (by omega)]
    · intro same
      have := congrArg UInt32.toNat same
      omega

/-- The last status with a meaning comes back, and the number behind it is left. -/
theorem commandStatus_of_line_protected :
    let s := start { replies := [Bytes.ascii "19\r\n7\r\n"] : Scripted } {}
    Replied Scripted.queue (fun d => d.readFaults = []) .unlock s
        (number (19 : UInt32).toNat ++ [Bytes.cr, Bytes.lf] ++ Bytes.ascii "7\r\n") ∧
      outcome Scripted.queue (commandStatus .unlock) s =
        (.ok (.known .codeReadProtectionEnabled), Bytes.ascii "7\r\n") := by
  intro s
  have replied : Replied Scripted.queue (fun d => d.readFaults = []) .unlock s
      (number (19 : UInt32).toNat ++ [Bytes.cr, Bytes.lf] ++ Bytes.ascii "7\r\n") :=
    ⟨rfl, rfl, by decide +kernel⟩
  have run := commandStatus_of_line Scripted.queues .unlock s 19 (Bytes.ascii "7\r\n") replied
  exact ⟨replied, run.2.1 (by decide)⟩

/-- **Not every status comes back.** Of `1000`, the last digit is dropped. -/
theorem long_status_is_cut : ¬ ∀ (c : Command) (s : Session Scripted) (n : UInt32) (rest : Bytes),
    Replied Scripted.queue (fun d => d.readFaults = []) c s
      (number n.toNat ++ [Bytes.cr, Bytes.lf] ++ rest) →
    outcome Scripted.queue (commandStatus c) s = (.ok (.ofValue n), rest) ∧
      (Status.ofValue n).value = n := by
  intro back
  let s := start { replies := [Bytes.ascii "1000\r\n"] : Scripted } {}
  have replied : Replied Scripted.queue (fun d => d.readFaults = []) .unlock s
      (number (1000 : UInt32).toNat ++ [Bytes.cr, Bytes.lf] ++ []) :=
    ⟨rfl, rfl, by decide +kernel⟩
  have cut := outcome_of_longLine Scripted.queues (.crlf []) (by decide +kernel) replied
  have whole := (back .unlock s 1000 [] replied).1
  rw [cut] at whole
  exact absurd (Except.ok.inj (Prod.mk.inj whole).1) (by decide +kernel)

/-- **A reply that ends in one character**, with another reply behind it. A status of two or three
    digits comes back, and the other reply is left as it is. A status of one digit comes back as
    well, but it takes the first line of the other reply with it; and where that is no whole line
    the command times out, with nothing left. -/
theorem commandStatus_of_singleMark (q : Queues queue steady) (c : Command) (s : Session δ)
    (n : UInt32) (small : n.toNat ≤ 999) (mark rest : Bytes) (marks : LineMark mark rest)
    (single : mark.length = 1) (ne : rest ≠ [])
    (replied : Replied queue steady c s (number n.toNat ++ mark ++ rest)) :
    (10 ≤ n.toNat → outcome queue (commandStatus c) s = (.ok (.ofValue n), rest)) ∧
    (n.toNat < 10 →
      (∀ text rest', FirstLine text rest rest' →
        outcome queue (commandStatus c) s = (.ok (.ofValue n), rest')) ∧
      ((¬ ∃ text rest', FirstLine text rest rest') →
        outcome queue (commandStatus c) s = (.error (.connecting (.timeout (some c.kind))), [])) ∧
      outcome queue (commandStatus c) s ≠ (.ok (.ofValue n), rest)) := by
  constructor
  · intro digits
    have two : 1 < (Text.digits 10 n.toNat).length := Text.lt_length_digits digits
    have three : 3 ≤ (number n.toNat ++ mark).length := by
      rw [List.length_append, length_number, single]
      omega
    exact outcome_of_three_digits q (by omega) marks three replied
  · intro digit
    have back : n.toNat.toUInt32 = n := UInt32.ofNat_toNat
    have run := outcome_commandStatus q replied
    rw [Dialogue.status_of_shortLine marks digit single ne, back] at run
    have line (text rest' : Bytes) (first : FirstLine text rest rest') :
        outcome queue (commandStatus c) s = (.ok (.ofValue n), rest') := by
      have read : (Dialogue.lineRest rest).close = .done () rest' :=
        Dialogue.lineRest_done.mpr ⟨text, first⟩
      rw [run, read]
      rfl
    have noLine (none : ¬ ∃ text rest', FirstLine text rest rest') :
        outcome queue (commandStatus c) s =
          (.error (.connecting (.timeout (some c.kind))), []) := by
      rw [run]
      cases ended : (Dialogue.lineRest rest).close with
      | done u rest' =>
        obtain ⟨text, first⟩ := Dialogue.lineRest_done.mp ended
        exact absurd ⟨text, rest', first⟩ none
      | failed failure rest' => exact absurd ended (Dialogue.lineRest_not_failed _ _ _)
      | waiting => rfl
    refine ⟨line, noLine, fun same => ?_⟩
    by_cases some : ∃ text rest', FirstLine text rest rest'
    · obtain ⟨text, rest', first⟩ := some
      rw [line text rest' first] at same
      have shorter := first.length_lt
      rw [(Prod.mk.inj same).2] at shorter
      exact Nat.lt_irrefl _ shorter
    · rw [noLine some] at same
      cases same

/-- A device that ends its status in a lone carriage return. -/
def loneReturn : Session Scripted := start { replies := [Bytes.ascii "0\r7\r\n13\r\n"] } {}

theorem replied_loneReturn :
    Replied Scripted.queue (fun d => d.readFaults = []) .readBootVersion loneReturn
      (number (0 : UInt32).toNat ++ [Bytes.cr] ++ Bytes.ascii "7\r\n13\r\n") :=
  ⟨rfl, rfl, by decide +kernel⟩

theorem lineMark_loneReturn : LineMark [Bytes.cr] (Bytes.ascii "7\r\n13\r\n") :=
  .cr _ (by decide)

/-- Its `7` is read as the third byte of the status. -/
theorem commandStatus_of_singleMark_loneReturn :
    Replied Scripted.queue (fun d => d.readFaults = []) .readBootVersion loneReturn
        (number (0 : UInt32).toNat ++ [Bytes.cr] ++ Bytes.ascii "7\r\n13\r\n") ∧
      outcome Scripted.queue (commandStatus .readBootVersion) loneReturn =
        (.ok (.known .cmdSuccess), Bytes.ascii "13\r\n") := by
  have next : FirstLine (Bytes.ascii "7") (Bytes.ascii "7\r\n13\r\n") (Bytes.ascii "13\r\n") :=
    firstLine_of_mark (by decide +kernel) (.crlf _)
  have run := commandStatus_of_singleMark Scripted.queues .readBootVersion loneReturn 0 (by decide)
    _ _ lineMark_loneReturn rfl (by decide) replied_loneReturn
  exact ⟨replied_loneReturn, (run.2 (by decide)).1 _ _ next⟩

/-- **A status does not end like any other line.** What is left behind a digit and a lone carriage
    return is not the reply that followed. -/
theorem short_status_takes_more : ¬ ∀ (c : Command) (s : Session Scripted) (n : UInt32)
    (mark rest : Bytes), n.toNat ≤ 999 → LineMark mark rest → mark.length = 1 → rest ≠ [] →
    Replied Scripted.queue (fun d => d.readFaults = []) c s (number n.toNat ++ mark ++ rest) →
    outcome Scripted.queue (commandStatus c) s = (.ok (.ofValue n), rest) := by
  intro kept
  have same := kept .readBootVersion loneReturn 0 _ _ (by decide) lineMark_loneReturn rfl
    (by decide) replied_loneReturn
  have run := outcome_commandStatus Scripted.queues replied_loneReturn
  rw [Dialogue.status_of_shortLine lineMark_loneReturn (by decide) rfl (by decide)] at run
  exact absurd (congrArg Prod.snd (same.symm.trans run)) (by decide +kernel)

end Session
end SerialIsp
