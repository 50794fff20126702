import SerialIsp.Proofs.Dialogue.Memory

/-!
# The log of a transfer

When memory is read in printable lines, a device can send anything, at any time. Whatever it
sends, the bytes that arrive are so many attempts at so many blocks, and this is the one fact
the file proves:

> **every input has a log** (`readBlocks_log`): block after block, at most three attempts that
> were refused and one that was taken, up to the end of the data, to a fourth attempt in vain,
> or to an attempt that is not complete.

A log is made of what was heard. What is answered on it, `RESEND` for an attempt that was
refused and `OK` for one that was taken, is computed from the log.
-/

namespace SerialIsp

open Wire

/-! ## Attempts -/

/-- One sending of a block: its lines, and the number on the line behind them, if there is
    one. -/
structure Attempt where
  lines : Bytes
  sum : Option UInt32
  deriving DecidableEq, Repr

namespace Attempt

/-- The attempt brings `b`, which has the length that is due and the sum that was told. -/
def Brings (a : Attempt) (length : Nat) (b : Bytes) : Prop :=
  decode a.lines = .ok b ∧ b.length = length ∧ a.sum = some (byteSum b)

/-- The attempt brings nothing. -/
def Refused (a : Attempt) (length : Nat) : Prop := ∀ b, ¬ a.Brings length b

/-- The attempt stands at the front of `input`, before `rest`. -/
def Heard (a : Attempt) (length : Nat) (input rest : Bytes) : Prop :=
  ∃ behind, input = a.lines ++ behind ∧ a.lines.length = encodedLength length ∧
    Dialogue.orNone Dialogue.number behind = ⟨[], .done a.sum rest⟩

end Attempt

/-- Attempts at one block, all of them refused. -/
def AllRefused (length : Nat) : List Attempt → Bytes → Bytes → Prop
  | [], input, rest => input = rest
  | a :: as, input, rest =>
    a.Refused length ∧ ∃ between, a.Heard length input between ∧ AllRefused length as between rest

/-- A block that was taken, after some attempts that were refused. -/
structure Delivery where
  refused : List Attempt
  taken : Attempt
  content : Bytes
  deriving DecidableEq, Repr

namespace Delivery

/-- The delivery of a block of `length` bytes stands at the front of `input`. -/
def Heard (d : Delivery) (length : Nat) (input rest : Bytes) : Prop :=
  d.refused.length ≤ maxResends ∧ d.taken.Brings length d.content ∧
    ∃ between, AllRefused length d.refused input between ∧ d.taken.Heard length between rest

/-- All sendings of the block. -/
def attempts (d : Delivery) : List Attempt := d.refused ++ [d.taken]

/-- What is said for it. -/
def answers (d : Delivery) : List Bytes :=
  List.replicate d.refused.length blockWanted ++ [blockTaken]

end Delivery

/-- Deliveries of the blocks of `left` bytes, in order, as far as they go. -/
def AllHeard : (left : Nat) → List Delivery → Bytes → Bytes → Prop
  | _, [], input, rest => input = rest
  | left, d :: ds, input, rest =>
    0 < left ∧ ∃ between, d.Heard (min left blockCapacity) input between ∧
      AllHeard (left - min left blockCapacity) ds between rest

/-! ## Logs -/

/-- The attempts of a transfer. -/
structure TransferLog where
  delivered : List Delivery
  /-- The attempts at the block behind those that were delivered. -/
  refused : List Attempt
  deriving DecidableEq, Repr

namespace TransferLog

/-- The bytes that were not delivered. -/
def missing (log : TransferLog) (left : Nat) : Nat := left - log.delivered.length * blockCapacity

/-- The data that was delivered. -/
def data (log : TransferLog) : Bytes := log.delivered.flatMap Delivery.content

/-- All attempts, in order. -/
def attempts (log : TransferLog) : List Attempt :=
  log.delivered.flatMap Delivery.attempts ++ log.refused

/-- What is said in a transfer: after the last attempt there is nothing left to ask for. -/
def answers (log : TransferLog) : List Bytes :=
  log.delivered.flatMap Delivery.answers ++
    List.replicate (min log.refused.length maxResends) blockWanted

/-- **The log tells of** a transfer of `left` bytes, and leaves `rest` of its input. -/
structure Tells (log : TransferLog) (left : Nat) (input rest : Bytes) : Prop where
  heard : ∃ between, AllHeard left log.delivered input between ∧
    AllRefused (min (log.missing left) blockCapacity) log.refused between rest
  atMost : log.refused.length ≤ maxResends + 1
  needed : log.missing left = 0 → log.refused = []

/-- How a transfer ends that a log tells of. -/
inductive Ends (log : TransferLog) (block left : Nat) (rest : Bytes) : Close Bytes → Prop where
  | complete (h : log.missing left = 0) : Ends log block left rest (.done log.data rest)
  | givenUp (h : 0 < log.missing left) (h' : log.refused.length = maxResends + 1) :
    Ends log block left rest
      (.failed (.corruptBlock (block + log.delivered.length) (maxResends + 1)) rest)
  /-- The attempt in `rest` is not complete. -/
  | unfinished (h : 0 < log.missing left) (h' : log.refused.length ≤ maxResends)
    (short : (Dialogue.receiveBlock (min (log.missing left) blockCapacity) rest).close =
      .waiting) : Ends log block left rest .waiting

end TransferLog

/-! ## One attempt -/

namespace Dialogue

theorem accept_eq_some {length : Nat} {a : Attempt} {b : Bytes} :
    accept length a.lines a.sum = some b ↔ a.Brings length b := by
  unfold accept Attempt.Brings
  cases decode a.lines with
  | error cut => simp
  | ok c =>
    simp only [Option.ite_none_right_eq_some, Option.some.injEq, Except.ok.injEq]
    constructor
    · rintro ⟨⟨length, sum⟩, rfl⟩
      exact ⟨rfl, length, sum.symm⟩
    · rintro ⟨rfl, length, sum⟩
      exact ⟨⟨length, sum.symm⟩, rfl⟩

theorem accept_eq_none {length : Nat} {a : Attempt} :
    accept length a.lines a.sum = none ↔ a.Refused length := by
  constructor
  · intro none b brings
    rw [accept_eq_some.mpr brings] at none
    cases none
  · intro refused
    cases accepted : accept length a.lines a.sum with
    | none => rfl
    | some b => exact absurd (accept_eq_some.mp accepted) (refused b)

/-- Where a number is awaited, either one comes, or a line that is none, or not enough. -/
theorem orNone_number (input : Bytes) : orNone number input = ⟨[], .waiting⟩ ∨
    ∃ sum rest, orNone number input = ⟨[], .done sum rest⟩ := by
  unfold orNone
  have mute := listening_number.mute input
  rcases heard : number input with ⟨said, ⟨n, rest⟩ | ⟨failure, rest⟩ | _⟩
  all_goals
    rw [heard] at mute
    obtain rfl : said = [] := mute
  · exact .inr ⟨some n, rest, rfl⟩
  · have garbled := listening_number.garbled (congrArg Course.close heard)
    cases failure with
    | connecting fault =>
      cases fault with
      | malformedReply text => exact .inr ⟨none, rest, rfl⟩
      | _ => exact garbled.elim
    | _ => exact garbled.elim
  · exact .inl rfl

theorem receiveBlock_of_heard {length : Nat} {a : Attempt} {input rest : Bytes}
    (h : a.Heard length input rest) :
    receiveBlock length input = ⟨[], .done (accept length a.lines a.sum) rest⟩ := by
  obtain ⟨behind, rfl, full, heard⟩ := h
  rw [receiveBlock, ← full, bind_done (take_append a.lines behind), List.nil_append,
    bind_done heard]
  rfl

/-- **An attempt comes, or not enough of one.** -/
theorem receiveBlock_cases (length : Nat) (input : Bytes) :
    receiveBlock length input = ⟨[], .waiting⟩ ∨
      ∃ (a : Attempt) (rest : Bytes), a.Heard length input rest := by
  by_cases enough : encodedLength length ≤ input.length
  · have lines := take_of_le enough
    rcases orNone_number (input.drop (encodedLength length)) with short | ⟨sum, rest, heard⟩
    · left
      rw [receiveBlock, bind_done lines, bind_waiting (by rw [short]), short]
      rfl
    · right
      refine ⟨⟨input.take (encodedLength length), sum⟩, rest, _,
        (List.take_append_drop ..).symm, ?_, heard⟩
      rw [List.length_take]
      omega
  · left
    have lines := take_of_lt (Nat.not_le.mp enough)
    rw [receiveBlock, bind_waiting (by rw [lines]), lines]

/-! ## One block -/

/-- What becomes of a block, after some attempts that were refused. -/
inductive BlockEnds (block length resends : Nat) (refused : List Attempt) (rest : Bytes) :
    Course Bytes → Prop where
  | taken (a : Attempt) (b rest' : Bytes) (few : refused.length ≤ resends)
    (brings : a.Brings length b) (heard : a.Heard length rest rest') :
    BlockEnds block length resends refused rest
      ⟨List.replicate refused.length blockWanted, .done b rest'⟩
  | givenUp (all : refused.length = resends + 1) :
    BlockEnds block length resends refused rest
      ⟨List.replicate resends blockWanted, .failed (.corruptBlock block (maxResends + 1)) rest⟩
  | unfinished (few : refused.length ≤ resends)
    (short : (receiveBlock length rest).close = .waiting) :
    BlockEnds block length resends refused rest
      ⟨List.replicate refused.length blockWanted, .waiting⟩

theorem BlockEnds.again {block length left : Nat} {refused : List Attempt} {rest : Bytes}
    {course : Course Bytes} (h : BlockEnds block length left refused rest course) (a : Attempt) :
    BlockEnds block length (left + 1) (a :: refused) rest
      ⟨blockWanted :: course.said, course.close⟩ := by
  cases h with
  | taken a' b rest' few brings heard =>
    exact .taken a' b rest' (Nat.succ_le_succ few) brings heard
  | givenUp all => exact .givenUp (congrArg Nat.succ all)
  | unfinished few short => exact .unfinished (Nat.succ_le_succ few) short

theorem untilArrived_log (block length resends : Nat) (input : Bytes) : ∃ refused rest,
    AllRefused length refused input rest ∧ BlockEnds block length resends refused rest
      (untilArrived block (receiveBlock length) (say blockWanted) resends input) := by
  -- on the resends, which the dialogue counts down: an attempt that is refused is put in front of
  -- the log of the rest
  induction resends generalizing input with
  | zero =>
    rw [untilArrived]
    rcases receiveBlock_cases length input with short | ⟨a, rest, heard⟩
    · refine ⟨[], input, rfl, ?_⟩
      rw [bind_waiting (by rw [short]), short]
      exact .unfinished (Nat.zero_le _) (by rw [short])
    · rw [bind_done (receiveBlock_of_heard heard)]
      cases accepted : accept length a.lines a.sum with
      | some b =>
        exact ⟨[], input, rfl, .taken a b rest (Nat.le_refl _) (accept_eq_some.mp accepted) heard⟩
      | none =>
        exact ⟨[a], rest, ⟨accept_eq_none.mp accepted, rest, heard, rfl⟩, .givenUp rfl⟩
  | succ left ih =>
    rw [untilArrived]
    rcases receiveBlock_cases length input with short | ⟨a, rest, heard⟩
    · refine ⟨[], input, rfl, ?_⟩
      rw [bind_waiting (by rw [short]), short]
      exact .unfinished (Nat.zero_le _) (by rw [short])
    · rw [bind_done (receiveBlock_of_heard heard)]
      cases accepted : accept length a.lines a.sum with
      | some b =>
        exact ⟨[], input, rfl, .taken a b rest (Nat.zero_le _) (accept_eq_some.mp accepted) heard⟩
      | none =>
        obtain ⟨refused, rest', allRefused, ending⟩ := ih rest
        exact ⟨a :: refused, rest', ⟨accept_eq_none.mp accepted, rest, heard, allRefused⟩,
          ending.again a⟩

/-! ## All blocks -/

end Dialogue

namespace TransferLog

variable {log : TransferLog} {left : Nat} {d : Delivery} {input between rest : Bytes}

/-- A log with a delivery in front. -/
def cons (d : Delivery) (log : TransferLog) : TransferLog :=
  ⟨d :: log.delivered, log.refused⟩

theorem missing_cons (d : Delivery) (log : TransferLog) (left : Nat) :
    (log.cons d).missing left = log.missing (left - min left blockCapacity) := by
  rw [missing, missing, cons, List.length_cons, blockCapacity_eq]
  omega

theorem answers_cons (d : Delivery) (log : TransferLog) :
    (log.cons d).answers = d.answers ++ log.answers := by
  rw [answers, answers, cons, List.flatMap_cons, List.append_assoc]

theorem Tells.cons (some : 0 < left) (first : d.Heard (min left blockCapacity) input between)
    (later : log.Tells (left - min left blockCapacity) between rest) :
    (log.cons d).Tells left input rest where
  heard := by
    obtain ⟨mid, delivered, refused⟩ := later.heard
    rw [missing_cons]
    exact ⟨mid, ⟨some, between, first, delivered⟩, refused⟩
  atMost := later.atMost
  needed h := later.needed (by rwa [missing_cons] at h)

theorem Ends.cons {block : Nat} {close : Close Bytes}
    (later : log.Ends (block + 1) (left - min left blockCapacity) rest close) :
    (log.cons d).Ends block left rest (close.map (d.content ++ ·)) := by
  cases later with
  | complete h => exact .complete (by rwa [missing_cons])
  | givenUp h all =>
    have number : block + 1 + log.delivered.length = block + (log.cons d).delivered.length := by
      rw [TransferLog.cons, List.length_cons]
      omega
    rw [number]
    exact .givenUp (by rwa [missing_cons]) all
  | unfinished h few short =>
    exact .unfinished (by rwa [missing_cons]) few (by rwa [missing_cons])

theorem missing_nil (refused : List Attempt) (left : Nat) : missing ⟨[], refused⟩ left = left := by
  rw [missing, List.length_nil, Nat.zero_mul, Nat.sub_zero]

theorem answers_nil {refused : List Attempt} {n : Nat} (h : min refused.length maxResends = n) :
    answers ⟨[], refused⟩ = List.replicate n blockWanted := by
  rw [answers, h]
  rfl

theorem Tells.of_refused {refused : List Attempt} (some : 0 < left)
    (h : AllRefused (min left blockCapacity) refused input rest)
    (few : refused.length ≤ maxResends + 1) : Tells ⟨[], refused⟩ left input rest where
  heard := ⟨input, rfl, by rwa [missing_nil]⟩
  atMost := few
  needed none := by
    rw [missing_nil] at none
    omega

end TransferLog

namespace Dialogue

theorem readBlocksFrom_of_pos {left : Nat} (some : 0 < left) (block : Nat) :
    readBlocksFrom block left = (do
      let b ← readBlock block (min left blockCapacity)
      let later ← readBlocksFrom (block + 1) (left - min left blockCapacity)
      return b ++ later) := by
  rw [readBlocksFrom, dif_neg (Nat.ne_of_gt some)]

/-- **Every input has a log.** -/
theorem readBlocks_log (block left : Nat) (input : Bytes) : ∃ (log : TransferLog) (rest : Bytes),
    log.Tells left input rest ∧
      (readBlocksFrom block left input).said = log.answers ∧
      log.Ends block left rest (readBlocksFrom block left input).close := by
  induction left using Nat.strongRecOn generalizing block input with
  | ind left ih =>
    rcases Nat.eq_zero_or_pos left with rfl | some
    · refine ⟨⟨[], []⟩, input, ⟨⟨input, rfl, rfl⟩, Nat.zero_le _, fun _ => rfl⟩, ?_, ?_⟩
      · rw [readBlocksFrom]
        rfl
      · rw [readBlocksFrom]
        exact .complete rfl
    -- the next block is taken, given up, or not complete
    obtain ⟨refused, rest, allRefused, ending⟩ :=
      untilArrived_log block (min left blockCapacity) maxResends input
    rw [readBlocksFrom_of_pos some]
    generalize course : untilArrived block (receiveBlock (min left blockCapacity))
      (say blockWanted) maxResends input = c at ending
    cases ending with
    | taken a b rest' few brings heard =>
      have arrived : readBlock block (min left blockCapacity) input =
          ⟨List.replicate refused.length blockWanted ++ [blockTaken], .done b rest'⟩ := by
        rw [readBlock, bind_done course]
        rfl
      obtain ⟨log, rest'', tells, said, ends⟩ :=
        ih _ (sub_block_lt (Nat.ne_of_gt some)) (block + 1) rest'
      rw [bind_done arrived, bind_pure_apply, said]
      refine ⟨log.cons ⟨refused, a, b⟩, rest'', tells.cons some ?_, ?_, ends.cons⟩
      · exact ⟨few, brings, rest, allRefused, heard⟩
      · exact (TransferLog.answers_cons ⟨refused, a, b⟩ log).symm
    | givenUp all =>
      have failed : readBlock block (min left blockCapacity) input = _ := bind_failed course
      rw [bind_failed failed]
      refine ⟨⟨[], refused⟩, rest, .of_refused some allRefused (Nat.le_of_eq all), ?_, ?_⟩
      · exact (TransferLog.answers_nil (by omega)).symm
      · exact .givenUp (by rwa [TransferLog.missing_nil]) all
    | unfinished few short =>
      have waits : readBlock block (min left blockCapacity) input = _ :=
        bind_waiting (by rw [course])
      rw [bind_waiting (by rw [waits]), waits, course]
      refine ⟨⟨[], refused⟩, rest, .of_refused some allRefused (by omega), ?_, ?_⟩
      · exact (TransferLog.answers_nil (by omega)).symm
      · exact .unfinished (by rwa [TransferLog.missing_nil]) few
          (by rwa [TransferLog.missing_nil])

end Dialogue

end SerialIsp
