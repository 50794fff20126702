import SerialIsp.Proofs.StatusLines
import SerialIsp.Proofs.Transfer.Sending

/-!
# Queries

Five operations ask the device for numbers: its part, its serial number, the version of its
bootloader, and what a blank check or a comparison found. The reply is a status and then some
lines with a number each, and how many those are depends on the command and on the status. One
line too many or too few, and every later reply of the session is taken for another one.

So a reply is written down here as the numbers on its lines (`numberLines`), whatever they are
for, and `ReadsReply` says that an operation reads those lines to the end of the last and leaves
what is behind them. A status is heard off its line by `status_of_longLine`; a line of numbers is
read one by one (`numbers_of_lines`), and both keep the rest of the stream as it is.
-/

namespace SerialIsp

open Wire

variable {δ α : Type}

/-! ## Lines with a number each -/

/-- A line for each of these numbers. -/
def numberLines (ns : List UInt32) : Bytes := ns.flatMap fun n => lineOf (number n.toNat)

theorem numberLines_cons_append (n : UInt32) (ns : List UInt32) (rest : Bytes) :
    numberLines (n :: ns) ++ rest = lineOf (number n.toNat) ++ (numberLines ns ++ rest) := by
  rw [numberLines, List.flatMap_cons, List.append_assoc, numberLines]

theorem fitsLine_number (n : UInt32) : FitsLine (number n.toNat) := by
  have small : n.toNat < Nat.pow 10 Session.lineLimit := Nat.lt_trans n.toNat_lt (by decide)
  refine ⟨?_, unbroken_number n.toNat⟩
  rw [length_number]
  exact Text.length_digits_le (by decide) small

theorem three_le_length_line (n : Nat) : 3 ≤ (number n ++ [Bytes.cr, Bytes.lf]).length := by
  have some := List.length_pos_iff.mpr (Text.digits_ne_nil n)
  rw [List.length_append, length_number]
  exact Nat.add_le_add_right some 2

/-- A byte that is held back belongs to the reply. -/
theorem length_held_le_numberLines (s : Session δ) (n : UInt32) (ns : List UInt32) :
    (held s).length ≤ (numberLines (n :: ns)).length := by
  have three := three_le_length_line n.toNat
  have one := Session.length_held s
  rw [numberLines, List.flatMap_cons, List.length_append, lineOf]
  omega

namespace Wire.Status

theorem ofValue_ne {code : UInt32} {c : StatusCode} (other : code ≠ c.value) :
    ofValue code ≠ .known c := by
  intro same
  have value := value_ofValue code
  rw [same] at value
  exact other value.symm

theorem not_isSuccess_of_ne {code : UInt32} (other : code ≠ 0) :
    (ofValue code).isSuccess = false := by
  rw [Bool.eq_false_iff]
  intro success
  exact ofValue_ne other (Dialogue.eq_of_isSuccess success)

end Wire.Status

/-! ## Lines as they are read -/

namespace Dialogue

theorem number_of_line (n : UInt32) (rest : Bytes) :
    number (lineOf (Wire.number n.toNat) ++ rest) = ⟨[], .done n rest⟩ := by
  obtain ⟨fits, plain⟩ := fitsLine_number n
  have told : toldSum (Wire.number n.toNat) = some n := toldSum_decimal n
  have read : line (lineOf (Wire.number n.toNat) ++ rest) =
      ⟨[], .done (Text.Utf8.lossy (Wire.number n.toNat)) rest⟩ := by
    rw [lineOf, List.append_assoc]
    exact line_of_text fits plain rest
  rw [toldSum, word?] at told
  rw [number, bind_done read, Text.Utf8.lossy, String.toList_ofList]
  cases value : Text.readNumber 10 Text.limit32
      (Text.trim (Text.Utf8.lossyChars (Wire.number n.toNat))) with
  | ok m =>
    rw [value] at told
    cases told
    rfl
  | error fault =>
    rw [value] at told
    cases told

/-- **As many lines as there are numbers** are read, and no more. -/
theorem numbers_of_lines (ns : List UInt32) (rest : Bytes) :
    numbers ns.length (numberLines ns ++ rest) = ⟨[], .done ns rest⟩ := by
  induction ns with
  | nil => rfl
  | cons n ns ih =>
    rw [numberLines_cons_append, List.length_cons, numbers, bind_done (number_of_line n _),
      bind_done ih]
    rfl

/-- The first line is the status, and is all that is read for it. -/
theorem status_of_lines {code : UInt32} (small : code.toNat ≤ 999) (ns : List UInt32)
    (rest : Bytes) : (status (numberLines (code :: ns) ++ rest)).close =
      .done (.ofValue code) (numberLines ns ++ rest) := by
  have back : code.toNat.toUInt32 = code := UInt32.ofNat_toNat
  rw [numberLines_cons_append, lineOf,
    status_of_longLine (.crlf _) (three_le_length_line code.toNat),
    Text.firstThree_of_lt (Nat.lt_succ_of_le small), back]

/-! ## What an operation makes of its status -/

/-- On a status, `reply` reads these number lines and comes to `result`. -/
def Takes (reply : Status → Dialogue α) (code : UInt32) (ns : List UInt32)
    (result : Except Failure α) : Prop :=
  ∀ rest, reply (.ofValue code) (numberLines ns ++ rest) = ⟨[], .ofResult result rest⟩

theorem commandStatus_bind_of_lines {reply : Status → Dialogue α} {code : UInt32}
    {ns : List UInt32} {result : Except Failure α} (takes : Takes reply code ns result)
    (small : code.toNat ≤ 999) (c : Command) (rest : Bytes) :
    (commandStatus c >>= reply) (numberLines (code :: ns) ++ rest) =
      ⟨[c.line], .ofResult result rest⟩ := by
  have asked : commandStatus c (numberLines (code :: ns) ++ rest) =
      ⟨[c.line], .done (.ofValue code) (numberLines ns ++ rest)⟩ := by
    rw [commandStatus_apply, status_of_lines small]
  rw [bind_done asked, takes rest]
  rfl

/-- A command that has to succeed, and what is made of the numbers behind its status. -/
def settleQuery (c : Command) (f : List UInt32 → α) (status : Status) : Dialogue α :=
  if status.isSuccess then do return f (← numbers c.kind.replyLines)
  else fail (.refused c.kind status)

theorem query_eq (c : Command) (f : List UInt32 → α) :
    (do return f (← query c)) = commandStatus c >>= settleQuery c f := by
  rw [query, command, bind_assoc, bind_assoc]
  refine congrArg _ (funext fun status => ?_)
  rw [settleQuery]
  cases status.isSuccess <;> rfl

/-- A query that succeeds reads the lines of its kind. -/
theorem settleQuery_of_success {c : Command} (f : List UInt32 → α) {ns : List UInt32}
    (all : ns.length = c.kind.replyLines) : Takes (settleQuery c f) 0 ns (.ok (f ns)) := by
  intro rest
  have told := numbers_of_lines ns rest
  have success : (Status.ofValue 0).isSuccess = true := rfl
  rw [all] at told
  rw [settleQuery, if_pos success, bind_pure_apply, told]
  rfl

theorem settleQuery_of_refusal (c : Command) (f : List UInt32 → α) {code : UInt32}
    (other : code ≠ 0) :
    Takes (settleQuery c f) code [] (.error (.refused c.kind (.ofValue code))) := by
  intro rest
  rw [settleQuery, Status.not_isSuccess_of_ne other]
  rfl

def settleBlankCheck : Status → Dialogue BlankCheck
  | .known .cmdSuccess => return .blank
  | .known .sectorNotBlank => do return .used (← number) (← number)
  | status => fail (.refused .blankCheck status)

theorem blankCheck_eq {first last : UInt32} (ordered : first ≤ last) :
    blankCheck first last = commandStatus (.blankCheck first last) >>= settleBlankCheck := by
  rw [blankCheck, checkSectorRange, if_neg (UInt32.not_lt.mpr ordered)]
  refine (pure_bind () _).trans (congrArg _ (funext fun status => ?_))
  rcases status with code | n
  · cases code <;> rfl
  · rfl

theorem settleBlankCheck_of_used (offset content : UInt32) :
    Takes settleBlankCheck 8 [offset, content] (.ok (.used offset content)) := by
  intro rest
  show (do return BlankCheck.used (← number) (← number) : Dialogue BlankCheck) _ = _
  rw [numberLines_cons_append, numberLines_cons_append, bind_done (number_of_line offset _),
    bind_done (number_of_line content _)]
  rfl

theorem settleBlankCheck_of_refusal {code : UInt32} (notBlank : code ≠ 0) (notUsed : code ≠ 8) :
    Takes settleBlankCheck code [] (.error (.refused .blankCheck (.ofValue code))) := by
  intro rest
  cases told : Status.ofValue code with
  | known status =>
    cases status with
    | cmdSuccess => exact absurd told (Status.ofValue_ne notBlank)
    | sectorNotBlank => exact absurd told (Status.ofValue_ne notUsed)
    | _ => rfl
  | unknown n => rfl

def settleCompare : Status → Dialogue (Option UInt32)
  | .known .cmdSuccess => return none
  | .known .compareError => do return some (← number)
  | status => fail (.refused .compare status)

theorem compare_eq {address1 address2 size : UInt32} (aligned1 : address1 % 4 = 0)
    (aligned2 : address2 % 4 = 0) (words : size % 4 = 0) : compare address1 address2 size =
      commandStatus (.compare address1 address2 size) >>= settleCompare := by
  rw [compare, checkAlignment, checkAlignment, checkAlignment, if_neg (not_not_intro aligned1),
    if_neg (not_not_intro aligned2), if_neg (not_not_intro words)]
  refine (pure_bind () _).trans ((pure_bind () _).trans ((pure_bind () _).trans ?_))
  refine congrArg _ (funext fun status => ?_)
  rcases status with code | n
  · cases code <;> rfl
  · rfl

theorem settleCompare_of_difference (offset : UInt32) :
    Takes settleCompare 10 [offset] (.ok (some offset)) := by
  intro rest
  show (do return some (← number) : Dialogue (Option UInt32)) _ = _
  rw [numberLines_cons_append, bind_done (number_of_line offset _)]
  rfl

theorem settleCompare_of_refusal {code : UInt32} (notSame : code ≠ 0) (notOther : code ≠ 10) :
    Takes settleCompare code [] (.error (.refused .compare (.ofValue code))) := by
  intro rest
  cases told : Status.ofValue code with
  | known status =>
    cases status with
    | cmdSuccess => exact absurd told (Status.ofValue_ne notSame)
    | compareError => exact absurd told (Status.ofValue_ne notOther)
    | _ => rfl
  | unknown n => rfl

end Dialogue

/-! ## The operations -/

namespace Session

/-- **Whoever answers with these lines is understood**, whatever lies behind them: the command is
    sent, its lines are read and nothing else, and this is the result. -/
def ReadsReply (action : SessionM δ α) (c : Command) (ns : List UInt32)
    (result : Except Failure α) : Prop :=
  ∀ (s : Session δ) (stream rest : Bytes) (cs : List Call),
    held s ++ stream = numberLines ns ++ rest → calls (action s).2 = calls s ++ cs →
    Served stream cs →
    (action s).1 = result ∧ sent cs = [c.line] ∧ held s ++ received cs = numberLines ns ∧
      held (action s).2 = []

/-- The status alone is read, and told. -/
def Refuses (action : SessionM δ α) (c : Command) (code : UInt32) : Prop :=
  ReadsReply action c [code] (.error (.refused c.kind (.ofValue code)))

theorem readsReply_of_takes {action : SessionM δ α} {c : Command}
    {reply : Status → Dialogue α} (follows : Follows action (Dialogue.commandStatus c >>= reply))
    {code : UInt32} (small : code.toNat ≤ 999) {ns : List UInt32} {result : Except Failure α}
    (takes : Dialogue.Takes reply code ns result) : ReadsReply action c (code :: ns) result := by
  intro s stream rest cs heard ran served
  exact (follows s).of_heard heard (length_held_le_numberLines s code ns)
    (Dialogue.commandStatus_bind_of_lines takes small c) ran served

/-- **A query** reads the lines of its kind where it succeeds, and none where it does not. -/
theorem readsReply_of_query {action : SessionM δ α} {c : Command} {f : List UInt32 → α}
    (follows : Follows action (do return f (← Dialogue.query c))) :
    (∀ ns : List UInt32, ns.length = c.kind.replyLines →
      ReadsReply action c (0 :: ns) (.ok (f ns))) ∧
    ∀ code : UInt32, code.toNat ≤ 999 → code ≠ 0 → Refuses action c code := by
  rw [Dialogue.query_eq] at follows
  refine ⟨fun ns all => ?_, fun code small other => ?_⟩
  · exact readsReply_of_takes follows (by decide) (Dialogue.settleQuery_of_success f all)
  · exact readsReply_of_takes follows small (Dialogue.settleQuery_of_refusal c f other)

variable [Transport δ]

theorem blankCheck_reads {first last : UInt32} (ordered : first ≤ last) :
    let check : SessionM δ BlankCheck := blankCheck first last
    ReadsReply check (.blankCheck first last) [0] (.ok .blank) ∧
      (∀ offset content : UInt32, ReadsReply check (.blankCheck first last) [8, offset, content]
        (.ok (.used offset content))) ∧
      ∀ code : UInt32, code.toNat ≤ 999 → code ≠ 0 → code ≠ 8 →
        Refuses check (.blankCheck first last) code := by
  have follows := blankCheck_follows (δ := δ) first last
  rw [Dialogue.blankCheck_eq ordered] at follows
  refine ⟨?_, fun offset content => ?_, fun code small notBlank notUsed => ?_⟩
  · exact readsReply_of_takes follows (by decide) fun rest => rfl
  · exact readsReply_of_takes follows (by decide)
      (Dialogue.settleBlankCheck_of_used offset content)
  · exact readsReply_of_takes follows small (Dialogue.settleBlankCheck_of_refusal notBlank notUsed)

theorem compare_reads {address1 address2 size : UInt32} (aligned1 : address1 % 4 = 0)
    (aligned2 : address2 % 4 = 0) (words : size % 4 = 0) :
    let comparison : SessionM δ (Option UInt32) := compare address1 address2 size
    ReadsReply comparison (.compare address1 address2 size) [0] (.ok none) ∧
      (∀ offset : UInt32, ReadsReply comparison (.compare address1 address2 size) [10, offset]
        (.ok (some offset))) ∧
      ∀ code : UInt32, code.toNat ≤ 999 → code ≠ 0 → code ≠ 10 →
        Refuses comparison (.compare address1 address2 size) code := by
  have follows := compare_follows (δ := δ) address1 address2 size
  rw [Dialogue.compare_eq aligned1 aligned2 words] at follows
  refine ⟨?_, fun offset => ?_, fun code small notSame notOther => ?_⟩
  · exact readsReply_of_takes follows (by decide) fun rest => rfl
  · exact readsReply_of_takes follows (by decide) (Dialogue.settleCompare_of_difference offset)
  · exact readsReply_of_takes follows small (Dialogue.settleCompare_of_refusal notSame notOther)

/-- **Every query reads its own reply.** The numbers are taken in the order they are sent in,
    the minor number of a version before the major one. Of a blank check that finds something, two
    numbers are read, and of a comparison that finds a difference, one. On any other status the
    query fails with it, and no number is read. -/
theorem queries_read_their_replies (first last : UInt32) (ordered : first ≤ last)
    (address1 address2 size : UInt32) (aligned1 : address1 % 4 = 0) (aligned2 : address2 % 4 = 0)
    (words : size % 4 = 0) :
    let part : SessionM δ UInt32 := readPartId
    let serial : SessionM δ Uid := readUid
    let version : SessionM δ BootVersion := readBootVersion
    let check : SessionM δ BlankCheck := blankCheck first last
    let comparison : SessionM δ (Option UInt32) := compare address1 address2 size
    (∀ n, ReadsReply part .readPartId [0, n] (.ok n)) ∧
    (∀ a b c d, ReadsReply serial .readUid [0, a, b, c, d] (.ok ⟨a, b, c, d⟩)) ∧
    (∀ minor major, ReadsReply version .readBootVersion [0, minor, major]
      (.ok { major := major, minor := minor })) ∧
    ReadsReply check (.blankCheck first last) [0] (.ok .blank) ∧
    (∀ offset content, ReadsReply check (.blankCheck first last) [8, offset, content]
      (.ok (.used offset content))) ∧
    ReadsReply comparison (.compare address1 address2 size) [0] (.ok none) ∧
    (∀ offset, ReadsReply comparison (.compare address1 address2 size) [10, offset]
      (.ok (some offset))) ∧
    ∀ code : UInt32, code.toNat ≤ 999 → code ≠ 0 →
      Refuses part .readPartId code ∧ Refuses serial .readUid code ∧
      Refuses version .readBootVersion code ∧
      (code ≠ 8 → Refuses check (.blankCheck first last) code) ∧
      (code ≠ 10 → Refuses comparison (.compare address1 address2 size) code) := by
  intro part serial version check comparison
  obtain ⟨onPart, noPart⟩ := readsReply_of_query (readPartId_follows (δ := δ))
  obtain ⟨onSerial, noSerial⟩ := readsReply_of_query (readUid_follows (δ := δ))
  obtain ⟨onVersion, noVersion⟩ := readsReply_of_query (readBootVersion_follows (δ := δ))
  obtain ⟨blank, used, noCheck⟩ := blankCheck_reads (δ := δ) ordered
  obtain ⟨same, differs, noComparison⟩ := compare_reads (δ := δ) aligned1 aligned2 words
  refine ⟨fun n => onPart [n] rfl, fun a b c d => onSerial [a, b, c, d] rfl,
    fun minor major => onVersion [minor, major] rfl, blank, used, same, differs, ?_⟩
  intro code small other
  exact ⟨noPart code small other, noSerial code small other, noVersion code small other,
    noCheck code small other, noComparison code small other⟩

/-- A serial number is read and the reply behind it is not; a comparison is refused. -/
theorem queries_read_their_replies_rehearsed :
    let serial := Bytes.ascii "0\r\n1\r\n2\r\n3\r\n4\r\n"
    let next := Bytes.ascii "19\r\n"
    let telling := start { replies := [serial ++ next] : Scripted } {}
    let locked := start { replies := [Bytes.ascii "15\r\n" ++ next] : Scripted } {}
    ((readUid telling).1 = .ok ⟨1, 2, 3, 4⟩ ∧
        received (calls (readUid telling).2) = numberLines [0, 1, 2, 3, 4]) ∧
      (compare 16 32 4 locked).1 = .error (.refused .compare (.known .cmdLocked)) ∧
        received (calls (compare 16 32 4 locked).2) = numberLines [15] := by
  intro serial next telling locked
  have queries := @queries_read_their_replies Scripted _ 2 5 (by decide) 16 32 4 rfl rfl rfl
  constructor
  · obtain ⟨cs, ran⟩ : ∃ cs, calls (readUid telling).2 = cs := ⟨_, rfl⟩
    have lines : held telling ++ (serial ++ next) = numberLines [0, 1, 2, 3, 4] ++ next := by
      decide +kernel
    have served : Served (serial ++ next) cs := by
      rw [← ran]
      decide +kernel
    obtain ⟨result, -, took, -⟩ := queries.2.1 1 2 3 4 telling _ next cs lines ran served
    rw [ran]
    exact ⟨result, took⟩
  · obtain ⟨cs, ran⟩ : ∃ cs, calls (compare 16 32 4 locked).2 = cs := ⟨_, rfl⟩
    have lines : held locked ++ (Bytes.ascii "15\r\n" ++ next) = numberLines [15] ++ next := by
      decide +kernel
    have served : Served (Bytes.ascii "15\r\n" ++ next) cs := by
      rw [← ran]
      decide +kernel
    obtain ⟨-, -, -, -, -, -, -, refusals⟩ := queries
    have refuses := (refusals 15 (by decide) (by decide)).2.2.2.2 (by decide)
    obtain ⟨result, -, took, -⟩ := refuses locked _ next cs lines ran served
    rw [ran]
    exact ⟨result, took⟩

end Session
end SerialIsp
