import SerialIsp.Proofs.Dialogue.Replies

/-!
# Commands as dialogues

A command is said, and its status is heard. The wrappers that a session puts around an action
(a timeout of its own, the name of the command in its timeouts, the mark of programming) leave
the dialogue as it is, or change its failures only.
-/

namespace SerialIsp

open Wire

variable {δ α β : Type}

/-! ## The dialogues

Each has the name of the operation it belongs to. -/

namespace Dialogue

def commandStatus (c : Command) : Dialogue Status := do
  say c.line
  status

/-- Sends a command that has to succeed. -/
def command (c : Command) : Dialogue Unit := do
  let status ← commandStatus c
  if status.isSuccess then pure () else fail (.refused c.kind status)

def prepareForWrite (first last : UInt32) : Dialogue Unit := do
  ofExcept (checkSectorRange first last)
  command (.prepareForWrite first last)

def eraseSectors (first last : UInt32) : Dialogue Unit := do
  ofExcept (checkSectorRange first last)
  command (.erase first last)

def copyRamToFlash (flashAddress ramAddress size : UInt32) : Dialogue Unit := do
  ofExcept (checkAlignment .ramAddress ramAddress 4)
  command (.copyRamToFlash flashAddress ramAddress size)

/-- Looks for the first word of some sectors that is not blank. -/
def blankCheck (first last : UInt32) : Dialogue BlankCheck := do
  ofExcept (checkSectorRange first last)
  match ← commandStatus (.blankCheck first last) with
  | .known .cmdSuccess => return .blank
  | .known .sectorNotBlank =>
    let offset ← number
    let content ← number
    return .used offset content
  | status => fail (.refused .blankCheck status)

/-- Compares two stretches of memory. -/
def compare (address1 address2 size : UInt32) : Dialogue (Option UInt32) := do
  ofExcept (checkAlignment .firstAddress address1 4)
  ofExcept (checkAlignment .secondAddress address2 4)
  ofExcept (checkAlignment .byteCount size 4)
  match ← commandStatus (.compare address1 address2 size) with
  | .known .cmdSuccess => return none
  | .known .compareError => return some (← number)
  | status => fail (.refused .compare status)

/-- Hears `n` lines with a number each. -/
def numbers : Nat → Dialogue (List UInt32)
  | 0 => return []
  | n + 1 => do
    let first ← number
    return first :: (← numbers n)

/-- Sends a command that has to succeed, and hears its number lines. -/
def query (c : Command) : Dialogue (List UInt32) := do
  command c
  numbers c.kind.replyLines

def readPartId : Dialogue UInt32 := do
  let reply ← query .readPartId
  return reply.getD 0 0

def readUid : Dialogue Uid := do
  let reply ← query .readUid
  return ⟨reply.getD 0 0, reply.getD 1 0, reply.getD 2 0, reply.getD 3 0⟩

def readBootVersion : Dialogue BootVersion := do
  let reply ← query .readBootVersion
  return { minor := reply.getD 0 0, major := reply.getD 1 0 }

theorem listening_numbers (n : Nat) : (numbers n).Listening := by
  induction n with
  | zero => exact .pure []
  | succ n ih => exact listening_number.bind fun _ => ih.bind fun _ => .pure _

theorem commandStatus_apply (c : Command) (input : Bytes) :
    commandStatus c input = ⟨[c.line], (status input).close⟩ := by
  rw [commandStatus, bind_done (rfl : say c.line input = _), listening_status.mute]
  rfl

theorem said_command (c : Command) (input : Bytes) : (command c input).said = [c.line] := by
  rw [command, bind_apply, commandStatus_apply, goOn]
  cases (status input).close with
  | done st rest => cases h : st.isSuccess <;> simp [h, pure_apply, fail]
  | failed failure rest => rfl
  | waiting => rfl

theorem eq_of_isSuccess {st : Status} (h : st.isSuccess = true) : st = .known .cmdSuccess := by
  cases st with
  | known code => cases code <;> first | rfl | cases h
  | unknown n => cases h

theorem command_of_answered {c : Command} {input rest : Bytes}
    (answered : (status input).close = .done (.known .cmdSuccess) rest) :
    command c input = ⟨[c.line], .done () rest⟩ := by
  rw [command, bind_apply, commandStatus_apply, answered]
  rfl

/-- A command that comes to its end was answered with success. -/
theorem command_done {c : Command} {input rest : Bytes} {a : Unit}
    (ended : (command c input).close = .done a rest) :
    (status input).close = .done (.known .cmdSuccess) rest := by
  rw [command, bind_apply, commandStatus_apply, goOn] at ended
  cases close : (status input).close with
  | done st rest' =>
    rw [close] at ended
    cases success : st.isSuccess with
    | true =>
      simp only [success, ↓reduceIte] at ended
      cases ended
      rw [eq_of_isSuccess success]
    | false =>
      simp only [success, Bool.false_eq_true, ↓reduceIte] at ended
      cases ended
  | failed failure rest' =>
    rw [close] at ended
    cases ended
  | waiting =>
    rw [close] at ended
    cases ended

theorem said_query (c : Command) (input : Bytes) : (query c input).said = [c.line] := by
  rw [query, bind_apply, goOn, said_command]
  cases (command c input).close with
  | done u rest => simp [(listening_numbers _).mute]
  | failed failure rest => rfl
  | waiting => rfl

theorem said_readPartId (input : Bytes) :
    (readPartId input).said = [Command.readPartId.line] := by
  rw [readPartId, bind_pure_apply, said_query]

/-- The identifier of the part is told on the line behind a status. -/
theorem readPartId_done {input rest : Bytes} {n : UInt32} :
    (readPartId input).close = .done n rest ↔ ∃ between,
      (status input).close = .done (.known .cmdSuccess) between ∧
        (number between).close = .done n rest := by
  have one : numbers Command.readPartId.kind.replyLines = (do return [← number]) := by
    funext between
    simp [numbers, Command.kind, CommandKind.replyLines]
  simp only [readPartId, query, one, close_bind_done, pure_apply, Close.done.injEq]
  constructor
  · rintro ⟨_, _, ⟨_, between, commanded, m, _, told, rfl, rfl⟩, rfl, rfl⟩
    exact ⟨between, command_done commanded, told⟩
  · rintro ⟨between, answered, told⟩
    exact ⟨[n], rest, ⟨(), between, congrArg Course.close (command_of_answered answered), n, rest,
      told, rfl, rfl⟩, rfl, rfl⟩

end Dialogue

/-! ## Wrappers -/

namespace Session

theorem during_follows {action : SessionM δ α} {p : Dialogue α} (h : Follows action p)
    (untimed : p.Untimed) (k : CommandKind) : Follows (during k action) p := by
  intro s
  rcases run : action s with ⟨failure | a, s'⟩
  · have whole : during k action s = (.error (failure.during k), s') := by
      unfold during
      rw [run]
    refine (h s).wrap (by rw [whole, run]) (by rw [whole, run]) (fun _ => rfl) (fun _ => id)
      (fun input rest ending => ?_) fun f result isBreak => ?_
    · rw [run] at ending
      rw [whole, untimed ending k]
      exact ending
    · rw [run] at result
      cases result
      exact ⟨_, by rw [whole], Failure.isBreak_during isBreak k⟩
  · have whole : during k action s = action s := by
      unfold during
      rw [run]
    refine (h s).wrap (by rw [whole]) (by rw [whole]) (fun _ => rfl) (fun _ => id)
      (fun input rest ending => by rw [whole]; exact ending) fun f result _ => ?_
    rw [run] at result
    cases result

theorem withTimeout_follows {action : SessionM δ α} {p : Dialogue α} (h : Follows action p)
    (timeout : Nat) : Follows (withTimeout timeout action) p :=
  fun s => h { s with timeout := timeout }

theorem whileFlashing_follows {action : SessionM δ α} {p : Dialogue α} (h : Follows action p) :
    Follows (whileFlashing action) (p.mapFailure Failure.whileFlashing) := by
  intro s
  have waits (input : Bytes) (e : (p input).close = .waiting) :
      (p.mapFailure Failure.whileFlashing input).close = .waiting := by
    unfold Dialogue.mapFailure
    rw [e]
    exact e
  rcases run : action s with ⟨failure | a, s'⟩
  · have whole : whileFlashing action s = (.error failure.whileFlashing, s') := by
      unfold whileFlashing
      rw [run]
    refine (h s).wrap (by rw [whole, run]) (by rw [whole, run]) (Dialogue.said_mapFailure _ _)
      waits (fun input rest ending => ?_) fun f result isBreak => ?_
    · rw [run] at ending
      unfold Dialogue.mapFailure
      rw [whole, ending]
      rfl
    · rw [run] at result
      cases result
      exact ⟨_, by rw [whole], Failure.isBreak_whileFlashing isBreak⟩
  · have whole : whileFlashing action s = action s := by
      unfold whileFlashing
      rw [run]
    refine (h s).wrap (by rw [whole]) (by rw [whole]) (Dialogue.said_mapFailure _ _) waits
      (fun input rest ending => ?_) fun f result _ => ?_
    · rw [run] at ending
      unfold Dialogue.mapFailure
      rw [whole, ending, run]
      exact ending
    · rw [run] at result
      cases result

theorem ofExcept_follows (result : Except Failure α) :
    Follows (ofExcept result : SessionM δ α) (Dialogue.ofExcept result) := by
  cases result with
  | ok a => exact follows_pure a
  | error failure => exact follows_throw failure

/-! ## Commands -/

variable [Transport δ]

theorem commandStatus_follows (c : Command) :
    Follows (commandStatus c : SessionM δ Status) (Dialogue.commandStatus c) := by
  refine (silent_notify _).then (follows_get fun s => ?_)
  have exchange : Follows (do writeBytes c.line; readStatus : SessionM δ Status)
      (Dialogue.commandStatus c) :=
    (writeBytes_follows c.line).bind fun _ => readStatus_follows
  have untimed : (Dialogue.commandStatus c).Untimed :=
    (Dialogue.failsOnly_say _).bind fun _ => Dialogue.listening_status.untimed
  rw [← Dialogue.bind_pure (Dialogue.commandStatus c)]
  refine Follows.bind (during_follows (withTimeout_follows exchange _) untimed c.kind)
    (fun status => ?_) s
  exact (silent_traceNotice _).then (follows_pure status)

theorem command_follows (c : Command) :
    Follows (command c : SessionM δ Unit) (Dialogue.command c) := by
  refine (commandStatus_follows c).bind fun status => ?_
  cases status.isSuccess with
  | true => exact follows_pure ()
  | false =>
    refine follows_get fun s => ?_
    have refusal : Follows (throw (.refused c.kind status) : SessionM δ Unit)
        (Dialogue.fail (.refused c.kind status)) := follows_throw _
    cases s.settings.trace with
    | true => exact refusal s
    | false => exact (silent_notify _).then refusal s

theorem replyNumber_follows (k : CommandKind) :
    Follows (replyNumber k : SessionM δ UInt32) Dialogue.number :=
  during_follows readNumber_follows Dialogue.listening_number.untimed k

theorem replyNumbers_follows (k : CommandKind) (n : Nat) :
    Follows (replyNumbers k n : SessionM δ (List UInt32)) (Dialogue.numbers n) := by
  induction n with
  | zero => exact follows_pure []
  | succ n ih => exact (replyNumber_follows k).bind fun _ => ih.bind fun _ => follows_pure _

theorem query_follows (c : Command) :
    Follows (query c : SessionM δ (List UInt32)) (Dialogue.query c) :=
  (command_follows c).bind fun _ => replyNumbers_follows _ _

theorem readPartId_follows :
    Follows (readPartId : SessionM δ UInt32) Dialogue.readPartId :=
  (query_follows .readPartId).bind fun _ => follows_pure _

theorem readUid_follows : Follows (readUid : SessionM δ Uid) Dialogue.readUid :=
  (query_follows .readUid).bind fun _ => follows_pure _

theorem readBootVersion_follows :
    Follows (readBootVersion : SessionM δ BootVersion) Dialogue.readBootVersion :=
  (query_follows .readBootVersion).bind fun _ => follows_pure _

theorem prepareForWrite_follows (first last : UInt32) :
    Follows (prepareForWrite first last : SessionM δ Unit)
      (Dialogue.prepareForWrite first last) :=
  (ofExcept_follows _).bind fun _ => command_follows _

theorem eraseSectors_follows (first last : UInt32) :
    Follows (eraseSectors first last : SessionM δ Unit) (Dialogue.eraseSectors first last) :=
  (ofExcept_follows _).bind fun _ => command_follows _

theorem copyRamToFlash_follows (flashAddress ramAddress size : UInt32) :
    Follows (copyRamToFlash flashAddress ramAddress size : SessionM δ Unit)
      (Dialogue.copyRamToFlash flashAddress ramAddress size) :=
  (ofExcept_follows _).bind fun _ => command_follows _

theorem blankCheck_follows (first last : UInt32) :
    Follows (blankCheck first last : SessionM δ BlankCheck) (Dialogue.blankCheck first last) := by
  refine (ofExcept_follows _).bind fun _ => (commandStatus_follows _).bind fun status => ?_
  cases status with
  | known code =>
    cases code with
    | cmdSuccess => exact follows_pure _
    | sectorNotBlank =>
      exact (replyNumber_follows _).bind fun _ => (replyNumber_follows _).bind fun _ =>
        follows_pure _
    | _ => exact follows_throw _
  | unknown n => exact follows_throw _

theorem compare_follows (address1 address2 size : UInt32) :
    Follows (compare address1 address2 size : SessionM δ (Option UInt32))
      (Dialogue.compare address1 address2 size) := by
  refine (ofExcept_follows _).bind fun _ => (ofExcept_follows _).bind fun _ =>
    (ofExcept_follows _).bind fun _ => (commandStatus_follows _).bind fun status => ?_
  cases status with
  | known code =>
    cases code with
    | cmdSuccess => exact follows_pure _
    | compareError => exact (replyNumber_follows _).bind fun _ => follows_pure _
    | _ => exact follows_throw _
  | unknown n => exact follows_throw _

end Session
end SerialIsp
