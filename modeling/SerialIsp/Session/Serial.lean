import SerialIsp.Session.Transport

/-!
# Serial ports

A port may take only part of what it is offered, or be interrupted before it takes anything.
The line over a port offers the rest again until the port has taken everything, takes
nothing more, or fails; so what a port has taken is always the beginning of what was
written.

As with transports, a port is a state machine that may do anything at any time, short of
being interrupted forever: `interruptions` bounds how often that can still happen in a row.
-/

namespace SerialIsp

/-- What comes of offering bytes to a port. -/
inductive Offer where
  /-- So many of the bytes were taken, from the first one on. -/
  | taken (count : Nat)
  /-- Nothing was taken, and the offer may be made again. -/
  | interrupted
  | failed (fault : PortFault)
  deriving DecidableEq, Repr

/-- Serial ports with states in `π`. -/
class Port (π : Type) where
  /-- Offers bytes. -/
  offer : π → Bytes → Offer × π
  /-- Waits until everything that was taken has left. -/
  flush : π → Except PortFault Unit × π
  /-- Waits for bytes as a transport does. -/
  read : π → (wanted timeout : Nat) → Except PortFault Bytes × π
  /-- Drops what has arrived. -/
  clear : π → Except PortFault Unit × π
  /-- A bound on the bytes that can be read before the next write. -/
  pending : π → Nat
  /-- A bound on the interruptions in a row. -/
  interruptions : π → Nat
  taken_le : ∀ {p p' : π} {b : Bytes} {count : Nat},
    offer p b = (.taken count, p') → count ≤ b.length
  interruptions_lt : ∀ {p p' : π} {b : Bytes},
    offer p b = (.interrupted, p') → interruptions p' < interruptions p
  length_read_le : ∀ {p p' : π} {wanted timeout : Nat} {b : Bytes},
    read p wanted timeout = (.ok b, p') → b.length ≤ wanted
  pending_read_le : ∀ {p p' : π} {wanted timeout : Nat} {b : Bytes},
    read p wanted timeout = (.ok b, p') → b.length + pending p' ≤ pending p

namespace Port

variable {π : Type} [Port π]

/-- Waits until everything has left, after `taken` bytes. -/
def finish (p : π) (taken : Nat) : Except PortFault Nat × π :=
  match flush p with
  | (.ok (), p') => (.ok taken, p')
  | (.error fault, p') => (.error fault, p')

/-- Offers `b` until all of it is taken or the port takes nothing more, and counts what was
    taken on top of `taken`. -/
def writeFrom (p : π) (b : Bytes) (taken : Nat) : Except PortFault Nat × π :=
  if _more : b = [] then finish p taken
  else
    match _h : offer p b with
    | (.taken 0, p') => finish p' taken
    | (.taken (n + 1), p') => writeFrom p' (b.drop (n + 1)) (taken + (n + 1))
    | (.interrupted, p') => writeFrom p' b taken
    | (.failed fault, p') => (.error fault, p')
termination_by (b.length, interruptions p)
decreasing_by
  · have := List.length_pos_iff.mpr _more
    apply Prod.Lex.left
    simp only [List.length_drop]
    omega
  · exact Prod.Lex.right _ (interruptions_lt _h)

end Port

/-- The line over a serial port. -/
structure SerialLine (π : Type) where
  port : π

instance {π : Type} [Port π] : Transport (SerialLine π) where
  write d b :=
    let (outcome, port) := Port.writeFrom d.port b 0
    (outcome, ⟨port⟩)
  read d wanted timeout :=
    let (outcome, port) := Port.read d.port wanted timeout
    (outcome, ⟨port⟩)
  clear d :=
    let (outcome, port) := Port.clear d.port
    (outcome, ⟨port⟩)
  pending d := Port.pending d.port
  length_read_le {d d' wanted timeout b} h :=
    have read : Port.read d.port wanted timeout = (.ok b, d'.port) :=
      Prod.ext (congrArg (·.1) h) (congrArg (·.2.port) h)
    Port.length_read_le read
  pending_read_le {d d' wanted timeout b} h :=
    have read : Port.read d.port wanted timeout = (.ok b, d'.port) :=
      Prod.ext (congrArg (·.1) h) (congrArg (·.2.port) h)
    Port.pending_read_le read

/-- A port with a device on it that plays a script: each reply is sent once so many more
    bytes have arrived, and after the last one the device is silent. -/
structure ScriptedPort where
  /-- The replies to come, each with the bytes that have to arrive first. -/
  script : List (Nat × Bytes)
  /-- Bytes that arrived since the last reply. -/
  waited : Nat := 0
  queue : Bytes := []
  /-- Everything that arrived. -/
  received : Bytes := []
  deriving Repr, Inhabited

namespace ScriptedPort

/-- Sends the replies that are due. -/
def play (waited : Nat) (queue : Bytes) : List (Nat × Bytes) → Nat × Bytes × List (Nat × Bytes)
  | [] => (waited, queue, [])
  | (after, reply) :: rest =>
    if after ≤ waited then play (waited - after) (queue ++ reply) rest
    else (waited, queue, (after, reply) :: rest)

/-- Takes bytes in, and sends the replies that are due then. -/
def receive (p : ScriptedPort) (b : Bytes) : ScriptedPort :=
  let (waited, queue, script) := play (p.waited + b.length) p.queue p.script
  { script, waited, queue, received := p.received ++ b }

instance : Port ScriptedPort where
  offer p b := (.taken b.length, p.receive b)
  flush p := (.ok (), p)
  read p wanted _ := (.ok (p.queue.take wanted), { p with queue := p.queue.drop wanted })
  clear p := (.ok (), { p with queue := [] })
  pending p := p.queue.length
  interruptions _ := 0
  taken_le h := by
    cases h
    exact Nat.le_refl _
  interruptions_lt h := by cases h
  length_read_le h := by
    cases h
    exact List.length_take_le ..
  pending_read_le h := by
    cases h
    simp only [List.length_take, List.length_drop]
    omega

end ScriptedPort
end SerialIsp
