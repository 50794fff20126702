import SerialIsp.Session.Serial

/-!
# Conversations

A port that answers from a list of replies, in order. Where the replies run out it stops,
with the ask it could not answer. So whatever is done over a port is a function of the
replies so far: with one reply more, everything up to that ask happens again as before, and
the work goes on from there. Whoever owns the real port has nothing to do but carry out one
ask after the other.

A reply to a read may hold more than was wanted. The rest is handed out by the reads that
follow, before anything else is asked for.
-/

namespace SerialIsp

/-- What is asked of a port. -/
inductive Ask where
  /-- To take bytes, and to wait until they have left. -/
  | write (data : Bytes)
  /-- To wait for as many bytes as wanted, for so many milliseconds at most. -/
  | read (wanted timeout : Nat)
  /-- To drop what has arrived. -/
  | clear
  deriving DecidableEq, Repr

/-- What comes of an ask. -/
inductive Reply where
  /-- So many of the bytes were taken. -/
  | taken (count : Nat)
  /-- These bytes arrived. -/
  | arrived (data : Bytes)
  /-- What had arrived was dropped. -/
  | cleared
  | failed (fault : PortFault)
  deriving DecidableEq, Repr

/-- How many bytes a reply brings. -/
def Reply.size : Reply → Nat
  | .arrived data => data.length
  | _ => 0

/-- A port that answers from replies. -/
structure Conversation where
  /-- The replies to come. -/
  replies : List Reply
  /-- What arrived and has not been handed out. -/
  queue : Bytes := []
  /-- The first ask there was no reply to. -/
  unanswered : Option Ask := none
  deriving Repr

namespace Conversation

/-- The fault of a call there is no reply to. -/
def noReply : PortFault := .system .other "no reply"

/-- Stops at an ask, unless it has stopped before. What follows is answered no more. -/
def stop (c : Conversation) (ask : Ask) : PortFault × Conversation :=
  (noReply, { replies := [], queue := [], unanswered := c.unanswered.or (some ask) })

/-- How many bytes replies bring. -/
def arriving : List Reply → Nat
  | [] => 0
  | reply :: rest => reply.size + arriving rest

/-- How many bytes can still be handed out. -/
def pending (c : Conversation) : Nat := c.queue.length + arriving c.replies

/-- Offers bytes. -/
def offer (c : Conversation) (b : Bytes) : Offer × Conversation :=
  match c.replies with
  | .taken count :: rest => (.taken (min count b.length), { c with replies := rest })
  | .failed fault :: rest => (.failed fault, { c with replies := rest })
  | _ =>
    let (fault, c) := c.stop (.write b)
    (.failed fault, c)

/-- Hands out what is wanted of a queue. -/
def handOut (c : Conversation) (queue : Bytes) (wanted : Nat) : Bytes × Conversation :=
  (queue.take wanted, { c with queue := queue.drop wanted })

/-- Reads. -/
def read (c : Conversation) (wanted timeout : Nat) : Except PortFault Bytes × Conversation :=
  if wanted ≤ c.queue.length then
    let (b, c) := c.handOut c.queue wanted
    (.ok b, c)
  else
    match c.replies with
    | .arrived data :: rest =>
      let (b, c) := { c with replies := rest }.handOut (c.queue ++ data) wanted
      (.ok b, c)
    | .failed fault :: rest => (.error fault, { c with replies := rest })
    | _ =>
      let (fault, c) := c.stop (.read (wanted - c.queue.length) timeout)
      (.error fault, c)

/-- Drops what has arrived. -/
def clear (c : Conversation) : Except PortFault Unit × Conversation :=
  match c.replies with
  | .cleared :: rest => (.ok (), { c with replies := rest, queue := [] })
  | .failed fault :: rest => (.error fault, { c with replies := rest })
  | _ =>
    let (fault, c) := c.stop .clear
    (.error fault, c)

/-- A read hands out no more than was wanted, and what it hands out is pending no longer. -/
theorem read_le {c c' : Conversation} {wanted timeout : Nat} {b : Bytes}
    (h : c.read wanted timeout = (.ok b, c')) :
    b.length ≤ wanted ∧ b.length + c'.pending ≤ c.pending := by
  unfold read at h
  split at h
  · cases h
    simp only [pending, List.length_take, List.length_drop]
    omega
  · split at h
    · rename_i replies
      cases h
      simp only [pending, replies, List.length_take, List.length_drop, List.length_append,
        arriving, Reply.size]
      omega
    · cases h
    · cases h

instance : Port Conversation where
  offer := offer
  flush c := (.ok (), c)
  read := read
  clear := clear
  pending := pending
  interruptions _ := 0
  taken_le {c c' b count} h := by
    unfold offer at h
    split at h
    · cases h
      exact Nat.min_le_right ..
    · cases h
    · cases h
  interruptions_lt {c c' b} h := by
    unfold offer at h
    split at h <;> cases h
  length_read_le h := (read_le h).1
  pending_read_le h := (read_le h).2

end Conversation
end SerialIsp
