import SerialIsp.Proofs.Dialogue.Handshake

/-!
# Commands in turn

A command is a turn: its line is written when at most one byte is held back, and no status has
fewer than three. So a command heeds its dialogue (`Session.command_heeds`), as the handshake
does, and commands that are sent one after the other do. And once a status was heard, it is the
answer whatever comes behind it (`Dialogue.stands_status`), which tells the answers to such
commands apart.
-/

namespace SerialIsp

open Wire

variable {σ δ α β : Type}

/-! ## Answers stand

Bytes behind an answer are left where they are. -/

namespace Dialogue

/-- Dialogues whose end stands when more is heard. -/
def Stands (p : Dialogue α) : Prop :=
  ∀ ⦃input a rest⦄, (p input).close = .done a rest →
    ∀ more, (p (input ++ more)).close = .done a (rest ++ more)

theorem Stands.bind {p : Dialogue α} {next : α → Dialogue β} (first : p.Stands)
    (second : ∀ a, (next a).Stands) : Stands (p >>= next) := by
  intro input b rest ended more
  obtain ⟨a, between, here, there⟩ := close_bind_done.mp ended
  exact close_bind_done.mpr ⟨a, between ++ more, first here more, second a there more⟩

theorem Stands.pure (a : α) : Stands (Pure.pure a : Dialogue α) := by
  intro input b rest ended more
  cases ended
  rfl

theorem Stands.fail (failure : Failure) : Stands (fail failure : Dialogue α) := by
  intro input b rest ended more
  cases ended

theorem stands_take (n : Nat) : (take n).Stands := by
  intro input b rest ended more
  obtain ⟨long, rfl⟩ := take_done.mp ended
  exact take_done.mpr ⟨long, List.append_assoc ..⟩

theorem stands_lineEnd : lineEnd.Stands := by
  intro input a rest ended more
  cases input with
  | nil => cases ended
  | cons c input =>
    cases ended
    rw [List.cons_append, lineEnd]
    split <;> rfl

theorem stands_lineRest : lineRest.Stands := by
  intro input a rest ended more
  induction input with
  | nil => cases ended
  | cons c input ih =>
    rw [lineRest] at ended
    rw [List.cons_append, lineRest]
    by_cases lf : c = Bytes.lf
    · rw [if_pos lf] at ended ⊢
      cases ended
      rfl
    · rw [if_neg lf] at ended ⊢
      by_cases cr : c = Bytes.cr
      · rw [if_pos cr] at ended ⊢
        exact stands_lineEnd ended more
      · rw [if_neg cr] at ended ⊢
        exact ih ended

theorem stands_status : status.Stands := by
  refine (stands_take _).bind fun reply => ?_
  dsimp only
  cases Text.readNumber 10 Text.limit32
      ((reply.takeWhile Session.isDigit).map fun c => Char.ofNat c.toNat) with
  | error fault => exact .fail _
  | ok n =>
    dsimp only
    split
    · exact .pure _
    · split
      · exact stands_lineEnd.bind fun _ => .pure _
      · exact stands_lineRest.bind fun _ => .pure _

end Dialogue

/-! ## Commands heed their dialogues -/

section

variable [OnLine σ]

theorem HeedsAt.get {next : σ → ExceptT Failure (StateM σ) α} {p : Dialogue α} {s : σ}
    (h : HeedsAt (next s) p s) : HeedsAt (MonadState.get >>= next) p s := by
  have run : (MonadState.get >>= next : ExceptT Failure (StateM σ) α) s = next s s := by
    rw [run_bind]
    rfl
  unfold HeedsAt
  rw [run]
  exact h

end

namespace Session

theorem during_heeds {action : SessionM δ α} {p : Dialogue α} {s : Session δ}
    (h : HeedsAt action p s) (untimed : p.Untimed) (k : CommandKind) :
    HeedsAt (during k action) p s := by
  obtain ⟨cs, grown, law, heeded⟩ := h
  rcases run : action s with ⟨failure | a, s'⟩
  · rw [run] at grown heeded
    have whole : during k action s = (.error (failure.during k), s') := by
      unfold during
      rw [run]
    refine ⟨cs, by rw [whole]; exact grown, law, ?_⟩
    rw [whole]
    cases heeded with
    | settled settled =>
      rw [untimed (congrArg Course.close settled.ended) k]
      exact .settled settled
    | broken broken waits =>
      obtain ⟨f, same, isBreak⟩ := broken.result
      cases same
      exact .broken ⟨broken.last, ⟨_, rfl, Failure.isBreak_during isBreak k⟩, broken.said,
        broken.waits⟩ waits
  · rw [run] at grown heeded
    have whole : during k action s = (.ok a, s') := by
      unfold during
      rw [run]
    exact ⟨cs, by rw [whole]; exact grown, law, by rw [whole]; exact heeded⟩

variable [Transport δ]

theorem commandStatus_heeds (c : Command) (s : Session δ) :
    HeedsAt (commandStatus c : SessionM δ Status) (Dialogue.commandStatus c) s := by
  have exchange (s : Session δ) : HeedsAt (do writeBytes c.line; readStatus : SessionM δ Status)
      (Dialogue.commandStatus c) s :=
    writeBytes_heeds (Dialogue.status_waits (length_held s)) fun s' _ =>
      FollowsAt.heeds (readStatus_follows s') Dialogue.listening_status.mute
  have untimed : (Dialogue.commandStatus c).Untimed :=
    (Dialogue.failsOnly_say _).bind fun _ => Dialogue.listening_status.untimed
  have timed (timeout : Nat) (s : Session δ) :
      HeedsAt (withTimeout timeout do writeBytes c.line; readStatus : SessionM δ Status)
        (Dialogue.commandStatus c) s := exchange { s with timeout := timeout }
  refine .after rfl rfl rfl (.get ?_)
  rw [← Dialogue.bind_pure (Dialogue.commandStatus c)]
  refine .bind (during_heeds (timed _ _) untimed c.kind) fun status s' _ => ?_
  exact FollowsAt.heeds ((silent_traceNotice _).then (follows_pure status) s') fun _ => rfl

theorem command_heeds (c : Command) (s : Session δ) :
    HeedsAt (command c : SessionM δ Unit) (Dialogue.command c) s := by
  refine .bind (commandStatus_heeds c s) fun status s' _ => ?_
  cases status.isSuccess with
  | true => exact FollowsAt.heeds (follows_pure () s') fun _ => rfl
  | false =>
    refine .get ?_
    have refusal : Follows (throw (.refused c.kind status) : SessionM δ Unit)
        (Dialogue.fail (.refused c.kind status)) := follows_throw _
    cases s'.settings.trace with
    | true => exact FollowsAt.heeds (refusal s') fun _ => rfl
    | false => exact FollowsAt.heeds ((silent_notify _).then refusal s') fun _ => rfl

end Session

/-! ## What a run wrote -/

/-- What was written was written by a call. -/
theorem exists_write_of_mem_sent {b : Bytes} {cs : List Call} (h : b ∈ sent cs) :
    ∃ pre outcome post, cs = pre ++ .write b outcome :: post := by
  obtain ⟨c, mem, offered⟩ := List.mem_flatMap.mp h
  obtain ⟨pre, post, rfl⟩ := List.append_of_mem mem
  cases c with
  | write offering outcome =>
    obtain rfl := List.mem_singleton.mp offered
    exact ⟨pre, outcome, post, rfl⟩
  | read wanted timeout outcome => cases offered
  | clear outcome => cases offered

/-- Who has something to say says the first of it at least. -/
theorem mem_sent_of_said {p : Dialogue α} {before after b : Bytes} {later : List Bytes}
    {cs : List Call} {r : Except Failure α}
    (ending : Settled p before cs r after ∨ Broken p before cs r)
    (said : (p (before ++ received cs)).said = b :: later) : b ∈ sent cs := by
  have early := sent_prefix_said ending
  cases wrote : sent cs with
  | cons c cs =>
    rw [said, wrote] at early
    exact (List.cons_prefix_cons.mp early).1 ▸ List.mem_cons_self
  | nil =>
    -- the last call was a write, or all was said
    rcases ending with settled | broken
    · rw [settled.ended, wrote] at said
      cases said
    · rcases broken.waits with ⟨pre, c, outcome, rfl⟩ | waits
      · rw [sent_append] at wrote
        cases (List.append_eq_nil_iff.mp wrote).2
      · rw [waits, wrote] at said
        cases said

end SerialIsp
