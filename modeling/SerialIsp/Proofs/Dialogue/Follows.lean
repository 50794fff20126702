import SerialIsp.Proofs.Dialogue.Basic

/-!
# Following a dialogue

The relation between an action and the dialogue it carries out, and its rules. There is one
rule for every way in which actions are put together, so that what an operation of the library
follows is read off its text.
-/

namespace SerialIsp

/-- The faults that a call on the transport can bring about. -/
def LinkFault.isBreak : LinkFault → Prop
  | .noDevice | .shortWrite .. | .timeout _ | .endOfStream | .driver _ | .system _ => True
  | .noAnswer | .handshake _ | .malformedReply _ => False

/-- The failures that a call on the transport can bring about. -/
def Failure.isBreak : Failure → Prop
  | .connecting fault | .flashing fault => fault.isBreak
  | _ => False

theorem LinkFault.isBreak_ofPort (fault : PortFault) : (ofPort fault).isBreak := by
  rcases fault with ⟨_ | _ | _ | _, _⟩ | ⟨_ | _ | _, _⟩ <;> trivial

theorem Failure.isBreak_during {failure : Failure} (h : failure.isBreak) (k : Wire.CommandKind) :
    (failure.during k).isBreak := by
  cases failure with
  | connecting fault => cases fault <;> exact h
  | flashing fault => cases fault <;> exact h
  | _ => exact h

theorem Failure.isBreak_whileFlashing {failure : Failure} (h : failure.isBreak) :
    failure.whileFlashing.isBreak := by
  cases failure with
  | connecting fault => exact h
  | _ => exact h

/-! ## The relation -/

section

variable {σ α β : Type} [OnLine σ]

/-- **The law of single calls.** A write is due on what was heard before it, and a read asks
    for no more than is needed: on anything shorter the dialogue would still be waiting. -/
structure Lawful (p : Dialogue α) (before : Bytes) (cs : List Call) : Prop where
  writes : ∀ {pre b o post}, cs = pre ++ .write b o :: post →
    sent pre ++ [b] <+: (p (before ++ received pre)).said
  reads : ∀ {pre n timeout o post}, cs = pre ++ .read n timeout o :: post → ∀ x : Bytes,
    x.length < n → (p (before ++ received pre ++ x)).close = .waiting

/-- The dialogue came to its end, and this is the result. Bytes that arrive later would have
    changed nothing. -/
structure Settled (p : Dialogue α) (before : Bytes) (cs : List Call) (r : Except Failure α)
    (after : Bytes) : Prop where
  full : ∀ c ∈ cs, c.full
  course : ∀ more, p (before ++ received cs ++ more) = ⟨sent cs, .ofResult r (after ++ more)⟩

/-- The last call, and no other, did not do what was asked of it. If it was no write, the
    dialogue still waits, with nothing left to say. -/
structure Broken (p : Dialogue α) (before : Bytes) (cs : List Call) (r : Except Failure α) :
    Prop where
  last : ∃ pre c, cs = pre ++ [c] ∧ (∀ d ∈ pre, d.full) ∧ ¬ c.full
  result : ∃ failure, r = .error failure ∧ failure.isBreak
  said : sent cs <+: (p (before ++ received cs)).said
  waits : (∃ pre b o, cs = pre ++ [.write b o]) ∨
    p (before ++ received cs) = ⟨sent cs, .waiting⟩

/-- **From this state, the action carries out the dialogue.** -/
def FollowsAt (action : ExceptT Failure (StateM σ) α) (p : Dialogue α) (s : σ) : Prop :=
  ∃ cs, calls (action s).2 = calls s ++ cs ∧ Lawful p (held s) cs ∧
    (Settled p (held s) cs (action s).1 (held (action s).2) ∨
      Broken p (held s) cs (action s).1)

/-- The action carries out the dialogue from every state. -/
def Follows (action : ExceptT Failure (StateM σ) α) (p : Dialogue α) : Prop :=
  ∀ s, FollowsAt action p s

theorem Settled.ended {p : Dialogue α} {before after : Bytes} {cs : List Call}
    {r : Except Failure α} (settled : Settled p before cs r after) :
    p (before ++ received cs) = ⟨sent cs, .ofResult r after⟩ := by
  have course := settled.course []
  rwa [List.append_nil, List.append_nil] at course

/-- What was written was due. -/
theorem sent_prefix_said {p : Dialogue α} {before after : Bytes} {cs : List Call}
    {r : Except Failure α} (ending : Settled p before cs r after ∨ Broken p before cs r) :
    sent cs <+: (p (before ++ received cs)).said := by
  rcases ending with settled | broken
  · exact congrArg Course.said settled.ended ▸ List.prefix_refl _
  · exact broken.said

/-- Whatever the transport did not bring about, the dialogue did. -/
theorem Settled.of_unbroken {p : Dialogue α} {before after : Bytes} {cs : List Call}
    {r : Except Failure α} (ending : Settled p before cs r after ∨ Broken p before cs r)
    (unbroken : ∀ failure, r = .error failure → ¬ failure.isBreak) :
    Settled p before cs r after := by
  rcases ending with settled | broken
  · exact settled
  · obtain ⟨failure, failed, isBreak⟩ := broken.result
    exact absurd isBreak (unbroken failure failed)

/-! ## Without calls -/

theorem Lawful.nil (p : Dialogue α) (before : Bytes) : Lawful p before [] where
  writes h := absurd h (by simp)
  reads h := absurd h (by simp)

theorem FollowsAt.of_quiet {action : ExceptT Failure (StateM σ) α} {p : Dialogue α} {s : σ}
    (quiet : calls (action s).2 = calls s)
    (course : ∀ more, p (held s ++ more) =
      ⟨[], .ofResult (action s).1 (held (action s).2 ++ more)⟩) : FollowsAt action p s :=
  ⟨[], by rw [quiet, List.append_nil], .nil .., .inl
    { full := fun c h => absurd h (by simp)
      course := by simpa using course }⟩

theorem follows_pure (a : α) : Follows (pure a : ExceptT Failure (StateM σ) α) (pure a) :=
  fun _ => .of_quiet rfl fun _ => rfl

theorem follows_throw (failure : Failure) :
    Follows (throw failure : ExceptT Failure (StateM σ) α) (Dialogue.fail failure) :=
  fun _ => .of_quiet rfl fun _ => rfl

/-- Actions that leave the line alone and cannot fail. -/
def Silent (action : ExceptT Failure (StateM σ) Unit) : Prop :=
  ∀ s, ∃ s', action s = (.ok (), s') ∧ calls s' = calls s ∧ held s' = held s

/-! ## One after the other -/

omit [OnLine σ] in
/-- What a sequence of two actions does, whatever they act on. -/
theorem run_bind (action : ExceptT Failure (StateM σ) α)
    (next : α → ExceptT Failure (StateM σ) β) (s : σ) :
    (action >>= next) s =
      match action s with
      | (.ok a, s') => next a s'
      | (.error failure, s') => (.error failure, s') := by
  rcases h : action s with ⟨_ | a, s'⟩
  all_goals
    show ExceptT.bindCont next (action s).1 (action s).2 = _
    rw [h]
    rfl

omit [OnLine σ] in
theorem run_throw (failure : Failure) (s : σ) :
    (throw failure : ExceptT Failure (StateM σ) α) s = (.error failure, s) := rfl

omit [OnLine σ] in
theorem run_get (s : σ) : (get : ExceptT Failure (StateM σ) σ) s = (.ok s, s) := rfl

omit [OnLine σ] in
/-- What becomes of a failure that is caught. -/
theorem run_tryCatch (action : ExceptT Failure (StateM σ) α)
    (handler : Failure → ExceptT Failure (StateM σ) α) (s : σ) :
    (tryCatch action handler) s =
      match action s with
      | (.ok a, s') => (.ok a, s')
      | (.error failure, s') => handler failure s' := by
  show (ExceptT.tryCatch action handler : StateM σ (Except Failure α)) s = _
  simp only [ExceptT.tryCatch, ExceptT.mk, bind, StateT.bind]
  rcases action s with ⟨_ | a, s'⟩
  · rfl
  · rfl

theorem Lawful.first {p : Dialogue α} {before : Bytes} {cs : List Call}
    (law : Lawful p before cs) (next : α → Dialogue β) : Lawful (p >>= next) before cs where
  writes h := (law.writes h).trans (Dialogue.said_prefix_bind ..)
  reads h x hx := by rw [Dialogue.bind_waiting (law.reads h x hx)]

/-- Where a call of two runs, one after the other, belongs. -/
theorem append_eq_append_cons {γ : Type} {xs ys pre post : List γ} {z : γ}
    (h : xs ++ ys = pre ++ z :: post) :
    (∃ post', xs = pre ++ z :: post') ∨ ∃ pre', pre = xs ++ pre' ∧ ys = pre' ++ z :: post := by
  rcases List.append_eq_append_iff.mp h with ⟨pre', hpre, hys⟩ | ⟨rest, hxs, hrest⟩
  · exact .inr ⟨pre', hpre, hys⟩
  · cases rest with
    | nil => exact .inr ⟨[], by simpa using hxs.symm, by simpa using hrest.symm⟩
    | cons c rest =>
      obtain ⟨rfl, -⟩ := List.cons.inj hrest
      exact .inl ⟨rest, hxs⟩

/-- The law holds through a sequence whose first part came to its end. -/
theorem Lawful.bind {p : Dialogue α} {next : α → Dialogue β} {before between : Bytes}
    {cs ds : List Call} {a : α} (first : Lawful p before cs)
    (settled : Settled p before cs (.ok a) between) (second : Lawful (next a) between ds) :
    Lawful (p >>= next) before (cs ++ ds) where
  writes h := by
    -- a write of the second part is due on what the second part heard, behind all that was said
    rcases append_eq_append_cons h with ⟨post', hcs⟩ | ⟨pre, rfl, hds⟩
    · exact (first.first next).writes hcs
    · have due := settled.course (received pre)
      rw [received_append, ← List.append_assoc, Dialogue.bind_done due, sent_append,
        List.append_assoc, List.prefix_append_right_inj]
      exact second.writes hds
  reads h x hx := by
    rcases append_eq_append_cons h with ⟨post', hcs⟩ | ⟨pre, rfl, hds⟩
    · exact (first.first next).reads hcs x hx
    · have due := settled.course (received pre ++ x)
      rw [received_append, ← List.append_assoc, List.append_assoc, Dialogue.bind_done due]
      simpa [List.append_assoc] using second.reads hds x hx

theorem Settled.bind {p : Dialogue α} {next : α → Dialogue β} {before between after : Bytes}
    {cs ds : List Call} {a : α} {r : Except Failure β}
    (first : Settled p before cs (.ok a) between) (second : Settled (next a) between ds r after) :
    Settled (p >>= next) before (cs ++ ds) r after where
  full c hc := (List.mem_append.mp hc).elim (first.full c) (second.full c)
  course more := by
    have here := first.course (received ds ++ more)
    have there := second.course more
    rw [received_append, ← List.append_assoc, List.append_assoc, Dialogue.bind_done here,
      ← List.append_assoc, there, sent_append]

theorem Broken.bind {p : Dialogue α} {next : α → Dialogue β} {before between : Bytes}
    {cs ds : List Call} {a : α} {r : Except Failure β}
    (first : Settled p before cs (.ok a) between) (second : Broken (next a) between ds r) :
    Broken (p >>= next) before (cs ++ ds) r where
  last := by
    obtain ⟨pre, c, rfl, hpre, hc⟩ := second.last
    refine ⟨cs ++ pre, c, (List.append_assoc ..).symm, fun d hd => ?_, hc⟩
    exact (List.mem_append.mp hd).elim (first.full d) (hpre d)
  result := second.result
  said := by
    have here := first.course (received ds)
    rw [received_append, ← List.append_assoc, Dialogue.bind_done here, sent_append,
      List.prefix_append_right_inj]
    exact second.said
  waits := by
    rcases second.waits with ⟨pre, b, o, rfl⟩ | waits
    · exact .inl ⟨cs ++ pre, b, o, (List.append_assoc ..).symm⟩
    · have here := first.course (received ds)
      rw [received_append, ← List.append_assoc, Dialogue.bind_done here, sent_append, waits]
      exact .inr rfl

/-- Where the first part fails, the sequence fails with it. -/
theorem Settled.first {p : Dialogue α} {before after : Bytes} {cs : List Call}
    {failure : Failure} (settled : Settled p before cs (.error failure) after)
    (next : α → Dialogue β) : Settled (p >>= next) before cs (.error failure) after :=
  ⟨settled.full, fun more => Dialogue.bind_failed (settled.course more)⟩

theorem Broken.first {p : Dialogue α} {before : Bytes} {cs : List Call} {failure : Failure}
    (broken : Broken p before cs (.error failure)) (next : α → Dialogue β) :
    Broken (p >>= next) before cs (.error failure) where
  last := broken.last
  result := by
    obtain ⟨f, result, isBreak⟩ := broken.result
    exact ⟨f, by cases result; rfl, isBreak⟩
  said := broken.said.trans (Dialogue.said_prefix_bind ..)
  waits := broken.waits.imp_right fun waits => by
    rw [Dialogue.bind_waiting (by rw [waits]), waits]

/-- **Sequences follow sequences.** -/
theorem FollowsAt.bind {action : ExceptT Failure (StateM σ) α} {p : Dialogue α}
    {next : α → ExceptT Failure (StateM σ) β} {q : α → Dialogue β} {s : σ}
    (first : FollowsAt action p s)
    (second : ∀ a s', action s = (.ok a, s') → FollowsAt (next a) (q a) s') :
    FollowsAt (action >>= next) (p >>= q) s := by
  obtain ⟨cs, hcs, law, ending⟩ := first
  rcases run : action s with ⟨failure | a, s'⟩
  · -- the first part failed, and the sequence with it
    rw [run] at hcs ending
    refine ⟨cs, by rw [run_bind, run]; exact hcs, law.first q, ?_⟩
    rw [run_bind, run]
    exact ending.imp (fun settled => settled.first q) fun broken => broken.first q
  · rw [run] at hcs ending
    have settled : Settled p (held s) cs (.ok a) (held s') := .of_unbroken ending nofun
    obtain ⟨ds, hds, law', ending'⟩ := second a s' run
    refine ⟨cs ++ ds, ?_, law.bind settled law', ?_⟩
    · rw [run_bind, run, ← List.append_assoc, ← hcs]
      exact hds
    · rw [run_bind, run]
      exact ending'.imp settled.bind (Broken.bind settled)

theorem Follows.bind {action : ExceptT Failure (StateM σ) α} {p : Dialogue α}
    {next : α → ExceptT Failure (StateM σ) β} {q : α → Dialogue β}
    (first : Follows action p) (second : ∀ a, Follows (next a) (q a)) :
    Follows (action >>= next) (p >>= q) :=
  fun s => (first s).bind fun a s' _ => second a s'

/-- What is done in silence first changes nothing of what follows it. -/
theorem FollowsAt.after {action : ExceptT Failure (StateM σ) Unit} {p : Dialogue α}
    {next : Unit → ExceptT Failure (StateM σ) α} {s s' : σ} (run : action s = (.ok (), s'))
    (sameCalls : calls s' = calls s) (sameHeld : held s' = held s)
    (h : FollowsAt (next ()) p s') : FollowsAt (action >>= next) p s := by
  obtain ⟨cs, hcs, law, ending⟩ := h
  refine ⟨cs, ?_, by rwa [← sameHeld], ?_⟩
  · rw [run_bind, run, ← sameCalls]
    exact hcs
  · rw [run_bind, run, ← sameHeld]
    exact ending

theorem Silent.then {action : ExceptT Failure (StateM σ) Unit} {p : Dialogue α}
    {next : Unit → ExceptT Failure (StateM σ) α} (silent : Silent action)
    (h : Follows (next ()) p) : Follows (action >>= next) p := by
  intro s
  obtain ⟨s', run, hcalls, hheld⟩ := silent s
  exact .after run hcalls hheld (h s')

theorem FollowsAt.get {next : σ → ExceptT Failure (StateM σ) α} {p : Dialogue α} {s : σ}
    (h : FollowsAt (next s) p s) : FollowsAt (MonadState.get >>= next) p s := by
  have run : (MonadState.get >>= next : ExceptT Failure (StateM σ) α) s = next s s := by
    rw [run_bind]
    rfl
  unfold FollowsAt
  rw [run]
  exact h

theorem follows_get {next : σ → ExceptT Failure (StateM σ) α} {p : Dialogue α}
    (h : ∀ s, FollowsAt (next s) p s) : Follows (get >>= next) p := fun s => .get (h s)

/-- **Wrappers.** An action that runs another one, and makes of its result what `p'` makes of
    the end of `p`, follows `p'`. -/
theorem FollowsAt.wrap {action : ExceptT Failure (StateM σ) α} {p : Dialogue α}
    {action' : ExceptT Failure (StateM σ) β} {p' : Dialogue β} {s : σ}
    (h : FollowsAt action p s) (sameCalls : calls (action' s).2 = calls (action s).2)
    (sameHeld : held (action' s).2 = held (action s).2)
    (said : ∀ input, (p' input).said = (p input).said)
    (waits : ∀ input, (p input).close = .waiting → (p' input).close = .waiting)
    (settles : ∀ input rest, (p input).close = .ofResult (action s).1 rest →
      (p' input).close = .ofResult (action' s).1 rest)
    (breaks : ∀ failure, (action s).1 = .error failure → failure.isBreak →
      ∃ failure', (action' s).1 = .error failure' ∧ failure'.isBreak) :
    FollowsAt action' p' s := by
  obtain ⟨cs, hcs, law, ending⟩ := h
  refine ⟨cs, by rw [sameCalls]; exact hcs, ⟨fun e => ?_, fun e x hx => ?_⟩, ?_⟩
  · rw [said]
    exact law.writes e
  · exact waits _ (law.reads e x hx)
  · rcases ending with settled | broken
    · refine .inl ⟨settled.full, fun more => ?_⟩
      have course := settled.course more
      rw [sameHeld]
      show Course.mk _ _ = _
      rw [said, course, settles _ (held (action s).2 ++ more) (by rw [course])]
    · obtain ⟨failure, result, isBreak⟩ := broken.result
      refine .inr ⟨broken.last, breaks failure result isBreak, ?_, broken.waits.imp_right ?_⟩
      · rw [said]
        exact broken.said
      · intro waiting
        show Course.mk _ _ = _
        rw [said, waits _ (by rw [waiting]), waiting]

theorem Follows.silent {action : ExceptT Failure (StateM σ) α} {p : Dialogue α}
    {next : α → ExceptT Failure (StateM σ) Unit} (h : Follows action p)
    (silent : ∀ a, Silent (next a)) :
    Follows (action >>= next) (p >>= fun _ => pure ()) := by
  refine h.bind fun a => ?_
  rw [← bind_pure (next a)]
  exact (silent a).then (follows_pure ())

/-! ## How it can fail -/

/-- Actions that fail only as allowed. -/
def FailsAs (allowed : Failure → Prop) (action : ExceptT Failure (StateM σ) α) : Prop :=
  ∀ ⦃s failure s'⦄, action s = (.error failure, s') → allowed failure

omit [OnLine σ] in
theorem FailsAs.bind {allowed : Failure → Prop} {action : ExceptT Failure (StateM σ) α}
    {next : α → ExceptT Failure (StateM σ) β} (first : FailsAs allowed action)
    (second : ∀ a s s', action s = (.ok a, s') → FailsAs allowed (next a)) :
    FailsAs allowed (action >>= next) := by
  intro s failure s' failed
  rw [run_bind] at failed
  rcases run : action s with ⟨f | a, between⟩
  · rw [run] at failed
    cases failed
    exact first run
  · rw [run] at failed
    exact second a s between run failed

omit [OnLine σ] in
theorem failsAs_pure {allowed : Failure → Prop} (a : α) :
    FailsAs allowed (pure a : ExceptT Failure (StateM σ) α) := fun _ _ _ failed => nomatch failed

theorem Silent.failsAs {allowed : Failure → Prop} {action : ExceptT Failure (StateM σ) Unit}
    (h : Silent action) : FailsAs allowed action := by
  intro s failure s' failed
  obtain ⟨s'', run, -⟩ := h s
  exact nomatch failed.symm.trans run

omit [OnLine σ] in
theorem failsAs_throw_bind {allowed : Failure → Prop} {failure : Failure} (h : allowed failure)
    (next : α → ExceptT Failure (StateM σ) β) :
    FailsAs allowed ((throw failure : ExceptT Failure (StateM σ) α) >>= next) := by
  intro s f s' failed
  rw [run_bind, run_throw] at failed
  cases failed
  exact h

/-- The failures of an action are those of its dialogue, and those of the transport. -/
theorem Follows.failsAs {allowed : Failure → Prop} {action : ExceptT Failure (StateM σ) α}
    {p : Dialogue α} (h : Follows action p) (fails : p.FailsOnly allowed) :
    FailsAs (fun failure => failure.isBreak ∨ allowed failure) action := by
  intro s failure s' failed
  obtain ⟨cs, -, -, ending⟩ := h s
  rw [failed] at ending
  rcases ending with settled | broken
  · exact .inr (fails (congrArg Course.close (settled.course [])))
  · obtain ⟨f, rfl, isBreak⟩ : ∃ f, failure = f ∧ f.isBreak := by
      obtain ⟨f, hf, isBreak⟩ := broken.result
      exact ⟨f, Except.error.inj hf, isBreak⟩
    exact .inl isBreak

end

end SerialIsp
