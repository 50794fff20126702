import SerialIsp.Proofs.Dialogue.Follows

/-!
# What a run leaves

A dialogue says which bytes cross the line, but not in how many calls, nor which call it was
that a failure came from. For that a run has to be looked at as it is: it leaves some calls
behind those that were made before, and a result. `Leaves` is what holds of the two in every
run of an action, and it has one rule for each way in which actions are put together.
-/

namespace SerialIsp

section

variable {σ α β : Type} [OnLine σ]

/-- In every run, this holds of the calls that are made and of the result. -/
def Leaves (holds : List Call → Except Failure α → Prop)
    (action : ExceptT Failure (StateM σ) α) : Prop :=
  ∀ s, ∃ cs, calls (action s).2 = calls s ++ cs ∧ holds cs (action s).1

variable {holds : List Call → Except Failure α → Prop} {action : ExceptT Failure (StateM σ) α}

theorem Leaves.mono {holds' : List Call → Except Failure α → Prop} (h : Leaves holds action)
    (weaker : ∀ cs r, holds cs r → holds' cs r) : Leaves holds' action := by
  intro s
  obtain ⟨cs, grown, here⟩ := h s
  exact ⟨cs, grown, weaker cs _ here⟩

theorem Leaves.and {holds' : List Call → Except Failure α → Prop} (h : Leaves holds action)
    (h' : Leaves holds' action) : Leaves (fun cs r => holds cs r ∧ holds' cs r) action := by
  intro s
  obtain ⟨cs, grown, here⟩ := h s
  obtain ⟨ds, grown', there⟩ := h' s
  obtain rfl := List.append_cancel_left (grown.symm.trans grown')
  exact ⟨cs, grown, here, there⟩

theorem leaves_pure {a : α} (h : holds [] (.ok a)) :
    Leaves holds (pure a : ExceptT Failure (StateM σ) α) :=
  fun _ => ⟨[], (List.append_nil _).symm, h⟩

theorem leaves_throw {failure : Failure} (h : holds [] (.error failure)) :
    Leaves holds (throw failure : ExceptT Failure (StateM σ) α) :=
  fun _ => ⟨[], (List.append_nil _).symm, h⟩

/-- What a sequence leaves: the calls of both parts, or those of a first part that failed. -/
theorem Leaves.bind {next : α → ExceptT Failure (StateM σ) β}
    {later : List Call → Except Failure β → Prop} (first : Leaves holds action)
    (failed : ∀ cs failure, holds cs (.error failure) → later cs (.error failure))
    (second : ∀ a, Leaves (fun ds r => ∀ cs, holds cs (.ok a) → later (cs ++ ds) r) (next a)) :
    Leaves later (action >>= next) := by
  intro s
  obtain ⟨cs, grown, here⟩ := first s
  rw [run_bind]
  rcases run : action s with ⟨failure | a, s'⟩
  · rw [run] at grown here
    exact ⟨cs, grown, failed cs failure here⟩
  · rw [run] at grown here
    obtain ⟨ds, grown', there⟩ := second a s'
    exact ⟨cs ++ ds, by rw [grown', grown, List.append_assoc], there cs here⟩

theorem Leaves.get {next : σ → ExceptT Failure (StateM σ) α}
    (h : ∀ s, Leaves holds (next s)) : Leaves holds (MonadState.get >>= next) := fun s => h s s

theorem Leaves.ite {c : Prop} [Decidable c] {other : ExceptT Failure (StateM σ) α}
    (h : Leaves holds action) (h' : Leaves holds other) :
    Leaves holds (if c then action else other) := by
  split
  · exact h
  · exact h'

/-- What is done in silence first leaves nothing. -/
theorem Silent.leaves {quiet : ExceptT Failure (StateM σ) Unit}
    {next : Unit → ExceptT Failure (StateM σ) α} (silent : Silent quiet)
    (h : Leaves holds (next ())) : Leaves holds (quiet >>= next) := by
  intro s
  obtain ⟨s', run, sameCalls, -⟩ := silent s
  obtain ⟨cs, grown, here⟩ := h s'
  rw [run_bind, run]
  exact ⟨cs, grown.trans (by rw [sameCalls]), here⟩

/-- Whoever follows a dialogue writes what the dialogue says, and all of it unless it fails. -/
theorem Follows.leaves_sent {p : Dialogue α} (h : Follows action p) :
    Leaves (fun cs r => ∃ input, sent cs <+: (p input).said ∧
      (r.isOk → sent cs = (p input).said ∧ ∀ c ∈ cs, c.full)) action := by
  intro s
  obtain ⟨cs, grown, -, ending⟩ := h s
  refine ⟨cs, grown, _, sent_prefix_said ending, fun ok => ?_⟩
  have settled := Settled.of_unbroken ending fun failure failed => by
    rw [failed] at ok
    cases ok
  exact ⟨(congrArg Course.said settled.ended).symm, settled.full⟩

end

end SerialIsp
