import SerialIsp.Proofs.Transfer.Bounds
import SerialIsp.Proofs.Transfer.Layout

/-!
# Counting blocks

The blocks of a transfer are counted in three ways: by dividing twice, first by the bytes of a line
and then by the lines of a block; by cutting the data that is sent; and attempt by attempt, with a
tally of what has crossed the line. `Tally` is that bookkeeping, and `Tally.Run` says which tallies
come about, whatever the order in which attempts succeed and fail.

One fact carries all of it (`Tally.Run.lengths_append`): the blocks that were accepted, and those that the
bytes still missing come in, are together the blocks of the whole. A refusal changes nothing in it.

Transfers keep no tally, they pass on what they need of it. `Tally.receive` and `Tally.send` do keep
one, and do the same (`Tally.receive_eq`, `Tally.send_eq`).
-/

namespace SerialIsp

open Wire

/-! ## Blocks of a number of bytes -/

namespace Wire

theorem sum_blockLengths (n : Nat) : (blockLengths n).sum = n := by
  induction n using Nat.strongRecOn with
  | ind n ih =>
    by_cases none : n = 0
    · rw [none, blockLengths_zero, List.sum_nil]
    · rw [blockLengths_of_ne_zero none, List.sum_cons, ih _ (sub_block_lt none)]
      omega

theorem length_blockLengths (n : Nat) : (blockLengths n).length = blockCount n := by
  induction n using Nat.strongRecOn with
  | ind n ih =>
    by_cases none : n = 0
    · rw [none, blockLengths_zero]
      rfl
    · rw [blockLengths_of_ne_zero none, List.length_cons, ih _ (sub_block_lt none)]
      simp only [blockCount_eq, blockCapacity_eq]
      omega

theorem pos_of_mem_blockLengths {n m : Nat} (mem : m ∈ blockLengths n) : 0 < m := by
  induction n using Nat.strongRecOn with
  | ind n ih =>
    by_cases none : n = 0
    · rw [none, blockLengths_zero] at mem
      cases mem
    · rw [blockLengths_of_ne_zero none, List.mem_cons] at mem
      rcases mem with rfl | mem
      · have := blockCapacity_pos
        omega
      · exact ih _ (sub_block_lt none) mem

theorem eq_of_mem_dropLast_blockLengths {n m : Nat} (mem : m ∈ (blockLengths n).dropLast) :
    m = blockCapacity := by
  induction n using Nat.strongRecOn with
  | ind n ih =>
    by_cases none : n = 0
    · rw [none, blockLengths_zero] at mem
      cases mem
    · rw [blockLengths_of_ne_zero none] at mem
      by_cases last : n - min n blockCapacity = 0
      · rw [last, blockLengths_zero] at mem
        cases mem
      · have more := blockLengths_of_ne_zero last
        rw [more, List.dropLast_cons_cons, ← more, List.mem_cons] at mem
        rcases mem with rfl | mem
        · omega
        · exact ih _ (sub_block_lt none) mem

theorem blockCount_eq_zero {n : Nat} : blockCount n = 0 ↔ n = 0 := by
  rw [blockCount_eq]
  omega

end Wire

/-! ## Tallies -/

/-- How far a transfer has come. -/
structure Tally where
  /-- The bytes that have to cross the line. -/
  total : Nat
  /-- The bytes that did. -/
  transferred : Nat := 0
  /-- The number of the block at hand. -/
  block : Nat := 0
  /-- How often it was refused. -/
  resends : Nat := 0
  deriving DecidableEq, Repr

namespace Tally

def isComplete (t : Tally) : Bool := t.total ≤ t.transferred

/-- The length of the block at hand. -/
def nextLength (t : Tally) : Nat := min (t.total - t.transferred) blockCapacity

/-- A block has crossed the line. -/
def accept (t : Tally) (length : Nat) : Tally :=
  { t with transferred := t.transferred + length, block := t.block + 1, resends := 0 }

/-- The block at hand was refused once more, which may be once too often. -/
def refuse (t : Tally) : Except Failure Tally :=
  if maxResends < t.resends + 1 then .error (.corruptBlock t.block (t.resends + 1))
  else .ok { t with resends := t.resends + 1 }

variable {t t' : Tally}

theorem lt_of_not_isComplete (more : ¬ t.isComplete) : t.transferred < t.total := by
  rw [isComplete, decide_eq_true_iff] at more
  omega

theorem refuse_of_lt (few : t.resends < maxResends) :
    t.refuse = .ok { t with resends := t.resends + 1 } := if_neg (by omega)

theorem refuse_of_eq (all : t.resends = maxResends) :
    t.refuse = .error (.corruptBlock t.block (maxResends + 1)) := by
  rw [refuse, all]
  exact if_pos (Nat.lt_succ_self _)

theorem refuse_eq_ok : t.refuse = .ok t' ↔
    t.resends < maxResends ∧ t' = { t with resends := t.resends + 1 } := by
  rcases Nat.lt_or_ge t.resends maxResends with few | many
  · rw [refuse_of_lt few]
    exact ⟨fun h => ⟨few, (Except.ok.inj h).symm⟩, fun h => congrArg _ h.2.symm⟩
  · refine ⟨fun h => ?_, fun h => absurd h.1 (Nat.not_lt.mpr many)⟩
    rw [refuse, if_pos (by omega)] at h
    cases h

/-- **The tallies that come about** when `total` bytes are transferred, with the lengths of the
    blocks that were accepted: while there is more to come, the block at hand is accepted or
    refused, and at any time it may be refused. -/
inductive Run (total : Nat) : List Nat → Tally → Prop
  | start : Run total [] { total }
  | accepted {lengths : List Nat} {t : Tally} (run : Run total lengths t)
      (more : ¬ t.isComplete) : Run total (lengths ++ [t.nextLength]) (t.accept t.nextLength)
  | refused {lengths : List Nat} {t t' : Tally} (run : Run total lengths t)
      (again : t.refuse = .ok t') : Run total lengths t'

namespace Run

variable {total : Nat} {lengths : List Nat}

/-- What a run keeps, and what it counts. -/
theorem counts (run : Run total lengths t) : t.total = total ∧ t.resends ≤ maxResends ∧
    t.block = lengths.length ∧ t.transferred = lengths.sum ∧
    t.transferred = min (blockCapacity * t.block) total := by
  induction run with
  | start => exact ⟨rfl, Nat.zero_le _, rfl, rfl, (Nat.zero_min _).symm⟩
  | @accepted lengths t run more ih =>
    obtain ⟨same, -, block, sum, reached⟩ := ih
    have short := lt_of_not_isComplete more
    refine ⟨same, Nat.zero_le _, ?_, ?_, ?_⟩
    · rw [accept, List.length_append, List.length_singleton, block]
    · rw [accept, List.sum_append, List.sum_singleton, sum]
    · rw [same] at short
      simp only [accept, nextLength, same, Nat.mul_succ]
      omega
  | refused run again ih =>
    obtain ⟨few, rfl⟩ := refuse_eq_ok.mp again
    obtain ⟨same, -, rest⟩ := ih
    exact ⟨same, few, rest⟩

/-- **What was accepted and what is still to come** are the blocks of the whole. -/
theorem lengths_append (run : Run total lengths t) :
    lengths ++ blockLengths (total - t.transferred) = blockLengths total := by
  induction run with
  | start => rfl
  | @accepted lengths t run more ih =>
    have short := lt_of_not_isComplete more
    rw [run.counts.1] at short
    have rest : total - (t.accept t.nextLength).transferred =
        total - t.transferred - min (total - t.transferred) blockCapacity := by
      simp only [accept, nextLength, run.counts.1]
      omega
    rw [rest, List.append_assoc, List.singleton_append, nextLength, run.counts.1,
      ← blockLengths_of_ne_zero (by omega), ih]
  | refused run again ih =>
    obtain ⟨-, rfl⟩ := refuse_eq_ok.mp again
    exact ih

theorem mem_dropLast (run : Run total lengths t) {n : Nat} (mem : n ∈ lengths.dropLast) :
    n ∈ (blockLengths total).dropLast := by
  rw [← run.lengths_append, List.dropLast_append]
  split
  · exact mem
  · exact List.mem_append_left _ ((List.dropLast_subset _) mem)

theorem isComplete_iff (run : Run total lengths t) :
    t.isComplete ↔ t.block = blockCount total := by
  have all := congrArg List.length run.lengths_append
  rw [List.length_append, length_blockLengths, length_blockLengths, ← run.counts.2.2.1] at all
  rw [isComplete, run.counts.1, decide_eq_true_iff, ← Nat.sub_eq_zero_iff_le,
    ← blockCount_eq_zero]
  omega

theorem eq_of_isComplete (run : Run total lengths t) (complete : t.isComplete) :
    lengths = blockLengths total := by
  rw [isComplete, run.counts.1, decide_eq_true_iff] at complete
  have all := run.lengths_append
  rwa [Nat.sub_eq_zero_of_le complete, blockLengths_zero, List.append_nil] at all

/-- Whatever has happened, a run can be completed. -/
theorem exists_complete (run : Run total lengths t) :
    ∃ last, Run total (blockLengths total) last ∧ last.isComplete := by
  induction missing : total - t.transferred using Nat.strongRecOn generalizing t lengths with
  | ind missing ih =>
    by_cases complete : t.isComplete
    · exact ⟨t, run.eq_of_isComplete complete ▸ run, complete⟩
    · have short := lt_of_not_isComplete complete
      have pos := blockCapacity_pos
      rw [run.counts.1] at short
      refine ih _ ?_ (run.accepted complete) rfl
      simp only [accept, nextLength, run.counts.1]
      omega

end Run

/-! ## Transfers that keep a tally -/

section

variable {δ : Type} [Transport δ]

/-- Reads what is missing, attempt by attempt; the data, and the tally in the end. -/
def receive (progress : Bool) (t : Tally) : SessionM δ (Bytes × Tally) := do
  if _h : t.isComplete then return ([], t)
  else
    match ← Session.receiveBlock t.block t.nextLength with
    | some b =>
      Session.writeBytes blockTaken
      Session.report progress (.update (t.transferred + t.nextLength))
      let (later, last) ← (t.accept t.nextLength).receive progress
      return (b ++ later, last)
    | none =>
      match _h' : t.refuse with
      | .error failure => throw failure
      | .ok t' =>
        Session.notify (.resending t.block t'.resends)
        Session.writeBytes blockWanted
        t'.receive progress
termination_by (t.total - t.transferred, maxResends - t.resends)
decreasing_by
  · have short := lt_of_not_isComplete _h
    have pos := blockCapacity_pos
    left
    simp only [accept, nextLength]
    omega
  · obtain ⟨few, rfl⟩ := refuse_eq_ok.mp _h'
    right
    dsimp only
    omega

/-- Sends blocks, attempt by attempt; the tally in the end. -/
def send (t : Tally) (blocks : List Bytes) : SessionM δ Tally :=
  match blocks with
  | [] => return t
  | b :: rest => do
    match ← Session.sendFrame t.block (blockFrame b) with
    | some () => (t.accept b.length).send rest
    | none =>
      match _h : t.refuse with
      | .error failure => throw failure
      | .ok t' =>
        Session.notify (.resending t.block t'.resends)
        t'.send (b :: rest)
termination_by (blocks.length, maxResends - t.resends)
decreasing_by
  · left
    exact Nat.lt_succ_self _
  · obtain ⟨few, rfl⟩ := refuse_eq_ok.mp _h
    right
    dsimp only
    omega

theorem receive_of_isComplete (progress : Bool) (complete : t.isComplete) :
    (t.receive progress : SessionM δ (Bytes × Tally)) = pure ([], t) := by
  rw [receive, dif_pos complete]

theorem receive_of_not (progress : Bool) (more : ¬ t.isComplete) :
    (t.receive progress : SessionM δ (Bytes × Tally)) = (do
      match ← Session.receiveBlock t.block t.nextLength with
      | some b =>
        Session.writeBytes blockTaken
        Session.report progress (.update (t.transferred + t.nextLength))
        let (later, last) ← (t.accept t.nextLength).receive progress
        return (b ++ later, last)
      | none =>
        let t' ← Session.ofExcept t.refuse
        Session.notify (.resending t.block t'.resends)
        Session.writeBytes blockWanted
        t'.receive progress) := by
  rw [receive, dif_neg more]
  refine bind_congr fun arrived => ?_
  cases arrived with
  | some b => rfl
  | none =>
    dsimp only
    split
    · next failure refused =>
      rw [refused]
      rfl
    · next t' again =>
      rw [again]
      rfl

theorem send_nil : (t.send [] : SessionM δ Tally) = pure t := by rw [send]

theorem send_cons (b : Bytes) (rest : List Bytes) :
    (t.send (b :: rest) : SessionM δ Tally) = (do
      match ← Session.sendFrame t.block (blockFrame b) with
      | some () => (t.accept b.length).send rest
      | none =>
        let t' ← Session.ofExcept t.refuse
        Session.notify (.resending t.block t'.resends)
        t'.send (b :: rest)) := by
  rw [send]
  refine bind_congr fun arrived => ?_
  cases arrived with
  | some taken => rfl
  | none =>
    dsimp only
    split
    · next failure refused =>
      rw [refused]
      rfl
    · next t' again =>
      rw [again]
      rfl

/-- What is done from a tally on where none is kept: the block at hand is waited for as often as
    it may still be refused, and then the others are read. -/
def resume (progress : Bool) (t : Tally) : SessionM δ Bytes := do
  if t.isComplete then return []
  else
    let b ← Session.untilArrived t.block (Session.receiveBlock t.block t.nextLength)
      (Session.writeBytes blockWanted) (maxResends - t.resends)
    Session.writeBytes blockTaken
    Session.report progress (.update (t.transferred + t.nextLength))
    return b ++ (← Session.readBlocksFrom progress t.total (t.block + 1)
      (t.total - (t.accept t.nextLength).transferred))

theorem readBlocksFrom_eq (progress : Bool) (within : t.transferred ≤ t.total)
    (fresh : t.resends = 0) :
    (Session.readBlocksFrom progress t.total t.block (t.total - t.transferred) :
      SessionM δ Bytes) = t.resume progress := by
  rw [Session.readBlocksFrom, resume, isComplete, fresh]
  by_cases complete : t.total ≤ t.transferred
  · rw [dif_pos (Nat.sub_eq_zero_of_le complete), if_pos (decide_eq_true complete)]
  · have mark : t.total - (t.total - t.transferred - min (t.total - t.transferred) blockCapacity) =
        t.transferred + t.nextLength := by
      obtain ⟨rest, total⟩ := Nat.exists_eq_add_of_le within
      rw [nextLength, total]
      omega
    rw [dif_neg (by omega), if_neg (by simpa using complete), accept, Nat.sub_add_eq]
    simp only [Session.readBlock, bind_assoc, pure_bind, mark]
    rfl

/-- **A reader that keeps a tally** reads like one that keeps none. -/
theorem receive_eq (progress : Bool) (t : Tally) (few : t.resends ≤ maxResends)
    (within : t.transferred ≤ t.total) :
    Prod.fst <$> (t.receive progress : SessionM δ (Bytes × Tally)) = t.resume progress := by
  induction t using Tally.receive.induct with
  | case1 t complete =>
    rw [receive_of_isComplete progress complete, resume, if_pos complete, map_pure]
  | case2 t more accepted refused =>
    have short := lt_of_not_isComplete more
    have next : (t.accept t.nextLength).transferred ≤ (t.accept t.nextLength).total := by
      simp only [accept, nextLength]
      omega
    have later : Prod.fst <$> ((t.accept t.nextLength).receive progress : SessionM δ _) =
        Session.readBlocksFrom progress t.total (t.block + 1)
          (t.total - (t.accept t.nextLength).transferred) :=
      (accepted (Nat.zero_le _) next).trans (readBlocksFrom_eq progress next rfl).symm
    have taken (b : Bytes) : Prod.fst <$> (do
          Session.writeBytes blockTaken
          Session.report progress (.update (t.transferred + t.nextLength))
          let (later, last) ← (t.accept t.nextLength).receive progress
          return (b ++ later, last) : SessionM δ (Bytes × Tally)) = (do
        Session.writeBytes blockTaken
        Session.report progress (.update (t.transferred + t.nextLength))
        return b ++ (← Session.readBlocksFrom progress t.total (t.block + 1)
          (t.total - (t.accept t.nextLength).transferred))) := by
      rw [← later]
      simp only [map_bind, map_pure, bind_map_left]
    rw [receive_of_not progress more, resume, if_neg more, map_bind]
    rcases Nat.lt_or_ge t.resends maxResends with again | never
    · have left : maxResends - t.resends = maxResends - (t.resends + 1) + 1 := by omega
      have refusal := refuse_of_lt again
      have resumed : Prod.fst <$>
          (receive progress { t with resends := t.resends + 1 } : SessionM δ _) = _ :=
        (refused _ refusal (Nat.succ_le_of_lt again) within).trans (if_neg more)
      have told : maxResends - (maxResends - (t.resends + 1)) = t.resends + 1 := by omega
      rw [left, Session.untilArrived, bind_assoc]
      refine bind_congr fun arrived => ?_
      cases arrived with
      | some b =>
        rw [pure_bind]
        exact taken b
      | none =>
        simp only [refusal, told, Session.ofExcept, pure_bind, map_bind, bind_assoc, resumed]
        rfl
    · have none : maxResends - t.resends = 0 := Nat.sub_eq_zero_of_le never
      rw [none, Session.untilArrived, bind_assoc]
      refine bind_congr fun arrived => ?_
      cases arrived with
      | some b =>
        rw [pure_bind]
        exact taken b
      | none =>
        rw [refuse_of_eq (Nat.le_antisymm few never)]
        rfl

theorem readBlocks_eq (progress : Bool) (count : Nat) :
    (Session.readBlocks progress count : SessionM δ Bytes) = (do
      Session.notify (.readingBlocks count (blockCount count))
      Prod.fst <$> receive progress { total := count }) := by
  have start : ({ total := count } : Tally).transferred ≤ count := Nat.zero_le _
  rw [receive_eq progress _ (Nat.zero_le _) start, ← readBlocksFrom_eq progress start rfl]
  rfl

/-- The block at hand is sent as often as it may still be refused, and then the others are. -/
theorem send_cons_eq (t : Tally) (few : t.resends ≤ maxResends) (b : Bytes) (rest : List Bytes)
    (later : ∀ t : Tally, t.resends = 0 →
      (fun _ => ()) <$> (t.send rest : SessionM δ Tally) = Session.writeBlocks t.block rest) :
    (fun _ => ()) <$> (t.send (b :: rest) : SessionM δ Tally) = (do
      Session.untilArrived t.block (Session.sendFrame t.block (blockFrame b)) (pure ())
        (maxResends - t.resends)
      Session.writeBlocks (t.block + 1) rest) := by
  induction chances : maxResends - t.resends generalizing t with
  | zero =>
    rw [send_cons, map_bind, Session.untilArrived, bind_assoc]
    refine bind_congr fun arrived => ?_
    cases arrived with
    | some taken => exact later (t.accept b.length) rfl
    | none =>
      rw [refuse_of_eq (by omega)]
      rfl
  | succ left ih =>
    have refusal := refuse_of_lt (t := t) (by omega)
    have told : maxResends - left = t.resends + 1 := by omega
    have again := ih { t with resends := t.resends + 1 } (by dsimp only; omega)
      (by dsimp only; omega)
    rw [send_cons, map_bind, Session.untilArrived, bind_assoc]
    refine bind_congr fun arrived => ?_
    cases arrived with
    | some taken => exact later (t.accept b.length) rfl
    | none => simp only [refusal, told, Session.ofExcept, pure_bind, map_bind, bind_assoc, again]

/-- **A writer that keeps a tally** writes like one that keeps none. -/
theorem send_eq (t : Tally) (fresh : t.resends = 0) (blocks : List Bytes) :
    (fun _ => ()) <$> (t.send blocks : SessionM δ Tally) = Session.writeBlocks t.block blocks := by
  induction blocks generalizing t with
  | nil => rw [send_nil, map_pure, Session.writeBlocks]
  | cons b rest ih =>
    rw [send_cons_eq t (fresh ▸ Nat.zero_le _) b rest ih, fresh]
    rfl

end

/-! ## What a transfer ends with -/

section

variable {δ α β : Type} {holds : α → Prop}

/-- Whatever the action returns, this holds of it. -/
def Yields (holds : α → Prop) (action : SessionM δ α) : Prop :=
  ∀ s a s', action s = (.ok a, s') → holds a

theorem Yields.bind {later : β → Prop} {action : SessionM δ α} {next : α → SessionM δ β}
    (first : Yields holds action) (second : ∀ a, holds a → Yields later (next a)) :
    Yields later (action >>= next) := by
  intro s b s'' run
  rw [Session.bind_apply] at run
  rcases here : action s with ⟨failure | a, s'⟩
  · rw [here] at run
    cases run
  · rw [here] at run
    exact second a (first s a s' here) s' b s'' run

/-- What comes first may return anything. -/
theorem Yields.after {action : SessionM δ β} {next : β → SessionM δ α}
    (second : ∀ b, Yields holds (next b)) : Yields holds (action >>= next) :=
  Yields.bind (fun _ _ _ _ => trivial) fun b (_ : True) => second b

theorem yields_pure {a : α} (h : holds a) : Yields holds (pure a : SessionM δ α) := by
  intro s a' s' run
  cases run
  exact h

theorem yields_ofExcept (result : Except Failure α) :
    Yields (fun a => result = .ok a) (Session.ofExcept result : SessionM δ α) := by
  intro s a s' run
  cases result with
  | ok b =>
    cases run
    rfl
  | error failure => cases run

variable [Transport δ] {total : Nat} {lengths : List Nat} {t : Tally}

/-- The tally a reader ends with comes about by accepting all blocks. -/
theorem Run.receive (run : Run total lengths t) (progress : Bool) :
    Yields (fun r => Run total (blockLengths total) r.2 ∧ r.2.isComplete)
      (t.receive progress : SessionM δ (Bytes × Tally)) := by
  induction t using Tally.receive.induct generalizing lengths with
  | case1 t complete =>
    rw [receive_of_isComplete progress complete]
    exact yields_pure ⟨run.eq_of_isComplete complete ▸ run, complete⟩
  | case2 t more accepted refused =>
    rw [receive_of_not progress more]
    refine .after fun arrived => ?_
    cases arrived with
    | some b =>
      refine .after fun _ => .after fun _ => (accepted (run.accepted more)).bind fun r ended => ?_
      exact yields_pure ended
    | none =>
      refine (yields_ofExcept t.refuse).bind fun t' again => .after fun _ => .after fun _ => ?_
      exact refused t' again (run.refused again)

/-- So does the tally a writer ends with. -/
theorem Run.send (run : Run total lengths t) {blocks : List Bytes}
    (rest : blocks.map List.length = blockLengths (total - t.transferred)) :
    Yields (fun last => Run total (blockLengths total) last ∧ last.isComplete)
      (t.send blocks : SessionM δ Tally) := by
  induction t, blocks using Tally.send.induct generalizing lengths with
  | case1 t =>
    rw [send_nil]
    have complete : t.isComplete := by
      have none := congrArg List.sum rest
      rw [sum_blockLengths] at none
      rw [isComplete, run.counts.1]
      exact decide_eq_true (Nat.le_of_sub_eq_zero none.symm)
    exact yields_pure ⟨run.eq_of_isComplete complete ▸ run, complete⟩
  | case2 t b blocks accepted refused =>
    have more : total - t.transferred ≠ 0 := by
      intro none
      rw [none, blockLengths_zero] at rest
      cases rest
    rw [blockLengths_of_ne_zero more, List.map_cons, List.cons_eq_cons] at rest
    rw [send_cons]
    refine .after fun arrived => ?_
    cases arrived with
    | some taken =>
      have next : b.length = t.nextLength := by rw [rest.1, nextLength, run.counts.1]
      have more' : ¬ t.isComplete := by
        rw [isComplete, run.counts.1, decide_eq_true_iff]
        omega
      rw [next] at accepted ⊢
      refine accepted (run.accepted more') ?_
      rw [rest.2, accept, nextLength, run.counts.1, Nat.sub_add_eq]
    | none =>
      refine (yields_ofExcept t.refuse).bind fun t' again => .after fun _ => ?_
      refine refused t' again (run.refused again) ?_
      obtain ⟨-, rfl⟩ := refuse_eq_ok.mp again
      rw [List.map_cons, rest.1, rest.2, ← blockLengths_of_ne_zero more]

end

/-- **Blocks are counted alike** by division, by cutting and attempt by attempt. In every run of a
    tally no more is transferred than there is, the blocks are full but for the last one, and the
    transfer is complete with the last of them. Readers and writers make such runs, and come to the
    end with all blocks. -/
theorem blocks_counted_alike (count : Nat) :
    blockCount count = (count + (blockCapacity - 1)) / blockCapacity ∧
    (∀ lengths t, Run count lengths t →
      t.total = count ∧ t.transferred ≤ count ∧
      t.transferred = min (blockCapacity * t.block) count ∧
      t.block = lengths.length ∧ t.transferred = lengths.sum ∧
      (∀ n ∈ lengths, 0 < n) ∧ (∀ n ∈ lengths.dropLast, n = blockCapacity) ∧
      (t.isComplete ↔ t.block = blockCount count) ∧ (t.isComplete → lengths.sum = count)) ∧
    (∃ last, Run count (blockLengths count) last ∧ last.isComplete) ∧
    ∀ {δ : Type} [Transport δ],
      (∀ progress,
        (Session.readBlocks progress count : SessionM δ Bytes) = (do
          Session.notify (.readingBlocks count (blockCount count))
          Prod.fst <$> receive progress { total := count }) ∧
        Yields (fun r => r.2.isComplete ∧ r.2.block = blockCount count)
          (receive progress { total := count } : SessionM δ (Bytes × Tally))) ∧
      ∀ data : Bytes, data.length = count →
        let blocks := Bytes.chunks blockCapacity data
        blocks.length = blockCount count ∧ blocks.map List.length = blockLengths count ∧
        (Session.writeBlocks 0 blocks : SessionM δ Unit) =
          (fun _ => ()) <$> send { total := count } blocks ∧
        Yields (fun last => last.isComplete ∧ last.block = blockCount count)
          (send { total := count } blocks : SessionM δ Tally) := by
  refine ⟨blockCount_eq count, fun lengths t run => ?_, Run.start.exists_complete, ?_⟩
  · obtain ⟨same, -, block, sum, reached⟩ := run.counts
    refine ⟨same, reached ▸ Nat.min_le_right .., reached, block, sum, fun n mem => ?_,
      fun n mem => ?_, run.isComplete_iff, fun complete => ?_⟩
    · exact pos_of_mem_blockLengths (run.lengths_append ▸ List.mem_append_left _ mem)
    · exact eq_of_mem_dropLast_blockLengths (run.mem_dropLast mem)
    · rw [run.eq_of_isComplete complete, sum_blockLengths]
  intro δ _
  have ended {last : Tally} (h : Run count (blockLengths count) last ∧ last.isComplete) :
      last.isComplete ∧ last.block = blockCount count := ⟨h.2, h.1.isComplete_iff.mp h.2⟩
  refine ⟨fun progress => ⟨readBlocks_eq progress count, fun s r s' run => ?_⟩,
    fun data length => ?_⟩
  · exact ended (Run.start.receive progress s r s' run)
  · subst length
    have lengths := map_length_chunks data
    refine ⟨?_, lengths, (send_eq { total := data.length } rfl _).symm, fun s last s' run => ?_⟩
    · rw [← length_blockLengths, ← lengths, List.length_map]
    · exact ended (Run.start.send lengths s last s' run)

/-- Two thousand bytes, with a refusal behind each block. -/
theorem blocks_counted_alike_refused :
    let data : Bytes := .replicate 2000 7
    Run 2000 [900, 900, 200] ⟨2000, 2000, 3, 1⟩ ∧ data.length = 2000 ∧
      (900 ∈ [900, 900, 200].dropLast ∧ 0 < 900) ∧
      (⟨2000, 2000, 3, 1⟩ : Tally).isComplete ∧ [900, 900, 200].sum = 2000 ∧
      (Bytes.chunks blockCapacity data).length = 3 := by
  intro data
  have run : Run 2000 [900, 900, 200] ⟨2000, 2000, 3, 1⟩ := by
    have first : Run 2000 [900] ⟨2000, 900, 1, 1⟩ := .refused (.accepted .start (by decide)) rfl
    have second : Run 2000 [900, 900] ⟨2000, 1800, 2, 1⟩ :=
      .refused (.accepted first (by decide)) rfl
    exact .refused (.accepted second (by decide)) rfl
  have length : data.length = 2000 := List.length_replicate
  obtain ⟨-, runs, -, transfers⟩ := blocks_counted_alike 2000
  obtain ⟨-, -, -, -, -, pos, -, complete, whole⟩ := runs _ _ run
  obtain ⟨-, writes⟩ := transfers (δ := Scripted)
  have all : (⟨2000, 2000, 3, 1⟩ : Tally).isComplete := complete.mpr rfl
  exact ⟨run, length, ⟨by decide, pos 900 (by decide)⟩, all, whole all, (writes data length).1⟩

end Tally
end SerialIsp
