import SerialIsp.Proofs.Dialogue.Replies

/-!
# Lines

What a line is, apart from any way of reading one: text without a line end, then a mark that
ends it, then the rest. A carriage return is a mark by itself only where the byte after it is
there and is no line feed, which is why the rest belongs to the definition.

The dialogues that read lines are settled by it in both directions. What they come to on a
first line is said, and so is what the input was if they came to something. No two lines open
the same input, and there are three cases only: there is a first line that fits, there are too
many bytes without a line end, or the input ends before either is known.
-/

namespace SerialIsp

/-! ## The definition -/

/-- Text without a line end in it. -/
def Unbroken (text : Bytes) : Prop := ∀ c ∈ text, c ≠ Bytes.cr ∧ c ≠ Bytes.lf

instance (text : Bytes) : Decidable (Unbroken text) :=
  inferInstanceAs (Decidable (∀ c ∈ text, c ≠ Bytes.cr ∧ c ≠ Bytes.lf))

/-- The marks that end a line in front of the rest. -/
inductive LineMark : (mark rest : Bytes) → Prop
  | crlf (rest : Bytes) : LineMark [Bytes.cr, Bytes.lf] rest
  | lf (rest : Bytes) : LineMark [Bytes.lf] rest
  | cr {c : UInt8} (rest : Bytes) (other : c ≠ Bytes.lf) : LineMark [Bytes.cr] (c :: rest)

/-- Some input opens with a line, and this is the rest. -/
structure FirstLine (text input rest : Bytes) : Prop where
  unbroken : Unbroken text
  marked : ∃ mark, LineMark mark rest ∧ input = text ++ mark ++ rest

theorem unbroken_nil : Unbroken [] := nofun

theorem unbroken_cons {c : UInt8} {text : Bytes} :
    Unbroken (c :: text) ↔ (c ≠ Bytes.cr ∧ c ≠ Bytes.lf) ∧ Unbroken text := List.forall_mem_cons

theorem firstLine_of_mark {text mark rest : Bytes} (unbroken : Unbroken text)
    (marks : LineMark mark rest) : FirstLine text (text ++ mark ++ rest) rest :=
  ⟨unbroken, mark, marks, rfl⟩

/-- Some input opens with the reply to a command, and this is the rest: two bytes and a line,
    of which the leading digits of the first three bytes are a number. -/
def StatusReply (input rest : Bytes) : Prop :=
  ∃ a b c more code, input = a :: b :: c :: more ∧
    Text.readNumber 10 Text.limit32
      (([a, b, c].takeWhile Session.isDigit).map fun d => Char.ofNat d.toNat) = .ok code ∧
    ∃ text, FirstLine text (c :: more) rest

/-! ## Its first byte -/

theorem not_firstLine_nil {text rest : Bytes} : ¬ FirstLine text [] rest := by
  rintro ⟨-, mark, marks, input⟩
  cases marks <;> simp at input

theorem firstLine_lf {text input rest : Bytes} :
    FirstLine text (Bytes.lf :: input) rest ↔ text = [] ∧ input = rest := by
  constructor
  · rintro ⟨unbroken, mark, marks, same⟩
    cases text with
    | nil =>
      refine ⟨rfl, ?_⟩
      cases marks with
      | crlf rest => exact absurd (List.cons.inj same).1 (by decide)
      | lf rest => exact (List.cons.inj same).2
      | cr rest other => exact absurd (List.cons.inj same).1 (by decide)
    | cons c text => exact absurd (List.cons.inj same).1.symm (unbroken_cons.mp unbroken).1.2
  · rintro ⟨rfl, rfl⟩
    exact firstLine_of_mark unbroken_nil (.lf _)

theorem firstLine_cr {text input rest : Bytes} :
    FirstLine text (Bytes.cr :: input) rest ↔
      text = [] ∧ (Dialogue.lineEnd input).close = .done () rest := by
  constructor
  · rintro ⟨unbroken, mark, marks, same⟩
    cases text with
    | nil =>
      refine ⟨rfl, ?_⟩
      cases marks with
      | crlf rest =>
        obtain rfl := (List.cons.inj same).2
        rfl
      | lf rest => exact absurd (List.cons.inj same).1 (by decide)
      | cr rest other =>
        obtain rfl := (List.cons.inj same).2
        simp [Dialogue.lineEnd, other]
    | cons c text => exact absurd (List.cons.inj same).1.symm (unbroken_cons.mp unbroken).1.1
  · rintro ⟨rfl, ended⟩
    cases input with
    | nil => cases ended
    | cons c input =>
      by_cases lf : c = Bytes.lf
      · simp only [Dialogue.lineEnd, lf, ↓reduceIte] at ended
        cases ended
        exact lf ▸ firstLine_of_mark unbroken_nil (.crlf _)
      · simp only [Dialogue.lineEnd, lf, ↓reduceIte] at ended
        cases ended
        exact firstLine_of_mark unbroken_nil (.cr _ lf)

theorem firstLine_cons {c : UInt8} (notCr : c ≠ Bytes.cr) (notLf : c ≠ Bytes.lf)
    {text input rest : Bytes} : FirstLine text (c :: input) rest ↔
      ∃ text', text = c :: text' ∧ FirstLine text' input rest := by
  constructor
  · rintro ⟨unbroken, mark, marks, same⟩
    cases text with
    | nil =>
      cases marks with
      | crlf rest => exact absurd (List.cons.inj same).1 notCr
      | lf rest => exact absurd (List.cons.inj same).1 notLf
      | cr rest other => exact absurd (List.cons.inj same).1 notCr
    | cons d text =>
      obtain ⟨rfl, same⟩ := List.cons.inj same
      exact ⟨text, rfl, (unbroken_cons.mp unbroken).2, mark, marks, by simpa using same⟩
  · rintro ⟨text, rfl, unbroken, mark, marks, rfl⟩
    exact ⟨unbroken_cons.mpr ⟨⟨notCr, notLf⟩, unbroken⟩, mark, marks, rfl⟩

theorem FirstLine.length_lt {text input rest : Bytes} (first : FirstLine text input rest) :
    rest.length < input.length := by
  obtain ⟨-, mark, marks, rfl⟩ := first
  have ended : 0 < mark.length := by cases marks <;> exact Nat.succ_pos _
  rw [List.length_append, List.length_append]
  omega

/-! ## Reading one -/

namespace Dialogue

/-- **The rest of a line** is read up to its end. -/
theorem lineRest_done {input rest : Bytes} {u : Unit} :
    (lineRest input).close = .done u rest ↔ ∃ text, FirstLine text input rest := by
  induction input with
  | nil =>
    constructor
    · intro ended
      cases ended
    · rintro ⟨text, line⟩
      exact absurd line not_firstLine_nil
  | cons c input ih =>
    rw [lineRest]
    by_cases lf : c = Bytes.lf
    · simp only [lf, ↓reduceIte, firstLine_lf, Close.done.injEq, true_and, exists_eq_left]
    by_cases cr : c = Bytes.cr
    · have notLf : Bytes.cr ≠ Bytes.lf := by decide
      simp only [cr, notLf, ↓reduceIte, firstLine_cr, exists_eq_left]
    · simp only [lf, cr, ↓reduceIte, ih, firstLine_cons cr lf]
      constructor
      · rintro ⟨text, line⟩
        exact ⟨c :: text, text, rfl, line⟩
      · rintro ⟨-, text, -, line⟩
        exact ⟨text, line⟩

/-- It does not fail. -/
theorem lineRest_not_failed (input : Bytes) (failure : Failure) (rest : Bytes) :
    (lineRest input).close ≠ .failed failure rest := by
  induction input with
  | nil =>
    intro ended
    cases ended
  | cons c input ih =>
    rw [lineRest]
    split
    · intro ended
      cases ended
    · split
      · intro ended
        cases input <;> cases ended
      · exact ih

/-- What reading on in a line comes to by its first byte. -/
theorem lineFrom_cons {c : UInt8} (notCr : c ≠ Bytes.cr) (notLf : c ≠ Bytes.lf)
    (line input : Bytes) (room : Nat) : lineFrom line room (c :: input) =
      match room with
      | 0 => ⟨[], .failed (.connecting (.malformedReply (Text.Utf8.lossy (line ++ [c])))) input⟩
      | room + 1 => lineFrom (line ++ [c]) room input := by
  cases room with
  | zero =>
    rw [lineFrom, bind_done (rfl : byte (c :: input) = _)]
    simp only [notCr, notLf, ↓reduceIte]
    rfl
  | succ room =>
    rw [lineFrom, bind_done (rfl : byte (c :: input) = _)]
    simp only [notCr, notLf, ↓reduceIte, List.nil_append]

theorem lineFrom_lf (line input : Bytes) (room : Nat) :
    lineFrom line room (Bytes.lf :: input) = ⟨[], .done line input⟩ := by
  cases room <;> rfl

theorem lineFrom_cr (line input : Bytes) (room : Nat) :
    lineFrom line room (Bytes.cr :: input) = (do lineEnd; return line : Dialogue Bytes) input := by
  have notLf : Bytes.cr ≠ Bytes.lf := by decide
  cases room <;>
  · rw [lineFrom, bind_done (rfl : byte (Bytes.cr :: input) = _)]
    simp only [notLf, ↓reduceIte, List.nil_append]

/-- **Reading on in a line** comes to its text, if there is room for it. -/
theorem lineFrom_done {line whole input rest : Bytes} {room : Nat} :
    (lineFrom line room input).close = .done whole rest ↔
      ∃ text, FirstLine text input rest ∧ text.length ≤ room ∧ whole = line ++ text := by
  induction input generalizing line room with
  | nil =>
    constructor
    · intro ended
      cases room <;> cases ended
    · rintro ⟨text, first, -⟩
      exact absurd first not_firstLine_nil
  | cons c input ih =>
    by_cases lf : c = Bytes.lf
    · subst lf
      simp only [lineFrom_lf, firstLine_lf, Close.done.injEq]
      constructor
      · rintro ⟨rfl, rfl⟩
        exact ⟨[], ⟨rfl, rfl⟩, Nat.zero_le _, (List.append_nil _).symm⟩
      · rintro ⟨-, ⟨rfl, rfl⟩, -, rfl⟩
        exact ⟨(List.append_nil _).symm, rfl⟩
    by_cases cr : c = Bytes.cr
    · subst cr
      rw [lineFrom_cr, bind_pure_apply lineEnd (fun _ => line)]
      simp only [firstLine_cr]
      simp only [Close.map_eq_done]
      constructor
      · rintro ⟨u, ended, rfl⟩
        exact ⟨[], ⟨rfl, ended⟩, Nat.zero_le _, (List.append_nil _).symm⟩
      · rintro ⟨-, ⟨rfl, ended⟩, -, rfl⟩
        exact ⟨(), ended, List.append_nil _⟩
    · rw [lineFrom_cons cr lf]
      simp only [firstLine_cons cr lf]
      cases room with
      | zero =>
        constructor
        · intro ended
          cases ended
        · rintro ⟨-, ⟨text, rfl, -⟩, fits, -⟩
          exact absurd fits (Nat.not_succ_le_zero _)
      | succ room =>
        dsimp only
        rw [ih]
        constructor
        · rintro ⟨text, first, fits, rfl⟩
          exact ⟨c :: text, ⟨text, rfl, first⟩, Nat.succ_le_succ fits, by simp⟩
        · rintro ⟨-, ⟨text, rfl, first⟩, fits, rfl⟩
          exact ⟨text, first, Nat.le_of_succ_le_succ fits, by simp⟩

/-- **Too many bytes without a line end** are a malformed reply, and no byte more is read. -/
theorem lineFrom_failed {line input rest : Bytes} {room : Nat} {failure : Failure} :
    (lineFrom line room input).close = .failed failure rest ↔
      ∃ text, Unbroken text ∧ text.length = room + 1 ∧ input = text ++ rest ∧
        failure = .connecting (.malformedReply (Text.Utf8.lossy (line ++ text))) := by
  induction input generalizing line room with
  | nil =>
    constructor
    · intro ended
      cases room <;> cases ended
    · rintro ⟨text, -, many, same, -⟩
      rw [(List.append_eq_nil_iff.mp same.symm).1] at many
      cases many
  | cons c input ih =>
    -- text that opens with a line end is none
    have broken (mark : c = Bytes.lf ∨ c = Bytes.cr) : ¬ ∃ text, Unbroken text ∧
        text.length = room + 1 ∧ c :: input = text ++ rest ∧
        failure = .connecting (.malformedReply (Text.Utf8.lossy (line ++ text))) := by
      rintro ⟨text, unbroken, many, same, -⟩
      cases text with
      | nil => cases many
      | cons d text =>
        obtain ⟨rfl, -⟩ := List.cons.inj same
        have plain := (unbroken_cons.mp unbroken).1
        exact mark.elim plain.2 plain.1
    by_cases lf : c = Bytes.lf
    · refine iff_of_false ?_ (broken (.inl lf))
      rw [lf, lineFrom_lf]
      exact nofun
    by_cases cr : c = Bytes.cr
    · refine iff_of_false ?_ (broken (.inr cr))
      rw [cr, lineFrom_cr, bind_pure_apply lineEnd (fun _ => line)]
      cases input <;> exact nofun
    · rw [lineFrom_cons cr lf]
      cases room with
      | zero =>
        constructor
        · intro ended
          cases ended
          exact ⟨[c], unbroken_cons.mpr ⟨⟨cr, lf⟩, unbroken_nil⟩, rfl, rfl, rfl⟩
        · rintro ⟨text, -, many, same, rfl⟩
          obtain ⟨d, rfl⟩ := List.length_eq_one_iff.mp many
          obtain ⟨rfl, rfl⟩ := List.cons.inj same
          rfl
      | succ room =>
        dsimp only
        rw [ih]
        constructor
        · rintro ⟨text, unbroken, many, rfl, rfl⟩
          exact ⟨c :: text, unbroken_cons.mpr ⟨⟨cr, lf⟩, unbroken⟩, by simp [many], rfl, by simp⟩
        · rintro ⟨text, unbroken, many, same, rfl⟩
          cases text with
          | nil => cases many
          | cons d text =>
            obtain ⟨rfl, rfl⟩ := List.cons.inj same
            exact ⟨text, (unbroken_cons.mp unbroken).2, Nat.succ.inj many, rfl, by simp⟩

theorem line_eq (input : Bytes) :
    (line input).close = (lineFrom [] Session.lineLimit input).close.map Text.Utf8.lossy := by
  rw [line, bind_pure_apply]

/-- **A line** is read as text. -/
theorem line_done {input rest : Bytes} {reply : String} :
    (line input).close = .done reply rest ↔ ∃ text, FirstLine text input rest ∧
      text.length ≤ Session.lineLimit ∧ reply = Text.Utf8.lossy text := by
  rw [line_eq, Close.map_eq_done]
  constructor
  · rintro ⟨text, ended, rfl⟩
    obtain ⟨text, first, fits, rfl⟩ := lineFrom_done.mp ended
    exact ⟨text, first, fits, rfl⟩
  · rintro ⟨text, first, fits, rfl⟩
    exact ⟨text, lineFrom_done.mpr ⟨text, first, fits, rfl⟩, rfl⟩

theorem line_failed {input rest : Bytes} {failure : Failure} :
    (line input).close = .failed failure rest ↔ ∃ text, Unbroken text ∧
      text.length = Session.lineLimit + 1 ∧ input = text ++ rest ∧
      failure = .connecting (.malformedReply (Text.Utf8.lossy text)) := by
  rw [line_eq, Close.map_eq_failed, lineFrom_failed]
  simp only [List.nil_append]

/-- **A number** is read off a line that holds it. -/
theorem number_done {input rest : Bytes} {n : UInt32} :
    (number input).close = .done n rest ↔ ∃ text m, FirstLine text input rest ∧
      text.length ≤ Session.lineLimit ∧ n = m.toUInt32 ∧
      Text.readNumber 10 Text.limit32 (Text.trim (Text.Utf8.lossy text).toList) = .ok m := by
  simp only [number, close_bind_done, line_done]
  constructor
  · rintro ⟨_, between, ⟨text, first, fits, rfl⟩, ended⟩
    cases told : Text.readNumber 10 Text.limit32 (Text.trim (Text.Utf8.lossy text).toList) with
    | ok m =>
      rw [told] at ended
      cases ended
      exact ⟨text, m, first, fits, rfl, told⟩
    | error fault =>
      rw [told] at ended
      cases ended
  · rintro ⟨text, m, first, fits, rfl, told⟩
    refine ⟨_, rest, ⟨text, first, fits, rfl⟩, ?_⟩
    rw [told]
    rfl

theorem status_cons (a b c : UInt8) (more : Bytes) : status (a :: b :: c :: more) =
    match Text.readNumber 10 Text.limit32
      (([a, b, c].takeWhile Session.isDigit).map fun d => Char.ofNat d.toNat) with
    | .ok code =>
      (lineRest >>= fun _ => pure (.ofValue code.toUInt32) : Dialogue Wire.Status) (c :: more)
    | .error _ =>
      ⟨[], .failed (.connecting (.malformedReply (Text.Utf8.lossy [a, b, c]))) more⟩ := by
  have first : take Session.statusLength (a :: b :: c :: more) = ⟨[], .done [a, b, c] more⟩ :=
    take_append [a, b, c] more
  -- the third byte opens the line whose end is looked for
  have tail (value : Wire.Status) : (if c = Bytes.lf then pure value
      else if c = Bytes.cr then lineEnd >>= fun _ => pure value
      else lineRest >>= fun _ => pure value : Dialogue Wire.Status) more =
        (lineRest >>= fun _ => pure value) (c :: more) := by
    rw [bind_apply lineRest, lineRest]
    split
    · rfl
    · split <;> rfl
  rw [status, bind_done first]
  cases told : Text.readNumber 10 Text.limit32
      (([a, b, c].takeWhile Session.isDigit).map fun d => Char.ofNat d.toNat) with
  | error fault => rfl
  | ok code =>
    have last : [a, b, c].getLastD 0 = c := rfl
    simp only [last, tail]
    rfl

/-- **A status** is read off the front of a reply, up to the end of its line. -/
theorem status_done {input rest : Bytes} :
    (∃ status', (status input).close = .done status' rest) ↔ StatusReply input rest := by
  rcases input with _ | ⟨a, _ | ⟨b, _ | ⟨c, more⟩⟩⟩
  iterate 3
    · constructor
      · rintro ⟨_, ended⟩
        cases ended
      · rintro ⟨_, _, _, _, _, same, -⟩
        simp at same
  rw [status_cons]
  cases told : Text.readNumber 10 Text.limit32
      (([a, b, c].takeWhile Session.isDigit).map fun d => Char.ofNat d.toNat) with
  | error fault =>
    constructor
    · rintro ⟨_, ended⟩
      cases ended
    · rintro ⟨a', b', c', more', code, same, told', -⟩
      simp only [List.cons.injEq] at same
      obtain ⟨rfl, rfl, rfl, rfl⟩ := same
      cases told.symm.trans told'
  | ok code =>
    simp only [bind_pure_apply lineRest fun _ => Wire.Status.ofValue code.toUInt32]
    simp only [Close.map_eq_done]
    constructor
    · rintro ⟨status', u, ended, -⟩
      exact ⟨a, b, c, more, code, rfl, told, lineRest_done.mp ended⟩
    · rintro ⟨a', b', c', more', code', same, -, line⟩
      simp only [List.cons.injEq] at same
      obtain ⟨rfl, rfl, rfl, rfl⟩ := same
      exact ⟨_, (), lineRest_done.mpr line, rfl⟩

end Dialogue

end SerialIsp
