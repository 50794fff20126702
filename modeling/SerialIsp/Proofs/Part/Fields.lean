import SerialIsp.Proofs.Part.Lines
import SerialIsp.Proofs.Text.Literals

/-!
# Records field by field

A record is read from left to right, and each field is checked by itself. `faults` lists all that
is wrong with the fields of a record, in the order they stand in, and reading is looking at the
head of that list (`takePart_eq`): the first fault is told, or there is none and the part is the
one that the fields describe. There is none where the record is well-formed, which says of each
field what it has to be (`faults_eq_nil_iff`).

A missing sector count is told before it could be zero, so that the last check of all may look at
a number that was read.
-/

namespace SerialIsp.Part

open Text

/-- The fields of a line, without the blanks around them. -/
def fieldsOf (line : List Char) : List (List Char) := (splitAtChar ',' (trim line)).map trim

theorem fieldsOf_ne_nil (line : List Char) : fieldsOf line ≠ [] := by
  rw [fieldsOf, Ne, List.map_eq_nil_iff]
  exact splitAtChar_ne_nil ',' _

namespace Field

/-- The numeric fields, from left to right. -/
def all : List Field := [
  .flashBase, .flashSize, .flashSectors, .resetVectorOffset, .ramBase, .ramSize,
  .ramBufferOffset, .ramBufferSize, .encodedFlag]

/-- Where a numeric field stands. -/
def position : Field → Nat
  | .flashBase => 2
  | .flashSize => 3
  | .flashSectors => 4
  | .resetVectorOffset => 5
  | .ramBase => 6
  | .ramSize => 7
  | .ramBufferOffset => 8
  | .ramBufferSize => 9
  | .encodedFlag => 10

theorem mem_all (field : Field) : field ∈ all := by
  cases field <;> decide

end Field

/-! ## Checks -/

section

variable (read : LiteralReader) (fields : List (List Char))

/-- The identifier that the first field tells. -/
def idOf : UInt64 :=
  match read limit64 (fields.headD []) with
  | .ok n => n.toUInt64
  | .error _ => 0

def idFault : Option RecordFault :=
  match read limit64 (fields.headD []) with
  | .ok _ => none
  | .error _ => some (.badPartId (String.ofList (fields.headD [])))

def nameOf : String := String.ofList (fields.getD 1 [])

def nameFault : Option RecordFault :=
  match fields[1]? with
  | none => some .nameMissing
  | some [] => some .nameMissing
  | some text =>
    if ¬ nameMarker.toList <+: text then some (.nameUnmarked (String.ofList text))
    else if nameCapacity < (String.ofList text).utf8ByteSize then
      some (.nameTooLong (String.ofList text))
    else none

/-- The number that a field tells. -/
def valueOf (field : Field) : UInt32 :=
  match read limit32 (fields.getD field.position []) with
  | .ok n => n.toUInt32
  | .error _ => 0

def valueFault (field : Field) : Option RecordFault :=
  match fields[field.position]? with
  | none => some (.fieldMissing field)
  | some text =>
    match read limit32 text with
    | .ok _ => none
    | .error _ => some (.fieldInvalid field (String.ofList text))

def sectorFault : Option RecordFault :=
  match read limit32 (fields.getD Field.flashSectors.position []) with
  | .ok 0 => some .noSectors
  | _ => none

/-- All that is wrong with the fields of a record, in the order it is looked for. -/
def faults : List RecordFault :=
  (idFault read fields :: nameFault fields :: Field.all.map (valueFault read fields) ++
    [sectorFault read fields]).filterMap fun fault => fault

/-- The part that the fields of a record describe. -/
def described : Part where
  id := idOf read fields
  name := nameOf fields
  flashBase := valueOf read fields .flashBase
  flashSize := valueOf read fields .flashSize
  flashSectors := valueOf read fields .flashSectors
  resetVectorOffset := valueOf read fields .resetVectorOffset
  ramBase := valueOf read fields .ramBase
  ramSize := valueOf read fields .ramSize
  ramBufferOffset := valueOf read fields .ramBufferOffset
  ramBufferSize := valueOf read fields .ramBufferSize
  encoding := if valueOf read fields .encodedFlag = 0 then .raw else .lines

/-- What a record has to be. -/
structure WellFormed : Prop where
  id : ∃ text n, fields[0]? = some text ∧ read limit64 text = .ok n
  name : ∃ text, fields[1]? = some text ∧ ['L', 'P', 'C'] <+: text ∧
    (String.ofList text).utf8ByteSize ≤ 24
  values : ∀ field : Field, ∃ text n, fields[field.position]? = some text ∧
    read limit32 text = .ok n ∧ (field = .flashSectors → n ≠ 0)

end

/-! ## Reading -/

/-- Goes on with a result where there is no fault. -/
def unlessFault {α : Type} (fault : Option RecordFault) (result : Except RecordFault α) :
    Except RecordFault α :=
  match fault with
  | some fault => .error fault
  | none => result

section

variable {α β : Type} {read : LiteralReader} {fields : List (List Char)}

/-- Faults come one after the other. -/
theorem unlessFault_head? (fault : Option RecordFault) (later : List (Option RecordFault))
    (result : Except RecordFault α) :
    unlessFault ((fault :: later).filterMap fun fault => fault).head? result =
      unlessFault fault (unlessFault (later.filterMap fun fault => fault).head? result) := by
  cases fault <;> rfl

theorem unlessFault_congr {fault : Option RecordFault} {a b : Except RecordFault α}
    (same : fault = none → a = b) : unlessFault fault a = unlessFault fault b := by
  cases fault with
  | none => exact same rfl
  | some fault => rfl

/-- An action that may fail with a fault, in front of others. -/
theorem bind_unlessFault {action : StateT (List (List Char)) (Except RecordFault) α}
    {rest after : List (List Char)} {fault : Option RecordFault} {a : α}
    (step : action rest = unlessFault fault (.ok (a, after)))
    (next : α → StateT (List (List Char)) (Except RecordFault) β) :
    (action >>= next) rest = unlessFault fault (next a after) := by
  show (action rest >>= fun out => next out.1 out.2) = _
  rw [step]
  cases fault <;> rfl

theorem takeId_eq : takeId read fields =
    unlessFault (idFault read fields) (.ok (idOf read fields, fields.tail)) := by
  show (match read limit64 (fields.headD []) with
    | .ok n => pure n.toUInt64
    | .error _ => throw (.badPartId (String.ofList (fields.headD []))) :
      StateT (List (List Char)) (Except RecordFault) UInt64) fields.tail = _
  rw [idFault, idOf]
  cases read limit64 (fields.headD []) <;> rfl

theorem takeName_eq :
    takeName fields.tail =
      unlessFault (nameFault fields) (.ok (nameOf fields, fields.drop 2)) := by
  match fields with
  | [] => rfl
  | [_] => rfl
  | _ :: [] :: _ => rfl
  | _ :: (c :: text) :: rest =>
    have marker : nameMarker.toList.isPrefixOf (c :: text) =
        decide (nameMarker.toList <+: c :: text) :=
      Bool.eq_iff_iff.mpr (by rw [List.isPrefixOf_iff_prefix, decide_eq_true_iff])
    have checks : takeName ((c :: text) :: rest) = (do
        if !nameMarker.toList.isPrefixOf (c :: text) then
          throw (.nameUnmarked (String.ofList (c :: text)))
        if (String.ofList (c :: text)).utf8ByteSize > nameCapacity then
          throw (.nameTooLong (String.ofList (c :: text)))
        return String.ofList (c :: text) :
          StateT (List (List Char)) (Except RecordFault) String) rest := rfl
    rw [List.tail_cons, checks, marker, nameFault, List.getElem?_cons_succ,
      List.getElem?_cons_zero]
    by_cases marked : nameMarker.toList <+: c :: text
    · by_cases long : nameCapacity < (String.ofList (c :: text)).utf8ByteSize
      · simp only [marked, long]
        rfl
      · simp only [marked, long]
        rfl
    · simp only [marked]
      rfl

theorem takeNumber_eq (field : Field) : takeNumber read field (fields.drop field.position) =
    unlessFault (valueFault read fields field)
      (.ok (valueOf read fields field, fields.drop (field.position + 1))) := by
  rw [valueFault, valueOf, List.getD_eq_getElem?_getD, ← List.head?_drop, ← List.tail_drop]
  cases fields.drop field.position with
  | nil => rfl
  | cons text rest =>
    show (match read limit32 text with
      | .ok n => pure n.toUInt32
      | .error _ => throw (.fieldInvalid field (String.ofList text)) :
        StateT (List (List Char)) (Except RecordFault) UInt32) rest = _
    simp only [List.head?_cons, Option.getD_some]
    cases read limit32 text <;> rfl

theorem exists_of_valueFault_eq_none (literate : Literate read) {field : Field}
    (sound : valueFault read fields field = none) :
    ∃ text n, fields[field.position]? = some text ∧ read limit32 text = .ok n ∧
      n < limit32 ∧ valueOf read fields field = n.toUInt32 := by
  rw [valueFault] at sound
  rw [valueOf, List.getD_eq_getElem?_getD]
  cases there : fields[field.position]? with
  | none =>
    rw [there] at sound
    cases sound
  | some text =>
    rw [there] at sound
    cases told : read limit32 text with
    | error fault =>
      simp only [told] at sound
      cases sound
    | ok n =>
      refine ⟨text, n, rfl, told, literate.below (by decide) told, ?_⟩
      rw [Option.getD_some, told]

theorem toUInt32_eq_zero {n : Nat} (small : n < limit32) : n.toUInt32 = 0 ↔ n = 0 := by
  rw [← UInt32.toNat_inj, UInt32.toNat_ofNat_of_lt' small]
  rfl

theorem sectorFault_eq (literate : Literate read)
    (sound : valueFault read fields .flashSectors = none) : sectorFault read fields =
      if valueOf read fields .flashSectors = 0 then some .noSectors else none := by
  obtain ⟨text, n, there, told, small, value⟩ := exists_of_valueFault_eq_none literate sound
  rw [sectorFault, value, List.getD_eq_getElem?_getD, there, Option.getD_some, told]
  by_cases zero : n = 0
  · rw [zero]
    rfl
  · rw [if_neg (mt (toUInt32_eq_zero small).mp zero)]
    cases n with
    | zero => exact absurd rfl zero
    | succ n => rfl

/-- **The first fault is told**, or the fields describe a part. -/
theorem takePart_eq (literate : Literate read) : takePart read fields =
    unlessFault (faults read fields).head? (.ok (described read fields, fields.drop 11)) := by
  rw [faults, takePart]
  simp only [Field.all, List.map_cons, List.map_nil, List.cons_append, List.nil_append,
    unlessFault_head?]
  refine (bind_unlessFault takeId_eq _).trans (congrArg _ ?_)
  refine (bind_unlessFault takeName_eq _).trans (congrArg _ ?_)
  refine (bind_unlessFault (takeNumber_eq .flashBase) _).trans (congrArg _ ?_)
  refine (bind_unlessFault (takeNumber_eq .flashSize) _).trans (congrArg _ ?_)
  -- that the sectors are read is needed where they are checked
  refine (bind_unlessFault (takeNumber_eq .flashSectors) _).trans
    (unlessFault_congr fun sectors => ?_)
  refine (bind_unlessFault (takeNumber_eq .resetVectorOffset) _).trans (congrArg _ ?_)
  refine (bind_unlessFault (takeNumber_eq .ramBase) _).trans (congrArg _ ?_)
  refine (bind_unlessFault (takeNumber_eq .ramSize) _).trans (congrArg _ ?_)
  refine (bind_unlessFault (takeNumber_eq .ramBufferOffset) _).trans (congrArg _ ?_)
  refine (bind_unlessFault (takeNumber_eq .ramBufferSize) _).trans (congrArg _ ?_)
  refine (bind_unlessFault (takeNumber_eq .encodedFlag) _).trans (congrArg _ ?_)
  rw [sectorFault_eq literate sectors]
  by_cases none : valueOf read fields .flashSectors = 0
  · rw [if_pos none, if_pos none]
    rfl
  · rw [if_neg none, if_neg none]
    rfl

/-! ## What is accepted -/

theorem idFault_eq_none_iff (ne : fields ≠ []) : idFault read fields = none ↔
    ∃ text n, fields[0]? = some text ∧ read limit64 text = .ok n := by
  cases fields with
  | nil => exact absurd rfl ne
  | cons text rest =>
    rw [idFault, List.headD_cons]
    cases told : read limit64 text with
    | error fault =>
      refine iff_of_false nofun ?_
      rintro ⟨_, _, ⟨⟩, ok⟩
      rw [told] at ok
      cases ok
    | ok n => exact iff_of_true rfl ⟨text, n, rfl, told⟩

theorem nameFault_eq_none_iff : nameFault fields = none ↔
    ∃ text, fields[1]? = some text ∧ ['L', 'P', 'C'] <+: text ∧
      (String.ofList text).utf8ByteSize ≤ 24 := by
  rw [nameFault]
  cases fields[1]? with
  | none =>
    refine iff_of_false nofun ?_
    rintro ⟨_, there, -⟩
    cases there
  | some text =>
    cases text with
    | nil =>
      refine iff_of_false nofun ?_
      rintro ⟨_, ⟨⟩, marked, -⟩
      cases List.prefix_nil.mp marked
    | cons c text =>
      show (if ¬ ['L', 'P', 'C'] <+: c :: text then _
        else if 24 < (String.ofList (c :: text)).utf8ByteSize then _ else none) = none ↔ _
      by_cases marked : ['L', 'P', 'C'] <+: c :: text
      · rw [if_neg (Decidable.not_not.mpr marked)]
        by_cases long : 24 < (String.ofList (c :: text)).utf8ByteSize
        · rw [if_pos long]
          refine iff_of_false nofun ?_
          rintro ⟨_, ⟨⟩, -, short⟩
          exact Nat.not_lt.mpr short long
        · rw [if_neg long]
          exact iff_of_true rfl ⟨_, rfl, marked, Nat.not_lt.mp long⟩
      · rw [if_pos marked]
        refine iff_of_false nofun ?_
        rintro ⟨_, ⟨⟩, found, -⟩
        exact marked found

theorem valueFault_eq_none_iff (literate : Literate read) (field : Field) :
    valueFault read fields field = none ↔
      ∃ text n, fields[field.position]? = some text ∧ read limit32 text = .ok n := by
  refine ⟨fun sound => ?_, ?_⟩
  · obtain ⟨text, n, there, told, -⟩ := exists_of_valueFault_eq_none literate sound
    exact ⟨text, n, there, told⟩
  · rintro ⟨text, n, there, told⟩
    simp only [valueFault, there, told]

theorem sectorFault_eq_none_iff {text : List Char} {n : Nat}
    (there : fields[Field.flashSectors.position]? = some text)
    (told : read limit32 text = .ok n) : sectorFault read fields = none ↔ n ≠ 0 := by
  rw [sectorFault, List.getD_eq_getElem?_getD, there, Option.getD_some, told]
  cases n with
  | zero => exact iff_of_false nofun (absurd rfl)
  | succ n => exact iff_of_true rfl nofun

/-- **A record is accepted when it is well-formed.** -/
theorem faults_eq_nil_iff (literate : Literate read) (ne : fields ≠ []) :
    faults read fields = [] ↔ WellFormed read fields := by
  have each : faults read fields = [] ↔ idFault read fields = none ∧ nameFault fields = none ∧
      (∀ field, valueFault read fields field = none) ∧ sectorFault read fields = none := by
    rw [faults, List.filterMap_eq_nil_iff, List.forall_mem_append, List.forall_mem_cons,
      List.forall_mem_cons, List.forall_mem_map, List.forall_mem_singleton, and_assoc, and_assoc]
    refine and_congr_right' (and_congr_right' (and_congr_left' ?_))
    exact ⟨fun h field => h field field.mem_all, fun h field _ => h field⟩
  rw [each, idFault_eq_none_iff ne, nameFault_eq_none_iff]
  refine ⟨fun ⟨id, name, values, sectors⟩ => ⟨id, name, fun field => ?_⟩,
    fun ⟨id, name, values⟩ => ⟨id, name, fun field => ?_, ?_⟩⟩
  · obtain ⟨text, n, there, told⟩ := (valueFault_eq_none_iff literate field).mp (values field)
    refine ⟨text, n, there, told, ?_⟩
    rintro rfl
    exact (sectorFault_eq_none_iff there told).mp sectors
  · obtain ⟨text, n, there, told, -⟩ := values field
    exact (valueFault_eq_none_iff literate field).mpr ⟨text, n, there, told⟩
  · obtain ⟨text, n, there, told, positive⟩ := values .flashSectors
    exact (sectorFault_eq_none_iff there told).mpr (positive rfl)

end

/-! ## Lines -/

/-- A line that is neither blank nor a comment. -/
def HoldsRecord (line : List Char) : Prop :=
  trim line ≠ [] ∧ (trim line).head? ≠ some '#'

instance : DecidablePred HoldsRecord := fun _ => inferInstanceAs (Decidable (_ ∧ _))

theorem ofRecord_eq {read : LiteralReader} (literate : Literate read) (line : List Char) :
    ofRecord read (trim line) =
      unlessFault (faults read (fieldsOf line)).head? (.ok (described read (fieldsOf line))) := by
  show (·.1) <$> takePart read (fieldsOf line) = _
  rw [takePart_eq literate]
  cases (faults read (fieldsOf line)).head? <;> rfl

theorem ofLine?_of_holdsRecord (read : LiteralReader) {line : List Char}
    (holds : HoldsRecord line) :
    ofLine? read line = some (ofRecord read (trim line)) := by
  obtain ⟨some, uncommented⟩ := holds
  unfold ofLine?
  dsimp only
  split
  · next blank => exact absurd blank some
  · next comment =>
    rw [comment] at uncommented
    exact absurd rfl uncommented
  · rfl

theorem ofNumberedLine_eq {read : LiteralReader} (literate : Literate read) {line : List Char}
    (holds : HoldsRecord line) (number : Nat) :
    ofNumberedLine read number line =
      match (faults read (fieldsOf line)).head? with
      | some fault => [.error (.badRecord number fault)]
      | none => [.ok (described read (fieldsOf line))] := by
  rw [ofNumberedLine, ofLine?_of_holdsRecord read holds, ofRecord_eq literate]
  cases (faults read (fieldsOf line)).head? <;> rfl

end SerialIsp.Part
