import SerialIsp.Part.Catalog
import SerialIsp.Proofs.Plans
import SerialIsp.Proofs.Part.Fields

/-!
# Lines that spell a part

A part can be written down in many ways: numbers can be, and fields may have blanks around them.
`Spells` says which lines are meant, without a word on how lines are read, and every such line
gives the part back (`ofNumberedLine_of_spells`). With the checks of the fields this settles what a
line of a parts file comes to (`outcomes`).
-/

namespace SerialIsp.Part

open Text

/-! ## Spelling -/

/-- Nothing but spaces and tabs. -/
def Gap (cs : List Char) : Prop := ∀ c ∈ cs, c = ' ' ∨ c = '\t'

/-- A text with gaps around it. -/
def Padded (core text : List Char) : Prop :=
  ∃ before after, Gap before ∧ Gap after ∧ text = before ++ core ++ after

/-- What a name has to be to stand in a record. -/
structure WellNamed (name : String) : Prop where
  marked : ['L', 'P', 'C'] <+: name.toList
  short : name.utf8ByteSize ≤ 24
  oneField : ',' ∉ name.toList
  oneLine : '\n' ∉ name.toList
  bare : ∀ c, name.toList.head? = some c ∨ name.toList.getLast? = some c → isBlank c = false

/-- What a numeric field has to say of a part. The flag may be any number but zero where blocks
    are encoded. -/
def Tells (part : Part) (n : Nat) : Field → Prop
  | .flashBase => n = part.flashBase.toNat
  | .flashSize => n = part.flashSize.toNat
  | .flashSectors => n = part.flashSectors.toNat
  | .resetVectorOffset => n = part.resetVectorOffset.toNat
  | .ramBase => n = part.ramBase.toNat
  | .ramSize => n = part.ramSize.toNat
  | .ramBufferOffset => n = part.ramBufferOffset.toNat
  | .ramBufferSize => n = part.ramBufferSize.toNat
  | .encodedFlag => n < UInt32.size ∧ (n = 0 ↔ part.encoding = .raw)

/-- A line that spells out a part, field by field. -/
def Spells (part : Part) (line : List Char) : Prop :=
  ∃ (id name : List Char) (values : Field → List Char),
    (∃ number, Literal number part.id.toNat ∧ Padded number id) ∧
    Padded part.name.toList name ∧
    (∀ field, ∃ number n, Literal number n ∧ part.Tells n field ∧ Padded number (values field)) ∧
    line = id ++ (name :: Field.all.map values).flatMap (',' :: ·)

theorem Padded.refl (core : List Char) : Padded core core :=
  ⟨[], [], nofun, nofun, (List.append_nil core).symm⟩

/-- Every part can be spelled, with decimal numbers and no gaps. -/
theorem exists_spells (part : Part) : ∃ line, part.Spells line := by
  have number (field : Field) : ∃ n, part.Tells n field := by
    cases field with
    | encodedFlag =>
      cases encoding : part.encoding with
      | raw => exact ⟨0, by decide, iff_of_true rfl encoding⟩
      | lines => exact ⟨1, by decide, iff_of_false (by decide) (by rw [encoding]; exact nofun)⟩
    | _ => exact ⟨_, rfl⟩
  obtain ⟨value, tells⟩ := Classical.skolem.mp number
  exact ⟨_, digits 10 part.id.toNat, part.name.toList, fun field => digits 10 (value field),
    ⟨_, .decimal (numeral_digits _), .refl _⟩, .refl _,
    fun field => ⟨_, value field, .decimal (numeral_digits _), tells field, .refl _⟩, rfl⟩

/-! ## What is in a spelled line -/

theorem Gap.blank {cs : List Char} (gap : Gap cs) : ∀ c ∈ cs, isBlank c = true := by
  intro c mem
  rcases gap c mem with rfl | rfl <;> rfl

theorem Padded.trim {core text : List Char} (padded : Padded core text) (bare : trim core = core) :
    trim text = core := by
  obtain ⟨before, after, gapBefore, gapAfter, rfl⟩ := padded
  rw [trim_padded gapBefore.blank gapAfter.blank, bare]

theorem Padded.notMem {core text : List Char} (padded : Padded core text) {c : Char}
    (space : c ≠ ' ') (tab : c ≠ '\t') (clean : c ∉ core) : c ∉ text := by
  obtain ⟨before, after, gapBefore, gapAfter, rfl⟩ := padded
  have gap {cs : List Char} (gap : Gap cs) : c ∉ cs := fun mem =>
    (gap c mem).elim space tab
  simp only [List.mem_append, not_or]
  exact ⟨⟨gap gapBefore, clean⟩, gap gapAfter⟩

/-- A literal in a field is read as its number, and neither ends the field nor the line. -/
theorem Padded.literal {read : LiteralReader} (literate : Literate read)
    {number text : List Char} {n : Nat} (literal : Literal number n)
    (padded : Padded number text) (limit : Nat) (small : n < limit) :
    read limit (Text.trim text) = .ok n ∧ ',' ∉ text ∧ '\n' ∉ text := by
  have absent {c : Char} (space : c ≠ ' ') (tab : c ≠ '\t')
      (digits : ∀ d < 16, Nat.digitChar d ≠ c ∧ (Nat.digitChar d).toUpper ≠ c)
      (marks : 'x' ≠ c ∧ 'o' ≠ c ∧ 'b' ≠ c) : c ∉ text :=
    padded.notMem space tab fun mem =>
      literal.forall_mem (motive := (· ≠ c)) digits marks c mem rfl
  refine ⟨?_, absent (by decide) (by decide) (by decide) (by decide),
    absent (by decide) (by decide) (by decide) (by decide)⟩
  rw [padded.trim (trim_eq_self literal.visible), literate.value literal small]

theorem WellNamed.trim {name : String} (well : WellNamed name) :
    trim name.toList = name.toList :=
  trim_of_ends (fun c first => well.bare c (.inl first)) fun c last => well.bare c (.inr last)

theorem Tells.lt {part : Part} {n : Nat} {field : Field} (tells : part.Tells n field) :
    n < limit32 := by
  cases field with
  | encodedFlag => exact tells.1
  | _ =>
    rw [show n = _ from tells]
    exact UInt32.toNat_lt _

theorem fieldsOf_put_together {id name : List Char} {values : Field → List Char}
    (clean : ∀ field ∈ id :: name :: Field.all.map values, ',' ∉ field) :
    fieldsOf (id ++ (name :: Field.all.map values).flatMap (',' :: ·)) =
      trim id :: trim name :: Field.all.map fun field => trim (values field) := by
  rw [fieldsOf, map_trim_splitAtChar_trim (by decide), splitAtChar_flatMap clean, List.map_cons,
    List.map_cons, List.map_map]
  rfl

theorem getElem?_position (id name : List Char) (values : Field → List Char) (field : Field) :
    (id :: name :: Field.all.map values)[field.position]? = some (values field) := by
  cases field <;> rfl

theorem valueOf_eq {read : LiteralReader} {fields : List (List Char)} {field : Field}
    {text : List Char} {n : Nat} (there : fields[field.position]? = some text)
    (told : read limit32 text = .ok n) : valueOf read fields field = n.toUInt32 := by
  rw [valueOf, List.getD_eq_getElem?_getD, there, Option.getD_some, told]

/-- Fields that tell a part describe it. -/
theorem described_eq {read : LiteralReader} {part : Part} {fields : List (List Char)}
    {id : List Char} (first : fields[0]? = some id)
    (identified : read limit64 id = .ok part.id.toNat)
    (name : fields[1]? = some part.name.toList)
    (values : ∀ field, ∃ text n, fields[field.position]? = some text ∧
      read limit32 text = .ok n ∧ part.Tells n field) : described read fields = part := by
  have number (field : Field) :
      ∃ n, valueOf read fields field = n.toUInt32 ∧ part.Tells n field := by
    obtain ⟨text, n, there, told, tells⟩ := values field
    exact ⟨n, valueOf_eq there told, tells⟩
  have word (field : Field) {value : UInt32}
      (tells : ∀ n, part.Tells n field → n = value.toNat) :
      valueOf read fields field = value := by
    obtain ⟨n, same, told⟩ := number field
    rw [same, tells n told]
    exact UInt32.ofNat_toNat
  have same : idOf read fields = part.id := by
    rw [idOf, List.headD_eq_head?_getD, List.head?_eq_getElem?, first, Option.getD_some, identified]
    exact UInt64.ofNat_toNat
  have named : nameOf fields = part.name := by
    rw [nameOf, List.getD_eq_getElem?_getD, name, Option.getD_some, String.ofList_toList]
  have encoding : (if valueOf read fields .encodedFlag = 0 then Encoding.raw else .lines) =
      part.encoding := by
    obtain ⟨n, same, small, flag⟩ := number .encodedFlag
    rw [same]
    by_cases zero : n = 0
    · rw [if_pos ((toUInt32_eq_zero small).mpr zero), flag.mp zero]
    · rw [if_neg (mt (toUInt32_eq_zero small).mp zero)]
      cases encoding : part.encoding with
      | lines => rfl
      | raw => exact absurd (flag.mpr encoding) zero
  obtain ⟨id, name, flashBase, flashSize, flashSectors, resetVectorOffset, ramBase, ramSize,
    ramBufferOffset, ramBufferSize, encoded⟩ := part
  rw [described, same, named, encoding, word .flashBase fun _ tells => tells,
    word .flashSize fun _ tells => tells, word .flashSectors fun _ tells => tells,
    word .resetVectorOffset fun _ tells => tells, word .ramBase fun _ tells => tells,
    word .ramSize fun _ tells => tells, word .ramBufferOffset fun _ tells => tells,
    word .ramBufferSize fun _ tells => tells]

/-- A line that opens with a literal is neither blank nor a comment. -/
theorem holdsRecord_of_literal {number text : List Char} {n : Nat} (literal : Literal number n)
    (padded : Padded number text) (rest : List Char) : HoldsRecord (text ++ rest) := by
  obtain ⟨before, after, gap, -, rfl⟩ := padded
  obtain ⟨c, digits, rfl⟩ := List.exists_cons_of_ne_nil literal.ne_nil
  have opens : trim (before ++ (c :: digits) ++ after ++ rest) =
      c :: trimEnd (digits ++ after ++ rest) := by
    calc trim (before ++ (c :: digits) ++ after ++ rest)
      _ = trim (before ++ (c :: (digits ++ after ++ rest)) ++ []) := by
        simp only [List.append_assoc, List.cons_append, List.append_nil]
      _ = trim (c :: (digits ++ after ++ rest)) := trim_padded gap.blank (List.forall_mem_nil _) _
      _ = c :: trimEnd (digits ++ after ++ rest) :=
        trim_cons_of_visible (literal.visible c List.mem_cons_self) _
  have uncommented : c ≠ '#' :=
    literal.forall_mem (motive := (· ≠ '#')) (by decide) (by decide) c List.mem_cons_self
  rw [HoldsRecord, opens]
  exact ⟨List.cons_ne_nil _ _, fun comment => uncommented (Option.some.inj comment)⟩

/-- **A spelled line is read as the part it spells.** -/
theorem ofNumberedLine_of_spells {read : LiteralReader} (literate : Literate read) {part : Part}
    {line : List Char} (named : WellNamed part.name)
    (sectors : 1 ≤ part.flashSectors.toNat) (spells : Spells part line) :
    '\n' ∉ line ∧ ∀ number, ofNumberedLine read number line = [.ok part] := by
  obtain ⟨id, name, values, ⟨number, literal, paddedId⟩, paddedName, fields, rfl⟩ := spells
  have idRead := paddedId.literal literate literal limit64 (UInt64.toNat_lt _)
  have nameClean : ',' ∉ name ∧ '\n' ∉ name :=
    ⟨paddedName.notMem (by decide) (by decide) named.oneField,
      paddedName.notMem (by decide) (by decide) named.oneLine⟩
  have valueRead (field : Field) : ∃ n, part.Tells n field ∧
      read limit32 (trim (values field)) = .ok n ∧
        ',' ∉ values field ∧ '\n' ∉ values field := by
    obtain ⟨number, n, literal, tells, padded⟩ := fields field
    exact ⟨n, tells, padded.literal literate literal limit32 tells.lt⟩
  have clean : ∀ field ∈ id :: name :: Field.all.map values, ',' ∉ field ∧ '\n' ∉ field := by
    refine List.forall_mem_cons.mpr ⟨idRead.2, List.forall_mem_cons.mpr ⟨nameClean, ?_⟩⟩
    refine List.forall_mem_map.mpr fun field _ => ?_
    obtain ⟨n, -, -, clean⟩ := valueRead field
    exact clean
  have split := fieldsOf_put_together fun field mem => (clean field mem).1
  have there (field : Field) :=
    getElem?_position (trim id) (trim name) (fun field => trim (values field)) field
  have named' : trim name = part.name.toList := paddedName.trim named.trim
  have wellFormed : WellFormed read (trim id :: trim name ::
      Field.all.map fun field => trim (values field)) :=
    { id := ⟨_, _, rfl, idRead.1⟩
      name := ⟨_, congrArg some named', named.marked, by
        rw [String.ofList_toList]
        exact named.short⟩
      values := fun field => by
        obtain ⟨n, tells, told, -⟩ := valueRead field
        refine ⟨_, n, there field, told, ?_⟩
        rintro rfl
        have same : n = part.flashSectors.toNat := tells
        omega }
  refine ⟨fun mem => ?_, fun number => ?_⟩
  · rcases List.mem_append.mp mem with first | rest
    · exact idRead.2.2 first
    · obtain ⟨field, known, mem⟩ := List.mem_flatMap.mp rest
      rcases List.mem_cons.mp mem with comma | mem
      · exact absurd comma (by decide)
      · exact (clean field (List.mem_cons_of_mem _ known)).2 mem
  · rw [ofNumberedLine_eq literate (holdsRecord_of_literal literal paddedId _), split,
      (faults_eq_nil_iff literate (List.cons_ne_nil _ _)).mpr wellFormed,
      described_eq rfl idRead.1 (congrArg some named')]
    · rfl
    · intro field
      obtain ⟨n, tells, told, -⟩ := valueRead field
      exact ⟨_, n, there field, told, tells⟩

/-! ## What a line comes to -/

/-- What a line of a parts file comes to. -/
structure Outcomes (read : LiteralReader) (line : List Char) : Prop where
  /-- Wherever it stands, other lines are read as they would be. -/
  placed : ∀ (text : String) (before after : List (List Char)),
    Text.lines text.toList = before ++ line :: after →
    ofTextBy read text = ofLines read 1 before ++ ofNumberedLine read (before.length + 1) line ++
      ofLines read (before.length + 2) after
  accepted : HoldsRecord line → ∀ number,
    (∃ part, ofNumberedLine read number line = [.ok part]) ↔ WellFormed read (fieldsOf line)
  /-- The first fault is the one that is told. -/
  refused : HoldsRecord line → ∀ number fault,
    ofNumberedLine read number line = [.error (.badRecord number fault)] ↔
      (faults read (fieldsOf line)).head? = some fault
  /-- A spelled part is given back. -/
  spelled : ∀ part : Part, WellNamed part.name → 1 ≤ part.flashSectors.toNat → Spells part line →
    ofTextBy read (String.ofList line) = [.ok part] ∧
      ∀ number, ofNumberedLine read number line = [.ok part]

/-- **Every line is accepted or refused for its own sake**, and a part can be spelled at will. -/
theorem outcomes {read : LiteralReader} (literate : Literate read) (line : List Char) :
    Outcomes read line where
  placed text before after here := by
    rw [ofTextBy, here, ofLines_append, ofLines_cons, List.append_assoc, Nat.add_comm 1,
      Nat.add_assoc]
  accepted holds number := by
    rw [ofNumberedLine_eq literate holds, ← faults_eq_nil_iff literate (fieldsOf_ne_nil line)]
    cases faults read (fieldsOf line) with
    | nil => exact iff_of_true ⟨_, rfl⟩ rfl
    | cons fault faults =>
      refine iff_of_false ?_ (List.cons_ne_nil _ _)
      rintro ⟨_, ⟨⟩⟩
  refused holds number fault := by
    rw [ofNumberedLine_eq literate holds]
    cases (faults read (fieldsOf line)).head? with
    | none => simp
    | some first => simp
  spelled part named sectors spells := by
    obtain ⟨one, given⟩ := ofNumberedLine_of_spells literate named sectors spells
    refine ⟨?_, given⟩
    rw [ofTextBy_eq, String.toList_ofList, splitAtChar_of_notMem one, ofLines_cons, given]
    rfl

/-- A part of the built-in table, as it would stand in a parts file. -/
def lpc1114Line : String :=
  "0x1A40902B, LPC1114FN28/102, 0x0, 0x8000, 8, 4, 0x10000000, 0x1000, 0x800, 0x400, 1"

theorem outcomes_lpc1114 :
    Literate readLiteral ∧ Outcomes readLiteral lpc1114Line.toList ∧
      HoldsRecord lpc1114Line.toList ∧
      ofText lpc1114Line = (catalog.find? (·.id = 0x1A40902B)).toList.map .ok :=
  ⟨literate_readLiteral, outcomes literate_readLiteral lpc1114Line.toList,
    by decide +kernel, by decide +kernel⟩

end SerialIsp.Part
