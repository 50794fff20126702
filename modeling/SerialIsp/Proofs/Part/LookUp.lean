import SerialIsp.Part.Source
import SerialIsp.Proofs.Plans
import SerialIsp.Proofs.Part.Lines

/-!
# Looking up and listing

A parts file is gone through in two ways: up to the record that settles what an identifier stands
for, and as a whole. Both see the same results, record by record. A look-up is settled by the first
of them that is an error or has the identifier (`findBy_eq`), so that what it says about a file can
be compared with the list of all parts, and does not hang on what stands further down.
-/

namespace SerialIsp.Part

theorem exists_of_checkGeometry_eq_error {part : Part} {failure : Failure}
    (h : part.checkGeometry = .error failure) :
    ∃ fault, failure = .badGeometry part.name fault := by
  unfold checkGeometry at h
  split at h
  · cases h
    exact ⟨_, rfl⟩
  · split at h
    · cases h
      exact ⟨_, rfl⟩
    · cases h

namespace Source

/-! ## What settles a look-up -/

/-- Whether a result settles what an identifier stands for. -/
def settles (id : UInt64) : Except Failure Part → Bool
  | .ok part => part.id = id
  | .error _ => true

/-- What is told about an identifier when a result has settled it, or none has. -/
def answer (id : UInt64) : Option (Except Failure Part) → Except Failure Part
  | none => .error (.unknownPart id)
  | some (.error failure) => .error failure
  | some (.ok part) =>
    match part.checkGeometry with
    | .ok () => .ok part
    | .error failure => .error failure

variable {read : Text.LiteralReader} {source : Source} {fs : Files} {id : UInt64}
  {records : List (Except Failure Part)}

theorem firstMatch_bind : (do
    let part ← firstMatch id records
    part.checkGeometry
    return part) = answer id (records.find? (settles id)) := by
  induction records with
  | nil => rfl
  | cons record records ih =>
    cases record with
    | error failure => rfl
    | ok part =>
      by_cases same : part.id = id
      · have settled : settles id (.ok part) = true := decide_eq_true same
        rw [firstMatch, if_pos same, List.find?_cons_of_pos settled, answer]
        show (do part.checkGeometry; return part) = _
        cases part.checkGeometry <;> rfl
      · have unsettled : ¬ settles id (.ok part) = true := fun settled =>
          same (of_decide_eq_true settled)
        rw [firstMatch, if_neg same, ih, List.find?_cons_of_neg unsettled]

/-- **A look-up is settled by the first error or the first part with the identifier.** -/
theorem findBy_eq (described : source.recordsBy read fs = .ok records) :
    source.findBy read fs id = answer id (records.find? (settles id)) := by
  rw [← firstMatch_bind, findBy, lookUpBy, described]
  rfl

/-! ## What is listed -/

theorem allBy_eq (described : source.recordsBy read fs = .ok records) :
    source.allBy read fs = records.mapM fun record => record := by
  rw [allBy, described]
  rfl

/-- Records are listed when all of them are parts. -/
theorem eq_map_of_mapM {parts : List Part}
    (listed : records.mapM (fun record => record) = .ok parts) : records = parts.map .ok := by
  induction records generalizing parts with
  | nil =>
    cases listed
    rfl
  | cons record records ih =>
    rw [List.mapM_cons] at listed
    obtain ⟨part, rfl, others⟩ := exists_of_bind_eq_ok listed
    have others : (do return part :: (← records.mapM fun record => record)) = .ok parts := others
    obtain ⟨rest, all, same⟩ := exists_of_bind_eq_ok others
    cases same
    rw [ih all, List.map_cons]

/-- No part makes a look-up fail as a record does that is none. -/
theorem answer_ne_badRecord (part : Part) (line : Nat) (fault : RecordFault) :
    answer id (some (.ok part)) ≠ .error (.badRecord line fault) := by
  rw [answer]
  cases geometry : part.checkGeometry with
  | ok => exact nofun
  | error failure =>
    obtain ⟨_, rfl⟩ := exists_of_checkGeometry_eq_error geometry
    exact nofun

/-- The error that settles a look-up is the first of all. -/
theorem mapM_of_answer {line : Nat} {fault : RecordFault}
    (malformed : answer id (records.find? (settles id)) = .error (.badRecord line fault)) :
    records.mapM (fun record => record) = .error (.badRecord line fault) := by
  induction records with
  | nil => cases malformed
  | cons record records ih =>
    rw [List.mapM_cons]
    cases record with
    | error failure =>
      rw [List.find?_cons_of_pos rfl] at malformed
      cases malformed
      rfl
    | ok part =>
      by_cases settled : settles id (.ok part) = true
      · rw [List.find?_cons_of_pos settled] at malformed
        exact absurd malformed (answer_ne_badRecord part line fault)
      · rw [List.find?_cons_of_neg settled] at malformed
        rw [ih malformed]
        rfl

theorem findBy_of_allBy {parts : List Part} (described : source.recordsBy read fs = .ok records)
    (listed : source.allBy read fs = .ok parts) :
    source.findBy read fs id = answer id ((parts.find? (·.id = id)).map .ok) := by
  rw [allBy_eq described] at listed
  rw [findBy_eq described, eq_map_of_mapM listed, List.find?_map]
  rfl

theorem allBy_of_findBy {line : Nat} {fault : RecordFault}
    (described : source.recordsBy read fs = .ok records)
    (malformed : source.findBy read fs id = .error (.badRecord line fault)) :
    source.allBy read fs = .error (.badRecord line fault) := by
  rw [findBy_eq described] at malformed
  rw [allBy_eq described, mapM_of_answer malformed]

/-! ## Parts files -/

theorem recordsBy_file {path text : String} (reads : fs.readText path = .ok text) :
    (Source.file path).recordsBy read fs = .ok (ofTextBy read text) := by
  rw [recordsBy, reads]

/-- How looking an identifier up in a parts file goes together with what the file holds. -/
structure Agrees (read : Text.LiteralReader) (fs : Files) (path text : String)
    (id : UInt64) : Prop where
  settled : (Source.file path).findBy read fs id =
    answer id ((ofTextBy read text).find? (settles id))
  listed : ∀ parts, (Source.file path).allBy read fs = .ok parts →
    (Source.file path).findBy read fs id = answer id ((parts.find? (·.id = id)).map .ok)
  malformed : ∀ line fault,
    (Source.file path).findBy read fs id = .error (.badRecord line fault) →
    (Source.file path).allBy read fs = .error (.badRecord line fault)
  /-- What a file goes on with behind the record that settles a look-up does not matter. -/
  behind : (ofTextBy read text).any (settles id) → ∀ (fs' : Files) (path' rest : String),
    fs'.readText path' = .ok (text ++ "\n" ++ rest) →
    (Source.file path').findBy read fs' id = (Source.file path).findBy read fs id

/-- **Looking up and listing agree**, however numbers are read. -/
theorem agrees {fs : Files} {path text : String} (reads : fs.readText path = .ok text)
    (read : Text.LiteralReader) (id : UInt64) : Agrees read fs path text id where
  settled := findBy_eq (recordsBy_file reads)
  listed _ := findBy_of_allBy (recordsBy_file reads)
  malformed _ _ := allBy_of_findBy (recordsBy_file reads)
  behind settled fs' path' rest reads' := by
    obtain ⟨record, mem, settles⟩ := List.any_eq_true.mp settled
    obtain ⟨first, found⟩ : ∃ first,
        (ofTextBy read text).find? (Source.settles id) = some first :=
      Option.isSome_iff_exists.mp (List.find?_isSome.mpr ⟨record, mem, settles⟩)
    have longer : (ofTextBy read (text ++ "\n" ++ rest)).find? (Source.settles id) =
        some first := by
      rw [ofTextBy_append, List.find?_append, found, Option.some_or]
    rw [findBy_eq (recordsBy_file reads'), findBy_eq (recordsBy_file reads), longer, found]

/-- A parts file with a line behind its record that holds none. -/
def brokenText : String := "# parts\n0x10, LPCX, 0, 64, 2, 4, 0, 64, 0, 64, 1\nbroken"

def brokenFiles : Files where
  workingDirectory := []
  entries := [(["parts"], Bytes.ascii brokenText)]

/-- A file that is found in, although it cannot be listed. -/
theorem agrees_brokenBehind :
    brokenFiles.readText "/parts" = .ok brokenText ∧
      Agrees Text.readLiteral brokenFiles "/parts" brokenText 0x10 ∧
      ((Source.file "/parts").find brokenFiles 0x10).map Part.name = .ok "LPCX" ∧
      (Source.file "/parts").all brokenFiles = .error (.badRecord 3 (.badPartId "broken")) := by
  have reads : brokenFiles.readText "/parts" = .ok brokenText := by decide +kernel
  exact ⟨reads, agrees reads Text.readLiteral 0x10, by decide +kernel, by decide +kernel⟩

end Source
end SerialIsp.Part
