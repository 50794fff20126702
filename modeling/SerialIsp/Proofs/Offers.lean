import SerialIsp.Session.Serial
import SerialIsp.Proofs.Dialogue.Replies

/-!
# Writing to a port that takes a part

A port may take any part of what it is offered, be interrupted, or fail, in any order. The line
over a port offers the rest again, and has to go on at exactly the right byte: one byte off, and
a frame goes out with a byte too many or too few.

What a port is offered is read off the port itself. A `Recorded` port keeps a record of it, and
is otherwise the port that it was. `Offers` says how the offers of a write follow each other,
with one rule for each outcome. Every write makes such offers (`exists_offers`), and the rest is
read off their rules: where they resume (`Offers.resumes`), what is reported of them
(`writeFrom_of_offers`), and that a port with a record is made the same ones
(`Offers.recorded`).

No port is interrupted forever. But there are ports that follow any sequence of outcomes, one of
interruptions only included, for as long as one likes (`Sequenced`). So what holds of the offers
at any time holds in a write that never ends as well.
-/

namespace SerialIsp

/-! ## Offers that were made -/

/-- Bytes that were offered to a port, with what came of it. -/
structure Offering where
  bytes : Bytes
  outcome : Offer
  deriving DecidableEq, Repr

namespace Offering

/-- The bytes that were taken. -/
def taken (o : Offering) : Bytes :=
  match o.outcome with
  | .taken count => o.bytes.take count
  | _ => []

def fault? (o : Offering) : Option PortFault :=
  match o.outcome with
  | .failed fault => some fault
  | _ => none

/-- There is something left to be offered: the port was interrupted, or it took a part. -/
def LeavesMore (o : Offering) : Prop :=
  match o.outcome with
  | .taken count => 0 < count ∧ count < o.bytes.length
  | .interrupted => True
  | .failed _ => False

end Offering

/-- The bytes a port took of all that it was offered, in order. -/
def takenOf (os : List Offering) : Bytes := os.flatMap Offering.taken

/-- The faults that offers failed with. -/
def faultsOf (os : List Offering) : List PortFault := os.filterMap Offering.fault?

theorem takenOf_cons (o : Offering) (os : List Offering) :
    takenOf (o :: os) = o.taken ++ takenOf os := List.flatMap_cons

/-- **Offers that resume** where the port has come to in the data. -/
structure Resumes (data : Bytes) (os : List Offering) : Prop where
  /-- An offer is made unless there is nothing to write. -/
  started : os = [] ↔ data = []
  /-- What was taken before an offer, and then what is offered, are the data. -/
  resumed : ∀ before o after, os = before ++ o :: after → takenOf before ++ o.bytes = data
  /-- No offer is empty. -/
  offered : ∀ o ∈ os, o.bytes ≠ []
  /-- Another offer is made behind an interruption and behind a part, and behind nothing else. -/
  retried : ∀ before o after, os = before ++ o :: after → (after ≠ [] ↔ o.LeavesMore)

namespace Resumes

theorem nil : Resumes [] [] := by
  refine ⟨by simp, ?_, nofun, ?_⟩
  · intro before o after here
    simp at here
  · intro before o after here
    simp at here

/-- One offer more in front of offers of what it leaves, if there are any. -/
theorem cons {b : Bytes} {outcome : Offer} (rest : Bytes) {os : List Offering} (ne : b ≠ [])
    (left : Offering.taken ⟨b, outcome⟩ ++ rest = b)
    (more : os ≠ [] ↔ Offering.LeavesMore ⟨b, outcome⟩) (h : os ≠ [] → Resumes rest os) :
    Resumes b (⟨b, outcome⟩ :: os) := by
  refine ⟨by simp [ne], ?_, ?_, ?_⟩
  · intro before o' after here
    cases before with
    | nil =>
      obtain ⟨rfl, -⟩ := List.cons.inj here
      rfl
    | cons _ before =>
      obtain ⟨rfl, behind⟩ := List.cons.inj here
      rw [takenOf_cons, List.append_assoc, (h (by simp [behind])).resumed _ _ _ behind, left]
  · intro o' mem
    cases mem with
    | head => exact ne
    | tail _ mem => exact (h (List.ne_nil_of_mem mem)).offered o' mem
  · intro before o' after here
    cases before with
    | nil =>
      obtain ⟨rfl, rfl⟩ := List.cons.inj here
      exact more
    | cons _ before =>
      obtain ⟨-, behind⟩ := List.cons.inj here
      exact (h (by simp [behind])).retried _ _ _ behind

end Resumes

theorem Offering.taken_prefix (o : Offering) : o.taken <+: o.bytes := by
  rw [taken]
  split
  · exact List.take_prefix ..
  · exact List.nil_prefix

/-- What is taken of offers that resume is the beginning of the data. -/
theorem Resumes.takenOf_prefix {data : Bytes} {os : List Offering} (h : Resumes data os) :
    takenOf os <+: data := by
  rcases List.eq_nil_or_concat os with rfl | ⟨before, o, rfl⟩
  · exact List.nil_prefix
  · rw [List.concat_eq_append] at h ⊢
    rw [← h.resumed before o [] rfl, takenOf, List.flatMap_append, List.flatMap_singleton]
    exact (List.prefix_append_right_inj _).mpr o.taken_prefix

/-! ## How the offers of a write follow each other -/

namespace Port

variable {π : Type} [Port π]

/-- **The offers of a write** of `b` on the port `p`, one by one, and the port behind them. -/
inductive Offers : π → Bytes → List Offering → π → Prop
  | complete (p : π) : Offers p [] [] p
  | stalled {p p' : π} {b : Bytes} (ne : b ≠ []) (made : offer p b = (.taken 0, p')) :
      Offers p b [⟨b, .taken 0⟩] p'
  | took {p p' q : π} {b : Bytes} {n : Nat} {os : List Offering} (ne : b ≠ [])
      (made : offer p b = (.taken (n + 1), p')) (rest : Offers p' (b.drop (n + 1)) os q) :
      Offers p b (⟨b, .taken (n + 1)⟩ :: os) q
  | interrupted {p p' q : π} {b : Bytes} {os : List Offering} (ne : b ≠ [])
      (made : offer p b = (.interrupted, p')) (again : Offers p' b os q) :
      Offers p b (⟨b, .interrupted⟩ :: os) q
  | failed {p p' : π} {b : Bytes} {fault : PortFault} (ne : b ≠ [])
      (made : offer p b = (.failed fault, p')) : Offers p b [⟨b, .failed fault⟩] p'

variable {p p' q : π} {b : Bytes} {os : List Offering}

theorem exists_offers (p : π) (b : Bytes) : ∃ os q, Offers p b os q := by
  fun_induction writeFrom p b 0 with
  | case1 p taken => exact ⟨[], p, .complete p⟩
  | case2 p b taken ne p' made => exact ⟨_, p', .stalled ne made⟩
  | case3 p b taken ne n p' made ih =>
    obtain ⟨os, q, rest⟩ := ih
    exact ⟨_, q, .took ne made rest⟩
  | case4 p b taken ne p' made ih =>
    obtain ⟨os, q, again⟩ := ih
    exact ⟨_, q, .interrupted ne made again⟩
  | case5 p b taken ne fault p' made => exact ⟨_, p', .failed ne made⟩

/-- The first offer of a write, and the offers behind it. -/
theorem Offers.of_cons {o : Offering} (offers : Offers p b (o :: os) q) :
    o = ⟨b, (offer p b).1⟩ ∧ (os ≠ [] → ∃ b', Offers (offer p b).2 b' os q) := by
  cases offers with
  | stalled ne made =>
    rw [made]
    exact ⟨rfl, nofun⟩
  | took ne made rest =>
    rw [made]
    exact ⟨rfl, fun _ => ⟨_, rest⟩⟩
  | interrupted ne made again =>
    rw [made]
    exact ⟨rfl, fun _ => ⟨_, again⟩⟩
  | failed ne made =>
    rw [made]
    exact ⟨rfl, nofun⟩

/-- What comes of a write, by the faults of its offers and the port behind them. -/
def conclude (faults : List PortFault) (q : π) (taken : Nat) : Except PortFault Nat × π :=
  match faults with
  | fault :: _ => (.error fault, q)
  | [] => finish q taken

/-- One turn of the loop. -/
theorem writeFrom_of_ne_nil (ne : b ≠ []) {outcome : Offer} (made : offer p b = (outcome, p'))
    (taken : Nat) : writeFrom p b taken = match outcome with
      | .taken 0 => finish p' taken
      | .taken (n + 1) => writeFrom p' (b.drop (n + 1)) (taken + (n + 1))
      | .interrupted => writeFrom p' b taken
      | .failed fault => (.error fault, p') := by
  rw [writeFrom, dif_neg ne]
  split
  all_goals
    next same =>
      obtain ⟨rfl, rfl⟩ := Prod.mk.inj (made.symm.trans same)
      rfl

/-- **A write reports what was taken**, on top of what had been taken before. -/
theorem writeFrom_of_offers (offers : Offers p b os q) (taken : Nat) :
    writeFrom p b taken = conclude (faultsOf os) q (taken + (takenOf os).length) := by
  induction offers generalizing taken with
  | complete p =>
    rw [writeFrom, dif_pos rfl]
    rfl
  | stalled ne made =>
    rw [writeFrom_of_ne_nil ne made]
    rfl
  | @took p p' q b n os ne made rest ih =>
    have length : (b.take (n + 1)).length = n + 1 := List.length_take_of_le (taken_le made)
    rw [writeFrom_of_ne_nil ne made]
    dsimp only
    rw [ih, takenOf_cons, List.length_append, Offering.taken, length, Nat.add_assoc]
    rfl
  | interrupted ne made again ih =>
    rw [writeFrom_of_ne_nil ne made]
    exact ih taken
  | failed ne made =>
    rw [writeFrom_of_ne_nil ne made]
    rfl

/-- **The offers of a write resume.** -/
theorem Offers.resumes (offers : Offers p b os q) : Resumes b os := by
  induction offers with
  | complete p => exact .nil
  | stalled ne made => exact .cons _ ne rfl (by simp [Offering.LeavesMore]) nofun
  | took ne made rest ih =>
    refine .cons _ ne (List.take_append_drop ..) ?_ fun _ => ih
    rw [ne_eq, ih.started]
    simp [Offering.LeavesMore]
  | interrupted ne made again ih =>
    refine .cons _ ne rfl ?_ fun _ => ih
    rw [ne_eq, ih.started]
    simp [Offering.LeavesMore, ne]
  | failed ne made => exact .cons _ ne rfl (by simp [Offering.LeavesMore]) nofun

/-- A write falls short without a fault exactly if the port took nothing of an offer. -/
theorem Offers.stalled_iff (offers : Offers p b os q) :
    (∃ o ∈ os, o.outcome = .taken 0) ↔ faultsOf os = [] ∧ takenOf os ≠ b := by
  induction offers with
  | complete p => simp [takenOf]
  | stalled ne made => simp [takenOf, Offering.taken, faultsOf, Offering.fault?, ne.symm]
  | @took p p' q b n os ne made rest ih =>
    have left : b.take (n + 1) ++ b.drop (n + 1) = b := List.take_append_drop ..
    have all : takenOf (⟨b, .taken (n + 1)⟩ :: os) = b ↔ takenOf os = b.drop (n + 1) := by
      rw [takenOf_cons]
      exact ⟨fun h => List.append_cancel_left (h.trans left.symm), fun h => h ▸ left⟩
    rw [ne_eq, all]
    simpa [faultsOf, Offering.fault?] using ih
  | interrupted ne made again ih =>
    simpa [faultsOf, takenOf, Offering.fault?, Offering.taken] using ih
  | failed ne made => simp [faultsOf, Offering.fault?]

/-! ## Ports with a record -/

/-- A port with a record of what it was offered and how its flushes came out. -/
structure Recorded (π : Type) where
  port : π
  offerings : List Offering := []
  flushes : List (Except PortFault Unit) := []

namespace Recorded

instance : Port (Recorded π) where
  offer r b :=
    ((offer r.port b).1, { r with
      port := (offer r.port b).2
      offerings := r.offerings ++ [⟨b, (offer r.port b).1⟩] })
  flush r :=
    ((flush r.port).1, { r with
      port := (flush r.port).2
      flushes := r.flushes ++ [(flush r.port).1] })
  read r wanted timeout :=
    ((read r.port wanted timeout).1, { r with port := (read r.port wanted timeout).2 })
  clear r := ((clear r.port).1, { r with port := (clear r.port).2 })
  pending r := pending r.port
  interruptions r := interruptions r.port
  taken_le h := taken_le (Prod.ext (congrArg (·.1) h) (congrArg (·.2.port) h))
  interruptions_lt h := interruptions_lt (Prod.ext (congrArg (·.1) h) (congrArg (·.2.port) h))
  length_read_le h := length_read_le (Prod.ext (congrArg (·.1) h) (congrArg (·.2.port) h))
  pending_read_le h := pending_read_le (Prod.ext (congrArg (·.1) h) (congrArg (·.2.port) h))

/-- The bytes that were taken, in order. -/
def taken (r : Recorded π) : Bytes := takenOf r.offerings

/-- The faults that offers and flushes failed with. -/
def faults (r : Recorded π) : List PortFault :=
  faultsOf r.offerings ++ r.flushes.filterMap fun
    | .ok () => none
    | .error fault => some fault

/-- The first fault, or else the number of bytes that were taken. -/
def outcome (r : Recorded π) : Except PortFault Nat :=
  match r.faults with
  | fault :: _ => .error fault
  | [] => .ok r.taken.length

end Recorded

/-- A record of what writing `b` asks of a port, with the port behind it. -/
def record (p : π) (b : Bytes) : Recorded π := (writeFrom ({ port := p } : Recorded π) b 0).2

theorem offer_recorded {outcome : Offer} (made : offer p b = (outcome, p'))
    (past : List Offering) (flushes : List (Except PortFault Unit)) :
    offer (⟨p, past, flushes⟩ : Recorded π) b =
      (outcome, ⟨p', past ++ [⟨b, outcome⟩], flushes⟩) := by
  change ((offer p b).1, Recorded.mk (offer p b).2 (past ++ [⟨b, (offer p b).1⟩]) flushes) = _
  rw [made]

/-- A port with a record is made the same offers, and they are put on record. -/
theorem Offers.recorded (offers : Offers p b os q) (past : List Offering)
    (flushes : List (Except PortFault Unit)) :
    Offers (⟨p, past, flushes⟩ : Recorded π) b os ⟨q, past ++ os, flushes⟩ := by
  -- a record grows at its end, so the induction is for any past
  induction offers generalizing past with
  | complete p =>
    rw [List.append_nil]
    exact .complete _
  | stalled ne made => exact .stalled ne (offer_recorded made past flushes)
  | @took p p' q b n os ne made rest ih =>
    have later := ih (past ++ [⟨b, .taken (n + 1)⟩])
    rw [List.append_assoc] at later
    exact .took ne (offer_recorded made past flushes) later
  | @interrupted p p' q b os ne made again ih =>
    have later := ih (past ++ [⟨b, .interrupted⟩])
    rw [List.append_assoc] at later
    exact .interrupted ne (offer_recorded made past flushes) later
  | failed ne made => exact .failed ne (offer_recorded made past flushes)

theorem writeFrom_recorded (offers : Offers p b os q) :
    writeFrom ({ port := p } : Recorded π) b 0 =
      conclude (faultsOf os) ⟨q, os, []⟩ (takenOf os).length := by
  rw [writeFrom_of_offers (offers.recorded [] []), Nat.zero_add, List.nil_append]

theorem flush_recorded (r : Recorded π) : flush r = ((flush r.port).1,
    ⟨(flush r.port).2, r.offerings, r.flushes ++ [(flush r.port).1]⟩) := rfl

/-- A write that is concluded says what its record says. -/
theorem conclude_recorded (q : π) (os : List Offering) :
    let written := conclude (faultsOf os) q (takenOf os).length
    ∃ flushes, conclude (faultsOf os) (⟨q, os, []⟩ : Recorded π) (takenOf os).length =
        (written.1, ⟨written.2, os, flushes⟩) ∧
      (⟨written.2, os, flushes⟩ : Recorded π).outcome = written.1 := by
  intro written
  cases faults : faultsOf os with
  | cons fault more =>
    refine ⟨[], ?_, ?_⟩
    · simp only [written, faults, conclude]
    · simp only [Recorded.outcome, Recorded.faults, written, faults, conclude, List.cons_append]
  | nil =>
    refine ⟨[(flush q).1], ?_⟩
    rcases flushed : flush q with ⟨fault | _, q'⟩
    · simp [written, faults, conclude, finish, flush_recorded, flushed, Recorded.outcome,
        Recorded.faults]
    · simp [written, faults, conclude, finish, flush_recorded, flushed, Recorded.outcome,
        Recorded.faults, Recorded.taken]

/-- **A write by its record.** Keeping one changes nothing, and it says what the write reports. -/
theorem exists_record (p : π) (b : Bytes) : ∃ q, Offers p b (record p b).offerings q ∧
    writeFrom ({ port := p } : Recorded π) b 0 = ((writeFrom p b 0).1, record p b) ∧
    writeFrom p b 0 = ((record p b).outcome, (record p b).port) := by
  obtain ⟨os, q, offers⟩ := exists_offers p b
  obtain ⟨flushes, concluded, outcome⟩ := conclude_recorded q os
  have plain := writeFrom_of_offers offers 0
  rw [Nat.zero_add] at plain
  rw [← writeFrom_recorded offers, ← plain] at concluded
  rw [← plain] at outcome
  have recorded : record p b = ⟨(writeFrom p b 0).2, os, flushes⟩ := congrArg Prod.snd concluded
  rw [recorded]
  exact ⟨q, offers, concluded, Prod.ext outcome.symm rfl⟩

end Port

/-! ## Ports that follow a sequence -/

/-- The outcome where so many bytes are offered, of which no more can be taken. -/
def Offer.upTo (offered : Nat) : Offer → Offer
  | .taken count => .taken (min count offered)
  | outcome => outcome

theorem Offer.le_of_upTo {outcome : Offer} {offered count : Nat}
    (h : outcome.upTo offered = .taken count) : count ≤ offered := by
  cases outcome with
  | taken n =>
    cases h
    exact Nat.min_le_right ..
  | interrupted => cases h
  | failed fault => cases h

/-- A port whose offers come out one after the other as a sequence says. Once it has lasted for
    so many of them it is gone. -/
structure Sequenced where
  outcomes : Nat → Offer
  lasts : Nat
  gone : PortFault
  flushed : Except PortFault Unit := .ok ()

namespace Sequenced

/-- The port behind one offer more. -/
def next (p : Sequenced) (lasts : Nat) : Sequenced :=
  { p with outcomes := fun i => p.outcomes (i + 1), lasts := lasts }

instance : Port Sequenced where
  offer p b :=
    match p.lasts with
    | 0 => (.failed p.gone, p)
    | n + 1 => ((p.outcomes 0).upTo b.length, p.next n)
  flush p := (p.flushed, p)
  read p _ _ := (.ok [], p)
  clear p := (.ok (), p)
  pending _ := 0
  interruptions p := p.lasts
  taken_le h := by
    split at h
    · cases h
    · exact Offer.le_of_upTo (congrArg Prod.fst h)
  interruptions_lt h := by
    split at h
    · cases h
    · next n lasts =>
      obtain ⟨-, rfl⟩ := Prod.mk.inj h
      rw [lasts]
      exact Nat.lt_succ_self n
  length_read_le h := by
    cases h
    exact Nat.zero_le _
  pending_read_le h := by
    cases h
    exact Nat.le_refl _

theorem offer_of_lasts {p : Sequenced} {n : Nat} (lasts : p.lasts = n + 1) (b : Bytes) :
    Port.offer p b = ((p.outcomes 0).upTo b.length, p.next n) := by
  obtain ⟨outcomes, _, gone, flushed⟩ := p
  obtain rfl : _ = n + 1 := lasts
  rfl

/-- **The offers of a write come out as the sequence says.** -/
theorem outcome_of_offers {p q : Sequenced} {b : Bytes} {os : List Offering}
    (offers : Port.Offers p b os q) {i : Nat} {o : Offering} (here : os[i]? = some o)
    (early : i < p.lasts) : o.outcome = (p.outcomes i).upTo o.bytes.length := by
  induction os generalizing p b i with
  | nil => cases here
  | cons first os ih =>
    obtain ⟨n, lasts⟩ := Nat.exists_eq_succ_of_ne_zero (Nat.ne_zero_of_lt early)
    obtain ⟨rfl, more⟩ := offers.of_cons
    rw [offer_of_lasts lasts] at more here
    cases i with
    | zero =>
      cases here
      rfl
    | succ i =>
      -- the port has moved on by one in its sequence, as the index has in the offers
      have behind : os[i]? = some o := here
      obtain ⟨b', rest⟩ := more (List.ne_nil_of_mem (List.mem_of_getElem? behind))
      exact ih rest behind (Nat.lt_of_succ_lt_succ (lasts ▸ early))

end Sequenced

/-! ## What a session makes of it -/

theorem LinkFault.ofPort_ne_shortWrite (fault : PortFault) (expected written : Nat) :
    ofPort fault ≠ .shortWrite expected written := by
  rcases fault with ⟨kind, text⟩ | ⟨kind, text⟩
  all_goals cases kind <;> exact nofun

namespace Session

variable {π : Type}

section

variable {data : Bytes} {r : Port.Recorded π}

theorem writeResult_of_fault {fault : PortFault} (first : r.faults.head? = some fault) :
    writeResult data r.outcome = .error (.connecting (.ofPort fault)) := by
  obtain ⟨more, faults⟩ := List.head?_eq_some_iff.mp first
  rw [Port.Recorded.outcome, faults]
  rfl

theorem writeResult_of_sound (beginning : r.taken <+: data) (sound : r.faults = []) :
    writeResult data r.outcome = if r.taken = data then .ok () else
      .error (.connecting (.shortWrite data.length r.taken.length)) := by
  have all : r.taken.length = data.length ↔ r.taken = data :=
    ⟨beginning.eq_of_length, congrArg List.length⟩
  rw [Port.Recorded.outcome, sound]
  simp only [writeResult, all]

theorem writeResult_eq_ok_iff (beginning : r.taken <+: data) :
    writeResult data r.outcome = .ok () ↔ r.faults = [] ∧ r.taken = data := by
  cases faults : r.faults with
  | cons fault more => simp [writeResult_of_fault (congrArg List.head? faults)]
  | nil => simp [writeResult_of_sound beginning faults]

theorem writeResult_eq_short_iff (beginning : r.taken <+: data) : writeResult data r.outcome =
    .error (.connecting (.shortWrite data.length r.taken.length)) ↔
      r.faults = [] ∧ r.taken ≠ data := by
  cases faults : r.faults with
  | cons fault more =>
    have other := LinkFault.ofPort_ne_shortWrite fault data.length r.taken.length
    simp [writeResult_of_fault (congrArg List.head? faults), other]
  | nil => simp [writeResult_of_sound beginning faults]

end

variable [Port π]

theorem write_line (line : SerialLine π) (b : Bytes) : Transport.write line b =
    ((Port.writeFrom line.port b 0).1, ⟨(Port.writeFrom line.port b 0).2⟩) := rfl

/-- **What a write of `data` comes to**, by the record of its port. -/
structure Written (s : Session (SerialLine π)) (data : Bytes) (r : Port.Recorded π) : Prop where
  /-- It is the record of this write: without one it goes the same way. -/
  recorded : Transport.write (SerialLine.mk ({ port := s.device.port } : Port.Recorded π)) data =
    ((Transport.write s.device data).1, ⟨r⟩)
  port : (writeBytes data s).2.device.port = r.port
  resumes : Resumes data r.offerings
  beginning : r.taken <+: data
  /-- The port took nothing of an offer exactly if it fell short without failing one. -/
  stalled : (∃ o ∈ r.offerings, o.outcome = .taken 0) ↔
    faultsOf r.offerings = [] ∧ r.taken ≠ data
  /-- The line reports the first fault, or else how many bytes were taken. -/
  reported : (Transport.write s.device data).1 = r.outcome
  complete : (writeBytes data s).1 = .ok () ↔ r.faults = [] ∧ r.taken = data
  /-- A flush that fails behind the offers is told in place of the shortfall. -/
  short : (writeBytes data s).1 = .error (.connecting (.shortWrite data.length r.taken.length)) ↔
    r.faults = [] ∧ ∃ o ∈ r.offerings, o.outcome = .taken 0
  failed : ∀ fault, r.faults.head? = some fault →
    (writeBytes data s).1 = .error (.connecting (.ofPort fault))

/-- **A write resumes where the port has come to**, whatever comes of its offers. That is so over
    any port, and no sequence of outcomes is left out: some port follows it, for any number of
    offers. -/
theorem writes_resume (data : Bytes) :
    (∀ {π : Type} [Port π] (s : Session (SerialLine π)),
      Written s data (Port.record s.device.port data)) ∧
    ∀ (p : Sequenced) (i : Nat) (o : Offering), (Port.record p data).offerings[i]? = some o →
      i < p.lasts → o.outcome = (p.outcomes i).upTo o.bytes.length := by
  refine ⟨fun {π} _ s => ?_, fun p i o here early => ?_⟩
  · obtain ⟨q, offers, kept, plain⟩ := Port.exists_record s.device.port data
    obtain ⟨notices, run⟩ := writeBytes_apply data s
    have beginning := offers.resumes.takenOf_prefix
    have stalled := offers.stalled_iff
    -- flushes are among the faults of a record too, so this goes one way only
    have sound (h : (Port.record s.device.port data).faults = []) :
        faultsOf (Port.record s.device.port data).offerings = [] := (List.append_eq_nil_iff.mp h).1
    rw [write_line, plain] at run
    refine ⟨?_, ?_, offers.resumes, beginning, stalled, ?_, ?_, ?_, fun fault first => ?_⟩
    · rw [write_line, write_line, kept]
    · rw [run]
    · rw [write_line, plain]
    · rw [run]
      exact writeResult_eq_ok_iff beginning
    · rw [run, stalled]
      refine (writeResult_eq_short_iff beginning).trans (and_congr_right fun h => ?_)
      exact (and_iff_right (sound h)).symm
    · rw [run]
      exact writeResult_of_fault first
  · obtain ⟨q, offers, -, -⟩ := Port.exists_record p data
    exact Sequenced.outcome_of_offers offers here early

/-- A port that takes two bytes, is interrupted twice, takes one more, and then nothing. -/
def halting : Sequenced where
  outcomes i := [.taken 2, .interrupted, .interrupted, .taken 1].getD i (.taken 0)
  lasts := 5
  gone := .system .other "gone"

/-- Each offer begins with the byte the port has come to, and the count is exact. -/
theorem writes_resume_halting :
    let r := Port.record halting [1, 2, 3, 4, 5]
    r.offerings = [⟨[1, 2, 3, 4, 5], .taken 2⟩, ⟨[3, 4, 5], .interrupted⟩,
      ⟨[3, 4, 5], .interrupted⟩, ⟨[3, 4, 5], .taken 1⟩, ⟨[4, 5], .taken 0⟩] ∧
    r.faults = [] ∧ (2 < halting.lasts ∧ halting.outcomes 2 = .interrupted) ∧
    (writeBytes [1, 2, 3, 4, 5] (start (SerialLine.mk halting) {})).1 =
      .error (.connecting (.shortWrite 5 3)) := by
  intro r
  obtain ⟨overPorts, follows⟩ := writes_resume [1, 2, 3, 4, 5]
  have made : Port.Offers halting [1, 2, 3, 4, 5] [⟨[1, 2, 3, 4, 5], .taken 2⟩,
      ⟨[3, 4, 5], .interrupted⟩, ⟨[3, 4, 5], .interrupted⟩, ⟨[3, 4, 5], .taken 1⟩,
      ⟨[4, 5], .taken 0⟩] (((((halting.next 4).next 3).next 2).next 1).next 0) :=
    .took (by decide) rfl <| .interrupted (by decide) rfl <| .interrupted (by decide) rfl <|
      .took (by decide) rfl <| .stalled (by decide) rfl
  have kept := congrArg Prod.snd (Port.writeFrom_recorded made)
  have offers : r.offerings = _ := congrArg Port.Recorded.offerings kept
  have sound : r.faults = [] := congrArg Port.Recorded.faults kept
  have count : r.taken.length = 3 := congrArg (fun r => r.taken.length) kept
  have lasts : 2 < halting.lasts := by decide
  have third : r.offerings[2]? = some ⟨[3, 4, 5], .interrupted⟩ := by
    rw [offers]
    rfl
  have stalled : ∃ o ∈ r.offerings, o.outcome = .taken 0 := by
    rw [offers]
    exact ⟨⟨[4, 5], .taken 0⟩, by decide, rfl⟩
  have short : (writeBytes [1, 2, 3, 4, 5] (start (SerialLine.mk halting) {})).1 =
      .error (.connecting (.shortWrite 5 r.taken.length)) :=
    (overPorts _).short.mpr ⟨sound, stalled⟩
  refine ⟨offers, sound, ⟨lasts, (follows halting 2 _ third lasts).symm⟩, ?_⟩
  rw [short, count]

end Session
end SerialIsp
