import SerialIsp.Proofs.Frames.Operations
import SerialIsp.Proofs.ReadBack
import SerialIsp.Proofs.Transfer.Bounds

/-!
# Progress reports

What a user is told of the progress of an operation, whatever the device does. An `Account` is what
there is to tell: how much there is to do, and the counts that are passed on the way. All of it is
told when the operation succeeds, and when it fails, the front of it, without the end.

Reports are made in three loops and around them, and nowhere else. What is done for one sector or
one block is quiet (`QuietSteps`), however often it has to begin again, so a block that is sent
three times is counted once. What is left to prove is that the loops tell their counts one after
the other (`Reports`).
-/

namespace SerialIsp

open Wire

variable {δ α β : Type}

/-! ## Accounts -/

/-- What there is to tell of an operation: where it works, how much it has to do, and the counts
    that it passes. -/
structure Account where
  address : UInt32
  total : Nat
  counts : List Nat
  increasing : counts.Pairwise (· < ·)
  bounded : ∀ n ∈ counts, n ≤ total

namespace Account

/-- All counts up to the total. -/
def each (address : UInt32) (total : Nat) : Account where
  address
  total
  counts := (List.range total).map (· + 1)
  increasing := List.pairwise_map.mpr (List.pairwise_lt_range.imp Nat.succ_lt_succ)
  bounded := by
    intro n mem
    obtain ⟨k, inside, rfl⟩ := List.mem_map.mp mem
    exact List.mem_range.mp inside

/-- Erasing counts sectors. -/
def ofErase (part : Part) : Account := each part.flashBase part.flashSectors.toNat

/-- Programming counts blocks. -/
def ofProgram (part : Part) (plan : Plan) : Account := each part.flashBase plan.blocks.length

/-- The bytes that have arrived with each block. -/
def arrivals (count : Nat) : List Nat :=
  (List.range (blockCount count)).map fun k => min (blockCapacity * (k + 1)) count

theorem arrivals_increasing (count : Nat) : (arrivals count).Pairwise (· < ·) := by
  refine List.pairwise_map.mpr (List.pairwise_lt_range.imp_of_mem fun _ there ordered => ?_)
  -- there is something left for the later of two blocks
  have more := List.mem_range.mp there
  rw [blockCount_eq] at more
  unfold blockCapacity lineCapacity linesPerBlock
  omega

/-- Reading counts bytes, as many as have arrived with each block; a raw read is not counted. -/
def ofRead (address : UInt32) (count : Nat) : Encoding → Account
  | .raw => { address, total := count, counts := [], increasing := .nil, bounded := nofun }
  | .lines =>
    { address, total := count, counts := arrivals count
      increasing := arrivals_increasing count
      bounded := by
        intro n mem
        obtain ⟨k, -, rfl⟩ := List.mem_map.mp mem
        exact Nat.min_le_right .. }

/-- All of an account but the end. -/
def front (account : Account) : List Progress :=
  .start account.address account.total :: account.counts.map .update

/-- What is told of an operation, by whether it succeeds. -/
inductive Told (account : Account) : Bool → List Progress → Prop
  | nothing : Told account false []
  | broken {seen : List Nat} (front : seen <+: account.counts) :
    Told account false (.start account.address account.total :: seen.map .update)
  | whole :
    Told account true
      (.start account.address account.total :: account.counts.map .update ++ [.finish])

end Account

/-! ## What actions tell -/

namespace Session

/-- From one session to the other these reports were made, if reports are wanted. -/
def Reported (wanted : Bool) (s s' : Session δ) (ps : List Progress) : Prop :=
  s'.journal.progress.toList = s.journal.progress.toList ++ if wanted then ps else []

/-- No report was made. -/
def Unreported (s s' : Session δ) : Prop := s'.journal.progress = s.journal.progress

theorem Reported.append {wanted : Bool} {s t u : Session δ} {ps qs : List Progress}
    (first : Reported wanted s t ps) (second : Reported wanted t u qs) :
    Reported wanted s u (ps ++ qs) := by
  unfold Reported at *
  rw [second, first, List.append_assoc]
  cases wanted <;> rfl

theorem Unreported.reported {s s' : Session δ} (quiet : Unreported s s') (wanted : Bool) :
    Reported wanted s s' [] := by
  unfold Reported
  rw [quiet]
  cases wanted <;> exact (List.append_nil _).symm

/-- In every run, all that is due is told if the action succeeds, and else the front of `most`. -/
def Reports (wanted : Bool) (most due : List Progress) (action : SessionM δ α) : Prop :=
  ∀ s, match action s with
    | (.ok _, s') => Reported wanted s s' due
    | (.error _, s') => ∃ ps, ps <+: most ∧ Reported wanted s s' ps

section

variable {wanted : Bool} {most rest due later : List Progress} {action : SessionM δ α}
  {next : α → SessionM δ β}

theorem Reports.of_ok (h : Reports wanted most due action) {s s' : Session δ} {a : α}
    (run : action s = (.ok a, s')) : Reported wanted s s' due := by
  have here := h s
  rwa [run] at here

theorem Reports.of_error (h : Reports wanted most due action) {s s' : Session δ} {failure : Failure}
    (run : action s = (.error failure, s')) : ∃ ps, ps <+: most ∧ Reported wanted s s' ps := by
  have here := h s
  rwa [run] at here

theorem Reports.bind (first : Reports wanted most due action)
    (second : ∀ a, Reports wanted rest later (next a)) (fits : due ++ rest <+: most) :
    Reports wanted most (due ++ later) (action >>= next) := by
  intro s
  rw [run_bind]
  rcases run : action s with ⟨failure | a, s'⟩
  · exact first.of_error run
  dsimp only
  rcases run' : next a s' with ⟨failure | b, s''⟩
  · obtain ⟨ps, front, told⟩ := (second a).of_error run'
    exact ⟨due ++ ps, ((List.prefix_append_right_inj due).mpr front).trans fits,
      (first.of_ok run).append told⟩
  · exact (first.of_ok run).append ((second a).of_ok run')

theorem reports_of_stays (quiet : Stays Unreported action) (most : List Progress) :
    Reports wanted most [] action := by
  intro s
  have same := (quiet s).reported wanted
  rcases run : action s with ⟨failure | a, s'⟩
  · rw [run] at same
    exact ⟨[], List.nil_prefix, same⟩
  · rw [run] at same
    exact same

theorem Reports.after (quiet : Stays Unreported action)
    (second : ∀ a, Reports wanted most due (next a)) : Reports wanted most due (action >>= next) :=
  (reports_of_stays quiet most).bind second (List.prefix_refl most)

theorem Reports.before (first : Reports wanted most due action) (all : due <+: most)
    (quiet : ∀ a, Stays Unreported (next a)) : Reports wanted most due (action >>= next) := by
  have both : Reports wanted most (due ++ []) (action >>= next) :=
    first.bind (fun a => reports_of_stays (quiet a) []) (by rwa [List.append_nil])
  rwa [List.append_nil] at both

/-- What cannot fail may follow the last report. -/
theorem Reports.ending (first : Reports wanted most due action)
    (ends : ∀ a s, ∃ b s', next a s = (.ok b, s') ∧ Reported wanted s s' later) :
    Reports wanted most (due ++ later) (action >>= next) := by
  intro s
  rw [run_bind]
  rcases run : action s with ⟨failure | a, s'⟩
  · exact first.of_error run
  · obtain ⟨b, s'', run', told⟩ := ends a s'
    dsimp only
    rw [run']
    exact (first.of_ok run).append told

theorem report_apply (wanted : Bool) (p : Progress) (s : Session δ) :
    ∃ s', (report wanted p : SessionM δ Unit) s = (.ok (), s') ∧ Reported wanted s s' [p] := by
  cases wanted with
  | false => exact ⟨s, rfl, (List.append_nil _).symm⟩
  | true => exact ⟨_, rfl, Array.toList_push⟩

/-- The last report, and what cannot fail behind it. -/
theorem Reports.finishing (first : Reports wanted most due action) (p : Progress)
    (ends : ∀ a s, ∃ b s', next a s = (.ok b, s') ∧ Unreported s s') :
    Reports wanted most (due ++ [p]) (action >>= fun a => report wanted p >>= fun _ => next a) := by
  refine first.ending fun a s => ?_
  obtain ⟨s', run, told⟩ := report_apply wanted p s
  obtain ⟨b, s'', run', quiet⟩ := ends a s'
  exact ⟨b, s'', by rw [run_bind, run]; exact run', told.append (quiet.reported wanted)⟩

theorem reports_report (p : Progress) (most : List Progress) :
    Reports wanted most [p] (report wanted p : SessionM δ Unit) := by
  intro s
  obtain ⟨s', run, told⟩ := report_apply wanted p s
  rw [run]
  exact told

/-- The report comes first. -/
theorem Reports.reporting {next : Unit → SessionM δ β} (p : Progress)
    (second : Reports wanted most due (next ())) :
    Reports wanted (p :: most) (p :: due) (report wanted p >>= next) :=
  (reports_report p _).bind (fun _ => second) (List.prefix_refl _)

/-- The end of the account is told with success. -/
def GivesAccount (wanted : Bool) (account : Account) (action : SessionM δ α) : Prop :=
  Reports wanted account.front (account.front ++ [.finish]) action

/-- What is told in a run that gives an account. -/
theorem GivesAccount.told {account : Account} (h : GivesAccount wanted account action)
    (s : Session δ) :
    ∃ ps, Reported wanted s (action s).2 ps ∧ account.Told (action s).1.isOk ps := by
  rcases run : action s with ⟨failure | a, s'⟩
  · obtain ⟨ps, front, told⟩ := h.of_error run
    refine ⟨ps, told, ?_⟩
    cases ps with
    | nil => exact .nothing
    | cons p ps =>
      obtain ⟨rfl, behind⟩ := List.cons_prefix_cons.mp front
      rw [List.prefix_iff_eq_take.mp behind, ← List.map_take]
      exact .broken (List.take_prefix _ _)
  · exact ⟨_, h.of_ok run, .whole⟩

end

/-! ## Quiet actions -/

variable [Transport δ]

theorem quietSteps_unreported : QuietSteps (Unreported (δ := δ)) where
  refl _ := rfl
  trans first second := second.trans first
  noted _ _ := rfl
  took _ := rfl
  held _ _ _ := rfl
  wrote _ _ := rfl
  read _ _ := rfl

theorem quietAsks_unreported (kinds : List CommandKind) :
    QuietAsks kinds (Unreported (δ := δ)) where
  toQuietSteps := quietSteps_unreported
  asked c _ := quietSteps_unreported.commandStatus (fun quiet => quiet) c

/-! ## Loops -/

section

variable (wanted : Bool)

/-- Updates to so many counts. -/
def updates (n : Nat) (count : Nat → Nat) : List Progress :=
  (List.range n).map fun k => .update (count k)

theorem updates_succ (n : Nat) (count : Nat → Nat) :
    updates (n + 1) count = .update (count 0) :: updates n fun k => count (k + 1) := by
  rw [updates, List.range_succ_eq_map, List.map_cons, List.map_map]
  rfl

omit [Transport δ] in
theorem map_counts_each (address : UInt32) (total : Nat) :
    (Account.each address total).counts.map .update = updates total (· + 1) := List.map_map ..

theorem clearSectors_reports (sector : UInt32) (left : Nat)
    (inside : sector.toNat + left < UInt32.size) :
    Reports wanted (updates left (sector.toNat + · + 1)) (updates left (sector.toNat + · + 1))
      (clearSectors wanted sector left : SessionM δ Nat) := by
  have quiet := quietAsks_unreported (δ := δ) erasing
  induction left generalizing sector with
  | zero => exact reports_of_stays (quiet.pure 0) []
  | succ left ih =>
    have next : (sector + 1).toNat = sector.toNat + 1 := by
      rw [UInt32.toNat_add]
      refine Nat.mod_eq_of_lt ?_
      show sector.toNat + 1 < UInt32.size
      omega
    have rest := ih (sector + 1) (by rw [next]; omega)
    rw [next] at rest
    rw [updates_succ]
    have cleared := quiet.clearSector (by decide) (by decide) (by decide) sector
    refine .after cleared fun erased => .reporting _ ?_
    have same : (sector.toNat + 1 + · + 1) = fun k => sector.toNat + (k + 1) + 1 :=
      funext fun k => by omega
    rw [same] at rest
    exact rest.before (List.prefix_refl _) fun _ => quiet.pure _

theorem programBlocks_reports (part : Part) (blockSize : UInt32) (index : Nat)
    (blocks : List Bytes) :
    Reports wanted (updates blocks.length (index + · + 1)) (updates blocks.length (index + · + 1))
      (programBlocks part blockSize wanted index blocks : SessionM δ Unit) := by
  have quiet := quietAsks_unreported (δ := δ) programming
  induction blocks generalizing index with
  | nil => exact reports_of_stays (quiet.pure ()) []
  | cons block blocks ih =>
    have rest := ih (index + 1)
    have same : (index + 1 + · + 1) = fun k => index + (k + 1) + 1 := funext fun k => by omega
    rw [same] at rest
    rw [List.length_cons, updates_succ]
    have written := quiet.programBlock (by decide) (by decide) (by decide) part blockSize index
      block
    exact .after written fun _ => .reporting _ rest

theorem readBlocksFrom_reports (count block left : Nat) (inside : left ≤ count) :
    Reports wanted
      (updates (blockCount left) fun k => count - left + min (blockCapacity * (k + 1)) left)
      (updates (blockCount left) fun k => count - left + min (blockCapacity * (k + 1)) left)
      (readBlocksFrom wanted count block left : SessionM δ Bytes) := by
  have quiet := quietSteps_unreported (δ := δ)
  induction left using Nat.strongRecOn generalizing block with
  | ind left ih =>
    rw [readBlocksFrom]
    split
    · next none =>
      subst none
      exact reports_of_stays (quiet.pure []) []
    · next more =>
      have rest := ih _ (sub_block_lt more) (block + 1) (by omega)
      have fewer : blockCount left = blockCount (left - min left blockCapacity) + 1 := by
        rw [blockCount_eq, blockCount_eq]
        unfold blockCapacity lineCapacity linesPerBlock
        omega
      have here : count - left + min (blockCapacity * (0 + 1)) left =
          count - (left - min left blockCapacity) := by omega
      have behind : (fun k => count - left + min (blockCapacity * (k + 1 + 1)) left) = fun k =>
          count - (left - min left blockCapacity) +
            min (blockCapacity * (k + 1)) (left - min left blockCapacity) := by
        funext k
        unfold blockCapacity lineCapacity linesPerBlock
        omega
      rw [fewer, updates_succ, here, behind]
      refine .after (quiet.readBlock block _) fun b => .reporting _ ?_
      exact rest.before (List.prefix_refl _) fun _ => quiet.pure _

end

/-! ## Operations -/

section

variable (wanted : Bool)

theorem fetch_reports (address : UInt32) (count : Nat) (encoding : Encoding) :
    GivesAccount wanted (Account.ofRead address count encoding)
      (fetch address count encoding wanted : SessionM δ Bytes) := by
  have quiet := quietSteps_unreported (δ := δ)
  have ended (data : Bytes) (s : Session δ) :
      ∃ b s', (pure data : SessionM δ Bytes) s = (.ok b, s') ∧ Unreported s s' :=
    ⟨data, s, rfl, rfl⟩
  cases encoding with
  | raw =>
    have read : Stays Unreported (during .readMemory (readExact count) : SessionM δ Bytes) :=
      stays_during _ (quiet.readExact count)
    exact .reporting _ ((reports_of_stays read []).finishing _ ended)
  | lines =>
    have read := readBlocksFrom_reports (δ := δ) wanted count 0 count (Nat.le_refl _)
    have counts : (updates (blockCount count) fun k =>
        count - count + min (blockCapacity * (k + 1)) count) =
        (Account.arrivals count).map .update := by
      rw [Nat.sub_self, updates, Account.arrivals, List.map_map]
      simp only [Nat.zero_add, Function.comp_def]
    rw [counts] at read
    exact .reporting _ (.finishing (.after (quiet.notify _) fun _ => read) _ ended)

theorem readMemory_reports (address count : UInt32) (encoding : Encoding) :
    GivesAccount wanted (Account.ofRead address count.toNat encoding)
      (readMemory address count encoding wanted : SessionM δ Bytes) := by
  have quiet := quietAsks_unreported (δ := δ) [.readMemory]
  refine .after (quiet.ofExcept _) fun _ => .after (quiet.ofExcept _) fun _ => ?_
  exact .after (quiet.command _ List.mem_cons_self) fun _ => fetch_reports wanted _ _ _

theorem eraseFlash_reports (part : Part) :
    GivesAccount wanted (Account.ofErase part)
      (eraseFlash part wanted : SessionM δ Unit) := by
  have quiet := quietAsks_unreported (δ := δ) erasing
  have ended (erased : Nat) (s : Session δ) : ∃ b s',
      (notify (.erased erased part.flashSectors) : SessionM δ Unit) s = (.ok b, s') ∧
        Unreported s s' := ⟨(), _, rfl, rfl⟩
  have cleared := clearSectors_reports (δ := δ) wanted 0 part.flashSectors.toNat
    (by simpa using part.flashSectors.toNat_lt)
  rw [UInt32.toNat_zero] at cleared
  simp only [Nat.zero_add] at cleared
  rw [← map_counts_each part.flashBase] at cleared
  exact .after (quiet.command .unlock (by decide)) fun _ => .reporting _ (cleared.finishing _ ended)

theorem programFlash_reports (part : Part) (plan : Plan) :
    GivesAccount wanted (Account.ofProgram part plan)
      (programFlash part plan wanted : SessionM δ Unit) := by
  have quiet := quietSteps_unreported (δ := δ)
  have programmed := programBlocks_reports (δ := δ) wanted part plan.blockSize 0
    plan.blocks
  simp only [Nat.zero_add] at programmed
  rw [← map_counts_each part.flashBase] at programmed
  refine .after (quiet.notify _) fun _ => .reporting _ (programmed.ending fun _ s => ?_)
  exact ⟨(), report_apply wanted .finish s⟩

/-- What verifying reports is what its read reports. -/
theorem verifyFlash_unreported {part : Part} {plan : Plan} (fits : plan.Fits part)
    (long : remappedLength < plan.data.length) (s : Session δ) :
    Unreported (readBack part plan.data wanted s).2 (verifyFlash part plan.data wanted s).2 := by
  have small := Nat.lt_of_le_of_lt fits.inFlash part.flashSize.toNat_lt
  rcases read : readBack part plan.data wanted s with ⟨failure | received, s'⟩
  · rw [verifyFlash_of_error long read]
    rfl
  · obtain ⟨same, other⟩ := verifyFlash_of_read long small read
    by_cases equal : received = plan.data.drop remappedLength
    · rw [same equal]
      rfl
    · obtain ⟨offset, -, run⟩ := other equal
      rw [run]
      rfl

/-- Verifying tells of its read. -/
theorem verifyFlash_told {part : Part} {plan : Plan} (fits : plan.Fits part)
    (long : remappedLength < plan.data.length) (s : Session δ) :
    ∃ ps, Reported wanted s (verifyFlash part plan.data wanted s).2 ps ∧
      (Account.ofRead (part.flashBase + remappedLength.toUInt32)
        (plan.data.length - remappedLength) part.encoding).Told
          (readBack part plan.data wanted s).1.isOk ps := by
  have count := fits.toNat_readLength
  rw [List.length_drop] at count
  have read : GivesAccount wanted (Account.ofRead (part.flashBase + remappedLength.toUInt32)
      (plan.data.length - remappedLength) part.encoding)
      (readBack part plan.data wanted : SessionM δ Bytes) := by
    rw [← count]
    exact readMemory_reports wanted _ _ _
  obtain ⟨ps, reported, told⟩ := read.told s
  have all := reported.append ((verifyFlash_unreported wanted fits long s).reported wanted)
  rw [List.append_nil] at all
  exact ⟨ps, all, told⟩

end

end Session

namespace Programmer

variable [Transport δ]

/-- What is told while an image is programmed: of each phase that was started, in order, by whether
    it succeeds, each phase taken on the session that the phase before it left. Verifying tells of
    its read only, by whether that succeeds. -/
inductive Told (image : Image) (mode : UserCode) (verify wanted : Bool) (P : Programmer δ) :
    List Progress → Prop
  | refused {failure : Failure} (refused : Plan.make P.part image mode = .error failure) :
    Told image mode verify wanted P []
  | erasing {plan : Plan} {failure : Failure} {ps : List Progress}
      (made : Plan.make P.part image mode = .ok plan)
      (failed : (Session.eraseFlash P.part wanted
        (P.session.noted (image.sumNotices mode))).1 = .error failure)
      (erased : (Account.ofErase P.part).Told false ps) :
    Told image mode verify wanted P ps
  | programming {plan : Plan} {s : Session δ} {failure : Failure} {ps qs : List Progress}
      (made : Plan.make P.part image mode = .ok plan)
      (cleared : Session.eraseFlash P.part wanted
        (P.session.noted (image.sumNotices mode)) = (.ok (), s))
      (failed : (Session.programFlash P.part plan wanted s).1 = .error failure)
      (erased : (Account.ofErase P.part).Told true ps)
      (programmed : (Account.ofProgram P.part plan).Told false qs) :
    Told image mode verify wanted P (ps ++ qs)
  | written {plan : Plan} {s : Session δ} {ps qs : List Progress}
      (made : Plan.make P.part image mode = .ok plan)
      (written : Written image mode wanted P plan s)
      (unread : verify = true → plan.data.length ≤ Session.remappedLength)
      (erased : (Account.ofErase P.part).Told true ps)
      (programmed : (Account.ofProgram P.part plan).Told true qs) :
    Told image mode verify wanted P (ps ++ qs)
  | reading {plan : Plan} {s : Session δ} {ps qs rs : List Progress}
      (made : Plan.make P.part image mode = .ok plan)
      (written : Written image mode wanted P plan s)
      (verifies : verify = true) (long : Session.remappedLength < plan.data.length)
      (erased : (Account.ofErase P.part).Told true ps)
      (programmed : (Account.ofProgram P.part plan).Told true qs)
      (read : (Account.ofRead (P.part.flashBase + Session.remappedLength.toUInt32)
        (plan.data.length - Session.remappedLength) P.part.encoding).Told
          (Session.readBack P.part plan.data wanted s).1.isOk rs) :
    Told image mode verify wanted P (ps ++ qs ++ rs)

theorem erase_unreported (wanted : Bool) (P : Programmer δ) :
    Session.Unreported (Session.eraseFlash P.part wanted P.session).2
      (erase wanted P).2.session := by
  rw [erase, operation_apply]
  simp only [run_bind, run_get, onSession_apply]
  rcases Session.eraseFlash P.part wanted P.session with ⟨failure | _, s⟩
  · rfl
  · rfl

variable {image : Image} {mode : UserCode} {wanted : Bool} {P : Programmer δ} {plan : Plan}

/-- What is told where every block was written. -/
theorem flash_told_of_written {s : Session δ} {ps qs : List Progress}
    (made : Plan.make P.part image mode = .ok plan) (written : Written image mode wanted P plan s)
    (reported : Session.Reported wanted P.session s (ps ++ qs))
    (erased : (Account.ofErase P.part).Told true ps)
    (programmed : (Account.ofProgram P.part plan).Told true qs) (verify : Bool) :
    ∃ ps, Session.Reported wanted P.session (flash image mode verify wanted P).2.session ps ∧
      Told image mode verify wanted P ps := by
  have fits := Plan.fits_of_make made
  have run : flash image mode verify wanted P = _ := flash_of_make made
  have ⟨s₀, cleared, done⟩ := written
  simp only [cleared, done] at run
  rw [run]
  cases verify with
  | false => exact ⟨ps ++ qs, reported, .written made written nofun erased programmed⟩
  | true =>
    by_cases short : plan.data.length ≤ Session.remappedLength
    · simp only [↓reduceIte, Session.verifyFlash_of_short short]
      exact ⟨ps ++ qs, reported, .written made written (fun _ => short) erased programmed⟩
    · have long := Nat.lt_of_not_le short
      obtain ⟨rs, reported', read⟩ := Session.verifyFlash_told wanted fits long s
      have all := reported.append reported'
      refine ⟨ps ++ qs ++ rs, ?_, .reading made written rfl long erased programmed read⟩
      simp only [↓reduceIte]
      rcases verified : Session.verifyFlash P.part plan.data wanted s with ⟨failure | _, s'⟩
      all_goals
        rw [verified] at all
        exact all

theorem flash_told (image : Image) (mode : UserCode) (verify wanted : Bool) (P : Programmer δ) :
    ∃ ps, Session.Reported wanted P.session (flash image mode verify wanted P).2.session ps ∧
      Told image mode verify wanted P ps := by
  cases made : Plan.make P.part image mode with
  | error failure =>
    rw [flash_of_error made]
    exact ⟨[], Session.Unreported.reported rfl wanted, .refused made⟩
  | ok plan =>
    have run : flash image mode verify wanted P = _ := flash_of_make made
    obtain ⟨ps, reported, erased⟩ := (Session.eraseFlash_reports (δ := δ) wanted P.part).told
      (P.session.noted (image.sumNotices mode))
    rcases cleared : Session.eraseFlash P.part wanted (P.session.noted (image.sumNotices mode))
      with ⟨failure | _, s⟩
    · rw [cleared] at run reported erased
      rw [run]
      exact ⟨ps, reported, .erasing made (congrArg Prod.fst cleared) erased⟩
    rw [cleared] at run reported erased
    obtain ⟨qs, reported', programmed⟩ :=
      (Session.programFlash_reports (δ := δ) wanted P.part plan).told s
    have both := Session.Reported.append reported reported'
    dsimp only at run
    rcases done : Session.programFlash P.part plan wanted s with ⟨failure | _, s'⟩
    · rw [done] at run both programmed
      rw [run]
      refine ⟨ps ++ qs, both, ?_⟩
      exact .programming made cleared (congrArg Prod.fst done) erased programmed
    · rw [done] at both programmed
      exact flash_told_of_written made ⟨s, cleared, done⟩ both erased programmed verify

end Programmer

/-- **Progress is told in order**, whatever the device does: nothing at all, or a start, counts that
    grow up to the total, and the end exactly if what was told of succeeded. Reading memory, erasing
    and each phase of programming an image tell all of their counts when they succeed, and without
    someone to tell, nothing is told. -/
theorem progress_in_order (δ : Type) [Transport δ] (wanted : Bool) :
    (∀ (address count : UInt32) (encoding : Encoding) (s : Session δ),
      let run := Session.readMemory address count encoding wanted s
      ∃ ps, Session.Reported wanted s run.2 ps ∧
        (Account.ofRead address count.toNat encoding).Told run.1.isOk ps) ∧
    (∀ P : Programmer δ,
      let run := Programmer.erase wanted P
      ∃ ps, Session.Reported wanted P.session run.2.session ps ∧
        (Account.ofErase P.part).Told run.1.isOk ps) ∧
    ∀ (image : Image) (mode : UserCode) (verify : Bool) (P : Programmer δ),
      let run := Programmer.flash image mode verify wanted P
      ∃ ps, Session.Reported wanted P.session run.2.session ps ∧
        Programmer.Told image mode verify wanted P ps := by
  refine ⟨fun address count encoding s => ?_, fun P => ?_, fun image mode verify P => ?_⟩
  · exact (Session.readMemory_reports wanted address count encoding).told s
  · obtain ⟨ps, reported, told⟩ := (Session.eraseFlash_reports wanted P.part).told P.session
    have quiet := (Programmer.erase_unreported wanted P).reported wanted
    exact ⟨ps, List.append_nil ps ▸ reported.append quiet,
      Programmer.erase_result wanted P ▸ told⟩
  · exact Programmer.flash_told image mode verify wanted P

end SerialIsp
