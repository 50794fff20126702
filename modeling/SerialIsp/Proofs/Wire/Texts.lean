import SerialIsp.Proofs.Wire.Numbers

/-!
# Words among bytes

Any bytes are read as some text, and replies are compared as texts. `lossy_eq_iff` says that
nothing is lost by that where a word of ASCII characters is looked for: the only bytes that read
as the word are those it is spelled in. Malformed runs read as the replacement character, and a
sequence of several bytes never reads as an ASCII character.
-/

namespace SerialIsp.Text

/-- The characters that are spelled by one byte, apart from the zero character. -/
def IsPlain (c : Char) : Prop := 0 < c.toNat ∧ c.toNat < 0x80

instance (c : Char) : Decidable (IsPlain c) := inferInstanceAs (Decidable (_ ∧ _))

theorem ofNat_of_isPlain {n : Nat} (plain : IsPlain (Char.ofNat n)) : n < 0x80 := by
  by_cases valid : n.isValidChar
  · rw [Char.ofNat, dif_pos valid] at plain
    exact plain.2
  · rw [Char.ofNat, dif_neg valid] at plain
    exact absurd plain.1 (Nat.lt_irrefl 0)

theorem not_isPlain_replacement : ¬ IsPlain Utf8.replacement := by decide

namespace Utf8

/-- A character that was begun, and can only be finished as one beyond ASCII. -/
def Pending.Long (p : Pending) : Prop :=
  ∀ c : UInt8, p.low ≤ c → c ≤ p.high →
    (if p.owed = 0 then 0x80 else 2) ≤ p.bits * 64 + c.toNat % 64

theorem Pending.Long.of_lead {b : UInt8} {p : Pending} (h : lead b = .begins p) : p.Long := by
  intro c low high
  have low : p.low.toNat ≤ c.toNat := low
  have high : c.toNat ≤ p.high.toNat := high
  unfold lead at h
  dsimp only at h
  repeat' split at h
  all_goals cases h
  all_goals simp at low high ⊢
  all_goals omega

theorem Pending.Long.next {bits : Nat} (big : 2 ≤ bits) (owed : Nat) :
    Pending.Long ⟨bits, owed, 0x80, 0xBF⟩ := by
  intro c _ _
  dsimp only
  split <;> omega

/-- What was begun as a longer character never starts a plain word. -/
theorem not_isPlain_of_long {p : Pending} (long : p.Long) (rest : Bytes) :
    ∃ c cs, (scan (some p) rest).map (·.getD replacement) = c :: cs ∧ ¬ IsPlain c := by
  induction rest generalizing p with
  | nil => exact ⟨_, _, rfl, not_isPlain_replacement⟩
  | cons b rest ih =>
    simp only [scan, Step.within]
    by_cases inRange : p.low ≤ b ∧ b ≤ p.high
    · have big := long b inRange.1 inRange.2
      simp only [inRange, and_self, ↓reduceIte]
      cases owed : p.owed with
      | zero =>
        rw [owed, if_pos rfl] at big
        exact ⟨_, _, rfl, fun plain => Nat.not_lt.mpr big (ofNat_of_isPlain plain)⟩
      | succ n =>
        rw [owed] at big
        exact ih (.next big n)
    · simp only [inRange, ↓reduceIte]
      exact ⟨_, _, rfl, not_isPlain_replacement⟩

theorem eq_of_lead_whole {b : UInt8} {c : Char} (h : lead b = .whole c) :
    c.toNat.toUInt8 = b := by
  unfold lead at h
  dsimp only at h
  repeat' split at h
  all_goals cases h
  next small =>
    have valid : b.toNat.isValidChar := .inl (Nat.lt_trans small (by decide))
    rw [Char.ofNat, dif_pos valid]
    exact UInt8.ofNat_toNat

/-- **A plain word is spelled in one way only.** -/
theorem lossyChars_inj {b : Bytes} {cs : List Char} (plain : ∀ c ∈ cs, IsPlain c)
    (h : lossyChars b = cs) : b = cs.map fun c => c.toNat.toUInt8 := by
  unfold lossyChars at h
  induction b generalizing cs with
  | nil =>
    obtain rfl : [] = cs := h
    rfl
  | cons b rest ih =>
    have first {c : Char} {later : List Char} (h : c :: later = cs) : IsPlain c :=
      plain c (h ▸ List.mem_cons_self)
    simp only [scan, Step.fresh] at h
    cases kind : lead b with
    | whole c =>
      rw [kind] at h
      have read : c :: (scan none rest).map (·.getD replacement) = cs := h
      rw [← read] at plain ⊢
      rw [List.map_cons, eq_of_lead_whole kind,
        ← ih (fun d mem => plain d (List.mem_cons_of_mem _ mem)) rfl]
    | begins p =>
      rw [kind] at h
      obtain ⟨c, later, read, beyond⟩ := not_isPlain_of_long (.of_lead kind) rest
      exact absurd (first (read.symm.trans h)) beyond
    | stray =>
      rw [kind] at h
      exact absurd (first h) not_isPlain_replacement

end Utf8

theorem lossy_eq_iff {b : Bytes} {s : String} (plain : ∀ c ∈ s.toList, IsPlain c) :
    Utf8.lossy b = s ↔ b = Bytes.ascii s := by
  constructor
  · rintro rfl
    rw [Utf8.lossy, String.toList_ofList] at plain
    rw [Bytes.ascii, Utf8.lossy, String.toList_ofList]
    exact Utf8.lossyChars_inj plain rfl
  · rintro rfl
    exact lossy_ascii fun c mem => (plain c mem).2

end SerialIsp.Text
