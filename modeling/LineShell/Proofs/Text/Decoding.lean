import LineShell.Text.Utf8

/-!
# Bytes that are a text

Every text can be written as bytes and read back (`Utf8.decode?_encode`). Here is the other half:
bytes that can be read are those that writing the text gives (`Utf8.encode_of_decode?`), so a text
has one written form, and no two byte strings are read as the same text.

The reader is a machine that keeps a character in progress. What is kept says which bytes were read
of it: whatever bytes may follow, the character that they complete is written with those bytes in
front (`Partway.Completes`). The first byte of a character establishes this, each further byte
keeps it.

No byte of a longer character is a character by itself, so a byte below 0x80 stands for one
character wherever it is found (`Utf8.toNat_eq_of_mem_encodeChar`).
-/

namespace LineShell

namespace Utf8

/-- The bytes `before` begin a character of which `value` is known: after one more byte between the
bounds, and `more` further ones, the character is written as they stand. -/
def CompletesFrom (value : Nat) (before : Bytes) : (more least greatest : Nat) → Prop
  | 0, least, greatest => ∀ b : UInt8, least ≤ b.toNat → b.toNat ≤ greatest →
      (64 * value + (b.toNat - 0x80)).isValidChar ∧
      encodeScalar (64 * value + (b.toNat - 0x80)) = before ++ [b]
  | more + 1, least, greatest => ∀ b : UInt8, least ≤ b.toNat → b.toNat ≤ greatest →
      CompletesFrom (64 * value + (b.toNat - 0x80)) (before ++ [b]) more 0x80 0xBF

/-- The bytes `before` begin the character in progress. -/
def Partway.Completes (p : Partway) (before : Bytes) : Prop :=
  CompletesFrom p.value before p.more p.least p.greatest

/-! ### The first byte -/

theorem ofNat_eq {k : Nat} {b : UInt8} (h : k = b.toNat) : UInt8.ofNat k = b := by
  rw [h, UInt8.ofNat_toNat]

theorem encodeScalar_two {n : Nat} {b c : UInt8} (low : 0x80 ≤ n) (high : n < 0x800)
    (hb : 0xC0 + n / 64 = b.toNat) (hc : 0x80 + n % 64 = c.toNat) : encodeScalar n = [b, c] := by
  rw [encodeScalar, if_neg (by omega), if_pos high, ofNat_eq hb, ofNat_eq hc]

theorem encodeScalar_three {n : Nat} {b c d : UInt8} (low : 0x800 ≤ n) (high : n < 0x10000)
    (hb : 0xE0 + n / 4096 = b.toNat) (hc : 0x80 + n / 64 % 64 = c.toNat)
    (hd : 0x80 + n % 64 = d.toNat) : encodeScalar n = [b, c, d] := by
  rw [encodeScalar, if_neg (by omega), if_neg (by omega), if_pos high, ofNat_eq hb, ofNat_eq hc,
    ofNat_eq hd]

theorem encodeScalar_four {n : Nat} {b c d e : UInt8} (low : 0x10000 ≤ n)
    (hb : 0xF0 + n / 262144 = b.toNat) (hc : 0x80 + n / 4096 % 64 = c.toNat)
    (hd : 0x80 + n / 64 % 64 = d.toNat) (he : 0x80 + n % 64 = e.toNat) :
    encodeScalar n = [b, c, d, e] := by
  rw [encodeScalar, if_neg (by omega), if_neg (by omega), if_neg (by omega), ofNat_eq hb,
    ofNat_eq hc, ofNat_eq hd, ofNat_eq he]

/-- A character of two bytes after its first one. -/
theorem completes_two {b : UInt8} (low : 0xC2 ≤ b.toNat) (high : b.toNat < 0xE0) :
    Partway.Completes ⟨b.toNat - 0xC0, 0, 0x80, 0xBF⟩ [b] := by
  show CompletesFrom (b.toNat - 0xC0) [b] 0 0x80 0xBF
  intro c hlow hhigh
  refine ⟨Or.inl (by omega), encodeScalar_two ?_ ?_ ?_ ?_⟩ <;> omega

/-- A character of three bytes after its first one; the bounds on the second byte keep out what
fewer bytes could write, and the surrogates. -/
theorem completes_three {b : UInt8} {value least greatest : Nat} (hvalue : b.toNat = 0xE0 + value)
    (hsmall : value < 16) (hleast : 0x80 ≤ least) (hgreatest : greatest ≤ 0xBF)
    (hlong : value = 0 → 0xA0 ≤ least) (hvalid : value = 0xD → greatest ≤ 0x9F) :
    Partway.Completes ⟨value, 1, least, greatest⟩ [b] := by
  show CompletesFrom value [b] 1 least greatest
  intro c hc hc' d hd hd'
  -- Only the value 0xD can lead to a surrogate, and only 0 to a character of two bytes.
  have hchar : (64 * (64 * value + (c.toNat - 0x80)) + (d.toNat - 0x80)).isValidChar := by
    rcases Nat.lt_trichotomy value 0xD with h | h | h
    · exact Or.inl (by omega)
    · have := hvalid h
      exact Or.inl (by omega)
    · exact Or.inr (by omega)
  refine ⟨hchar, encodeScalar_three ?_ ?_ ?_ ?_ ?_⟩
  · rcases Nat.eq_zero_or_pos value with h | h
    · have := hlong h
      omega
    · omega
  all_goals omega

/-- A character of four bytes after its first one; the bounds on the second byte keep out what fewer
bytes could write, and what is above the last character. -/
theorem completes_four {b : UInt8} {value least greatest : Nat} (hvalue : b.toNat = 0xF0 + value)
    (hsmall : value ≤ 4) (hleast : 0x80 ≤ least) (hgreatest : greatest ≤ 0xBF)
    (hlong : value = 0 → 0x90 ≤ least) (hvalid : value = 4 → greatest ≤ 0x8F) :
    Partway.Completes ⟨value, 2, least, greatest⟩ [b] := by
  show CompletesFrom value [b] 2 least greatest
  intro c hc hc' d hd hd' e he he'
  have hlast : 64 * value + (c.toNat - 0x80) < 0x110 := by
    rcases Nat.lt_or_eq_of_le hsmall with h | h
    · omega
    · have := hvalid h
      omega
  have hfirst : 0x10 ≤ 64 * value + (c.toNat - 0x80) := by
    rcases Nat.eq_zero_or_pos value with h | h
    · have := hlong h
      omega
    · omega
  refine ⟨Or.inr (by omega), encodeScalar_four ?_ ?_ ?_ ?_ ?_⟩ <;> omega

/-- A first byte begins the character that it announces. -/
theorem completes_of_lead {b : UInt8} {p : Partway} (h : lead b = .first p) : p.Completes [b] := by
  unfold lead at h
  dsimp only at h
  split at h
  · cases h
  split at h
  · cases h
  split at h
  · obtain rfl := Lead.first.inj h
    exact completes_two (by omega) (by omega)
  split at h
  · obtain rfl := Lead.first.inj h
    refine completes_three ?_ ?_ ?_ ?_ ?_ ?_ <;> omega
  split at h
  · obtain rfl := Lead.first.inj h
    refine completes_three ?_ ?_ ?_ ?_ ?_ ?_ <;> omega
  split at h
  · obtain rfl := Lead.first.inj h
    refine completes_three ?_ ?_ ?_ ?_ ?_ ?_ <;> omega
  split at h
  · obtain rfl := Lead.first.inj h
    refine completes_four ?_ ?_ ?_ ?_ ?_ ?_ <;> omega
  split at h
  · obtain rfl := Lead.first.inj h
    refine completes_four ?_ ?_ ?_ ?_ ?_ ?_ <;> omega
  split at h
  · obtain rfl := Lead.first.inj h
    refine completes_four ?_ ?_ ?_ ?_ ?_ ?_ <;> omega
  · cases h

theorem encodeChar_ofNat {n : Nat} (h : n.isValidChar) :
    encodeChar (Char.ofNat n) = encodeScalar n := by
  rw [encodeChar, Char.ofNat, dif_pos h]
  rfl

/-- A byte that is a character by itself is its written form. -/
theorem encodeChar_of_lead {b : UInt8} {c : Char} (h : lead b = .whole c) : encodeChar c = [b] := by
  unfold lead at h
  dsimp only at h
  split at h
  · next hlow =>
    obtain rfl := Lead.whole.inj h
    have hvalid : b.toNat.isValidChar := Or.inl (by omega)
    rw [encodeChar_ofNat hvalid, encodeScalar, if_pos hlow, ofNat_eq rfl]
  all_goals repeat' split at h
  all_goals cases h

/-! ### Reading -/

theorem exists_of_all?_cons {u : Option Char} {us : List (Option Char)} {t : Text}
    (h : all? (u :: us) = some t) : ∃ c t', u = some c ∧ all? us = some t' ∧ t = c :: t' := by
  cases u with
  | none => cases h
  | some c =>
    obtain ⟨t', ht', rfl⟩ := Option.map_eq_some_iff.1 h
    exact ⟨c, t', rfl, ht', rfl⟩

/-- **Bytes that can be read are those that writing the text gives**, also when some of them were
read before. -/
theorem encode_of_unitsFrom (bytes : Bytes) :
    (∀ t, all? (unitsFrom none bytes) = some t → t.encode = bytes) ∧
    ∀ p before t, Partway.Completes p before → all? (unitsFrom (some p) bytes) = some t →
      t.encode = before ++ bytes := by
  induction bytes with
  | nil =>
    refine ⟨fun t h ↦ ?_, fun p before t _ h ↦ nomatch h⟩
    obtain rfl : [] = t := Option.some.inj h
    rfl
  | cons b rest ih =>
    obtain ⟨hnone, hsome⟩ := ih
    refine ⟨fun t h ↦ ?_, fun p before t hp h ↦ ?_⟩
    · rw [unitsFrom] at h
      cases hlead : lead b with
      | whole c =>
        rw [hlead] at h
        obtain ⟨c', t', hc, ht', rfl⟩ := exists_of_all?_cons h
        obtain rfl := Option.some.inj hc
        show encodeChar c ++ Text.encode t' = _
        rw [encodeChar_of_lead hlead, hnone t' ht', List.singleton_append]
      | first p =>
        rw [hlead] at h
        exact hsome p [b] t (completes_of_lead hlead) h
      | stray =>
        rw [hlead] at h
        cases h
    · rw [unitsFrom] at h
      split at h
      · next hbounds =>
        obtain ⟨value, more, least, greatest⟩ := p
        cases more with
        | zero =>
          obtain ⟨c, t', hc, ht', rfl⟩ := exists_of_all?_cons h
          obtain rfl := Option.some.inj hc
          obtain ⟨hvalid, hwritten⟩ := hp b hbounds.1 hbounds.2
          show encodeChar (Char.ofNat _) ++ Text.encode t' = _
          rw [encodeChar_ofNat hvalid, hwritten, hnone t' ht', List.append_assoc,
            List.singleton_append]
        | succ more =>
          have hrest := hsome ⟨_, more, 0x80, 0xBF⟩ (before ++ [b]) t
            (hp b hbounds.1 hbounds.2) h
          rw [hrest, List.append_assoc, List.singleton_append]
      -- A byte out of bounds leaves an ill-formed run, so nothing is read.
      · cases hlead : lead b <;> rw [hlead] at h <;> cases h

/-- **Bytes that can be read are those that writing the text gives.** -/
theorem encode_of_decode? {bytes : Bytes} {t : Text} (h : decode? bytes = some t) :
    t.encode = bytes :=
  (encode_of_unitsFrom bytes).1 t h

/-- Bytes are read as a text exactly when they are its written form. -/
theorem decode?_eq_some_iff {bytes : Bytes} {t : Text} : decode? bytes = some t ↔ t.encode = bytes :=
  ⟨encode_of_decode?, fun h ↦ h ▸ decode?_encode t⟩

/-! ### Bytes of characters -/

/-- The bytes of a longer character are no characters by themselves. -/
theorem le_toNat_of_mem_encodeScalar {n : Nat} (hlow : 0x80 ≤ n) (hhigh : n < 0x110000) :
    ∀ b ∈ encodeScalar n, 0x80 ≤ b.toNat := by
  have hbyte : ∀ k, 0x80 ≤ k → k < 256 → 0x80 ≤ (UInt8.ofNat k).toNat := by
    intro k hk hk'
    rwa [toNat_ofNat hk']
  rw [encodeScalar, if_neg (Nat.not_lt.2 hlow)]
  split
  · simp only [List.forall_mem_cons]
    refine ⟨hbyte _ ?_ ?_, hbyte _ ?_ ?_, nofun⟩ <;> omega
  split
  · simp only [List.forall_mem_cons]
    refine ⟨hbyte _ ?_ ?_, hbyte _ ?_ ?_, hbyte _ ?_ ?_, nofun⟩ <;> omega
  · simp only [List.forall_mem_cons]
    refine ⟨hbyte _ ?_ ?_, hbyte _ ?_ ?_, hbyte _ ?_ ?_, hbyte _ ?_ ?_, nofun⟩ <;> omega

/-- A byte that is a character by itself is written for that character only. -/
theorem toNat_eq_of_mem_encodeChar {c : Char} {b : UInt8} (h : b ∈ encodeChar c)
    (hb : b.toNat < 0x80) : c.toNat = b.toNat := by
  have hhigh : c.toNat < 0x110000 := by
    rcases c.valid with hlow | ⟨-, hhigh⟩
    · exact Nat.lt_trans hlow (by decide)
    · exact hhigh
  rcases Nat.lt_or_ge c.toNat 0x80 with hlow | hlow
  · rw [encodeChar, encodeScalar, if_pos hlow, List.mem_singleton] at h
    rw [h, toNat_ofNat (by omega)]
  · exact absurd (le_toNat_of_mem_encodeScalar hlow hhigh b h) (Nat.not_le.2 hb)

/-- **A character of one byte is read from that byte only**, also when part of another character was
read. -/
theorem mem_of_mem_unitsFrom {c : Char} {byte : UInt8} (hc : encodeChar c = [byte])
    (bytes : Bytes) :
    (some c ∈ unitsFrom none bytes → byte ∈ bytes) ∧
    ∀ p before, Partway.Completes p before → some c ∈ unitsFrom (some p) bytes → byte ∈ bytes := by
  induction bytes with
  | nil => simp [unitsFrom]
  | cons b rest ih =>
    obtain ⟨hnone, hsome⟩ := ih
    -- A byte begins the units behind it in the same way, whether or not a run ends in front of it.
    have hlead : some c ∈ unitsFrom none (b :: rest) → byte ∈ b :: rest := by
      intro h
      rw [unitsFrom] at h
      cases hlead : lead b with
      | whole d =>
        rw [hlead] at h
        rcases List.mem_cons.1 h with hd | h
        · have hb : encodeChar c = [b] := Option.some.inj hd ▸ encodeChar_of_lead hlead
          exact List.mem_cons.2 (Or.inl (List.cons.inj (hc.symm.trans hb)).1)
        · exact List.mem_cons_of_mem _ (hnone h)
      | first p =>
        rw [hlead] at h
        exact List.mem_cons_of_mem _ (hsome p [b] (completes_of_lead hlead) h)
      | stray =>
        rw [hlead] at h
        exact List.mem_cons_of_mem _ (hnone ((List.mem_cons.1 h).resolve_left (by simp)))
    refine ⟨hlead, fun p before hp h ↦ ?_⟩
    rw [unitsFrom] at h
    split at h
    · next hbounds =>
      obtain ⟨value, more, least, greatest⟩ := p
      cases more with
      | zero =>
        rcases List.mem_cons.1 h with hd | h
        · obtain ⟨hvalid, hwritten⟩ := hp b hbounds.1 hbounds.2
          have hb : [byte] = before ++ [b] := by
            rw [← hwritten, ← encodeChar_ofNat hvalid, ← Option.some.inj hd, hc]
          have hlast : b = byte := by
            have := congrArg List.getLast? hb
            simpa using this.symm
          exact List.mem_cons.2 (Or.inl hlast.symm)
        · exact List.mem_cons_of_mem _ (hnone h)
      | succ more =>
        have hrest := hsome ⟨_, more, 0x80, 0xBF⟩ (before ++ [b]) (hp b hbounds.1 hbounds.2) h
        exact List.mem_cons_of_mem _ hrest
    · refine hlead ?_
      rw [unitsFrom]
      cases hb : lead b <;> rw [hb] at h <;> simpa using h

/-- Bytes are read as something. -/
theorem units_ne_nil {bytes : Bytes} (h : bytes ≠ []) : units bytes ≠ [] := by
  have hread : ∀ p bytes, unitsFrom p bytes = [] → p = none ∧ bytes = [] := by
    intro p bytes hnil
    fun_induction unitsFrom p bytes <;> simp_all
  exact fun hnil ↦ h (hread none bytes hnil).2

/-- Characters that were written are read back whatever follows them. -/
theorem decodeLossy_encode_append (t : Text) (rest : Bytes) :
    decodeLossy (t.encode ++ rest) = t ++ decodeLossy rest := by
  induction t with
  | nil => rfl
  | cons c t ih =>
    rw [decodeLossy, units, Text.encode, List.flatMap_cons, List.append_assoc,
      unitsFrom_encodeChar, List.map_cons]
    exact congrArg (c :: ·) ih

end Utf8

end LineShell
