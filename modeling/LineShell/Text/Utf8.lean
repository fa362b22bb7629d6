import LineShell.Text.Basic

/-!
# UTF-8

Writing a text as bytes and reading bytes as a text. Reading cuts the bytes into **units**: a unit
is a character, or a maximal ill-formed run, that is a byte that can begin nothing or the longest
beginning of a character that the next byte does not continue. A byte string is valid UTF-8 when
every unit is a character (`decode?`); the lossy reading puts the replacement character in the
place of each ill-formed run (`decodeLossy`).

The reader is a state machine over the bytes. It keeps at most one character in progress, and the
byte that breaks a character off begins the next unit, so no byte is read twice.

What is written is read back, strictly (`decode?_encode`) and lossily (`decodeLossy_encode`).
-/

namespace LineShell

namespace Utf8

/-- The bytes of the character with the scalar value `n`: one to four of them, by its size. -/
def encodeScalar (n : Nat) : Bytes :=
  if n < 0x80 then [UInt8.ofNat n]
  else if n < 0x800 then [UInt8.ofNat (0xC0 + n / 64), UInt8.ofNat (0x80 + n % 64)]
  else if n < 0x10000 then
    [UInt8.ofNat (0xE0 + n / 4096), UInt8.ofNat (0x80 + n / 64 % 64), UInt8.ofNat (0x80 + n % 64)]
  else
    [UInt8.ofNat (0xF0 + n / 262144), UInt8.ofNat (0x80 + n / 4096 % 64),
      UInt8.ofNat (0x80 + n / 64 % 64), UInt8.ofNat (0x80 + n % 64)]

/-- The bytes of one character. -/
def encodeChar (c : Char) : Bytes := encodeScalar c.toNat

/-- A character of which some bytes were read. -/
structure Partway where
  /-- The value of the bits read so far. -/
  value : Nat
  /-- How many bytes follow the next one. -/
  more : Nat
  /-- The least byte that continues the character. -/
  least : Nat
  /-- The greatest byte that continues the character. -/
  greatest : Nat
  deriving DecidableEq, Repr

/-- What a byte that begins a unit may be. -/
inductive Lead where
  /-- A character by itself. -/
  | whole (c : Char)
  /-- The first byte of a longer character. -/
  | first (p : Partway)
  /-- A byte that begins no character. -/
  | stray

/-- Classifies the first byte of a unit. The bounds on the second byte exclude overlong forms,
surrogates and values above the last scalar value. -/
def lead (b : UInt8) : Lead :=
  let n := b.toNat
  if n < 0x80 then .whole (Char.ofNat n)
  else if n < 0xC2 then .stray
  else if n < 0xE0 then .first ⟨n - 0xC0, 0, 0x80, 0xBF⟩
  else if n = 0xE0 then .first ⟨0, 1, 0xA0, 0xBF⟩
  else if n = 0xED then .first ⟨0xD, 1, 0x80, 0x9F⟩
  else if n < 0xF0 then .first ⟨n - 0xE0, 1, 0x80, 0xBF⟩
  else if n = 0xF0 then .first ⟨0, 2, 0x90, 0xBF⟩
  else if n < 0xF4 then .first ⟨n - 0xF0, 2, 0x80, 0xBF⟩
  else if n = 0xF4 then .first ⟨4, 2, 0x80, 0x8F⟩
  else .stray

/-- The units of a byte string, `none` for an ill-formed run, after part of a character. -/
def unitsFrom : Option Partway → Bytes → List (Option Char)
  | none, [] => []
  | some _, [] => [none]
  | none, b :: rest =>
    match lead b with
    | .whole c => some c :: unitsFrom none rest
    | .first p => unitsFrom (some p) rest
    | .stray => none :: unitsFrom none rest
  | some p, b :: rest =>
    if p.least ≤ b.toNat ∧ b.toNat ≤ p.greatest then
      let value := 64 * p.value + (b.toNat - 0x80)
      match p.more with
      | 0 => some (Char.ofNat value) :: unitsFrom none rest
      | more + 1 => unitsFrom (some ⟨value, more, 0x80, 0xBF⟩) rest
    else
      match lead b with
      | .whole c => none :: some c :: unitsFrom none rest
      | .first q => none :: unitsFrom (some q) rest
      | .stray => none :: none :: unitsFrom none rest

/-- The units of a byte string, `none` for an ill-formed run. -/
def units (bytes : Bytes) : List (Option Char) := unitsFrom none bytes

/-- The characters of a list of units, if none of them is an ill-formed run. -/
def all? : List (Option Char) → Option Text
  | [] => some []
  | none :: _ => none
  | some c :: rest => (all? rest).map (c :: ·)

/-- The text that the bytes encode, if they are valid UTF-8. -/
def decode? (bytes : Bytes) : Option Text := all? (units bytes)

/-- The replacement character, which stands for an ill-formed run. -/
def replacement : Char := '\uFFFD'

/-- The text of a byte string, each ill-formed run read as one replacement character. -/
def decodeLossy (bytes : Bytes) : Text := (units bytes).map (·.getD replacement)

end Utf8

/-- The bytes of a text. -/
def Text.encode (t : Text) : Bytes := t.flatMap Utf8.encodeChar

theorem Text.encode_append (t u : Text) : Text.encode (t ++ u) = t.encode ++ u.encode :=
  List.flatMap_append

/-! ### Reading what was written -/

namespace Utf8

theorem toNat_ofNat {k : Nat} (h : k < 256) : (UInt8.ofNat k).toNat = k := by
  simp [Nat.mod_eq_of_lt h]

/-- A byte that continues a character adds its six bits; it ends the character or leaves one byte
less to follow. -/
theorem unitsFrom_continue {p : Partway} {d : Nat} (least : p.least ≤ 0x80 + d)
    (greatest : 0x80 + d ≤ p.greatest) (small : d < 64) (rest : Bytes) :
    unitsFrom (some p) (UInt8.ofNat (0x80 + d) :: rest) =
      match p.more with
      | 0 => some (Char.ofNat (64 * p.value + d)) :: unitsFrom none rest
      | more + 1 => unitsFrom (some ⟨64 * p.value + d, more, 0x80, 0xBF⟩) rest := by
  simp only [unitsFrom, toNat_ofNat (show 0x80 + d < 256 by omega),
    if_pos (And.intro least greatest), Nat.add_sub_cancel_left]

/-! The first byte of a longer character tells how many follow, and bounds the second one. -/

theorem lead_two {n : Nat} (hlong : 0x80 ≤ n) (hshort : n < 0x800) :
    lead (UInt8.ofNat (0xC0 + n / 64)) = .first ⟨n / 64, 0, 0x80, 0xBF⟩ := by
  rw [lead, toNat_ofNat (by omega)]
  grind

theorem lead_three {n : Nat} (hshort : n < 0x10000) :
    lead (UInt8.ofNat (0xE0 + n / 4096)) = .first ⟨n / 4096, 1,
      if n / 4096 = 0 then 0xA0 else 0x80, if n / 4096 = 0xD then 0x9F else 0xBF⟩ := by
  rw [lead, toNat_ofNat (by omega)]
  grind

theorem lead_four {n : Nat} (hvalid : n < 0x110000) :
    lead (UInt8.ofNat (0xF0 + n / 262144)) = .first ⟨n / 262144, 2,
      if n / 262144 = 0 then 0x90 else 0x80, if n / 262144 = 4 then 0x8F else 0xBF⟩ := by
  rw [lead, toNat_ofNat (by omega)]
  grind

/-- Reading the bytes of a scalar value gives the character and goes on behind it. -/
theorem unitsFrom_encodeScalar {n : Nat} (valid : n.isValidChar) (rest : Bytes) :
    unitsFrom none (encodeScalar n ++ rest) = some (Char.ofNat n) :: unitsFrom none rest := by
  have valid : n < 0xD800 ∨ 0xDFFF < n ∧ n < 0x110000 := valid
  unfold encodeScalar
  split
  · rw [List.singleton_append, unitsFrom, lead, toNat_ofNat (by omega)]
    simp [*]
  split
  · simp only [List.cons_append, List.nil_append]
    rw [unitsFrom, lead_two (by omega) (by omega)]
    simp only
    rw [unitsFrom_continue (by simp) (by simp; omega) (by omega)]
    simp [Nat.div_add_mod]
  split
  · simp only [List.cons_append, List.nil_append]
    rw [unitsFrom, lead_three (by omega)]
    simp only
    rw [unitsFrom_continue (by grind) (by grind) (by omega)]
    simp only
    rw [unitsFrom_continue (by simp) (by simp; omega) (by omega)]
    simp only
    congr 3
    omega
  · simp only [List.cons_append, List.nil_append]
    rw [unitsFrom, lead_four (by omega)]
    simp only
    rw [unitsFrom_continue (by grind) (by grind) (by omega)]
    simp only
    rw [unitsFrom_continue (by simp) (by simp; omega) (by omega)]
    simp only
    rw [unitsFrom_continue (by simp) (by simp; omega) (by omega)]
    simp only
    congr 3
    omega

/-- Reading the bytes of a character gives the character and goes on behind it. -/
theorem unitsFrom_encodeChar (c : Char) (rest : Bytes) :
    unitsFrom none (encodeChar c ++ rest) = some c :: unitsFrom none rest := by
  have h := unitsFrom_encodeScalar c.valid rest
  rwa [show c.val.toNat = c.toNat from rfl, Char.ofNat_toNat] at h

/-- What is written is read back as its characters. -/
theorem units_encode (t : Text) : units t.encode = t.map some := by
  induction t with
  | nil => rfl
  | cons c t ih =>
    rw [units, Text.encode, List.flatMap_cons, unitsFrom_encodeChar, List.map_cons]
    exact congrArg _ ih

theorem all?_map_some (t : Text) : all? (t.map some) = some t := by
  induction t with
  | nil => rfl
  | cons c t ih => simp [all?, ih]

/-- What is written is read back. -/
theorem decode?_encode (t : Text) : decode? t.encode = some t := by
  rw [decode?, units_encode, all?_map_some]

/-- What is written is read back by the lossy reading too. -/
theorem decodeLossy_encode (t : Text) : decodeLossy t.encode = t := by
  simp [decodeLossy, units_encode, Function.comp_def]

end Utf8

/-- Texts that are written alike are the same. -/
theorem Text.encode_inj {t u : Text} : t.encode = u.encode ↔ t = u := by
  refine ⟨fun h ↦ ?_, fun h ↦ h ▸ rfl⟩
  have hdecoded := Utf8.decode?_encode t
  rw [h, Utf8.decode?_encode] at hdecoded
  exact (Option.some.inj hdecoded).symm

/-- Only the empty text is written without bytes. -/
theorem Text.encode_eq_nil_iff {t : Text} : t.encode = [] ↔ t = [] := Text.encode_inj (u := [])

end LineShell
