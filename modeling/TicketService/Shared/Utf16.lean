import Mathlib.Data.List.Basic

set_option autoImplicit false

namespace Utf16

def Lead (unit : UInt16) : Prop :=
  0xD800 ≤ unit.toNat ∧ unit.toNat < 0xDC00

def Trail (unit : UInt16) : Prop :=
  0xDC00 ≤ unit.toNat ∧ unit.toNat < 0xE000

def Surrogate (unit : UInt16) : Prop :=
  0xD800 ≤ unit.toNat ∧ unit.toNat < 0xE000

instance (unit : UInt16) : Decidable (Lead unit) :=
  inferInstanceAs (Decidable (_ ∧ _))

instance (unit : UInt16) : Decidable (Trail unit) :=
  inferInstanceAs (Decidable (_ ∧ _))

instance (unit : UInt16) : Decidable (Surrogate unit) :=
  inferInstanceAs (Decidable (_ ∧ _))

def replacement : Char := Char.ofNat 0xFFFD

def single (unit : UInt16) : Char :=
  if Surrogate unit then replacement else Char.ofNat unit.toNat

def paired (lead trail : UInt16) : Char :=
  Char.ofNat (0x10000 + (lead.toNat - 0xD800) * 0x400 + (trail.toNat - 0xDC00))

def decode : List UInt16 → List Char
  | [] => []
  | [unit] => [single unit]
  | unit :: next :: rest =>
    if Lead unit ∧ Trail next then paired unit next :: decode rest
    else single unit :: decode (next :: rest)

def units (c : Char) : List UInt16 :=
  if c.toNat < 0x10000 then [UInt16.ofNat c.toNat]
  else
    [UInt16.ofNat (0xD800 + (c.toNat - 0x10000) / 0x400),
      UInt16.ofNat (0xDC00 + (c.toNat - 0x10000) % 0x400)]

def encode (text : List Char) : List UInt16 :=
  text.flatMap units

def WellFormed (text : List UInt16) : Prop :=
  encode (decode text) = text

instance (text : List UInt16) : Decidable (WellFormed text) :=
  inferInstanceAs (Decidable (_ = _))

variable {unit next : UInt16} {first rest text text' : List UInt16} {separator : UInt16}

theorem decode_cons (alone : ¬Lead unit) : decode (unit :: rest) = single unit :: decode rest := by
  cases rest with
  | nil => rfl
  | cons next rest => exact if_neg fun pair => alone pair.1

theorem decode_cons_cons (alone : ¬Trail next) :
    decode (unit :: next :: rest) = single unit :: decode (next :: rest) :=
  if_neg fun pair => alone pair.2

theorem decode_pair (lead : Lead unit) (trail : Trail next) :
    decode (unit :: next :: rest) = paired unit next :: decode rest :=
  if_pos ⟨lead, trail⟩

theorem toNat_ofNat {n : Nat} (valid : n.isValidChar) : (Char.ofNat n).toNat = n := by
  unfold Char.ofNat
  rw [dif_pos valid]
  rfl

theorem single_toNat (scalar : ¬Surrogate unit) : (single unit).toNat = unit.toNat := by
  have bound := unit.toNat_lt
  have valid : unit.toNat.isValidChar := by
    unfold Surrogate at scalar
    unfold Nat.isValidChar
    omega
  rw [single, if_neg scalar, toNat_ofNat valid]

theorem paired_toNat (lead : Lead unit) (trail : Trail next) : (paired unit next).toNat =
    0x10000 + (unit.toNat - 0xD800) * 0x400 + (next.toNat - 0xDC00) := by
  have valid : (0x10000 + (unit.toNat - 0xD800) * 0x400 + (next.toNat - 0xDC00)).isValidChar := by
    unfold Lead at lead
    unfold Trail at trail
    unfold Nat.isValidChar
    omega
  rw [paired, toNat_ofNat valid]

theorem decode_append (scalar : ¬Surrogate separator) :
    decode (first ++ separator :: rest) = decode first ++ single separator :: decode rest := by
  have apart : ¬Lead separator ∧ ¬Trail separator := by
    unfold Lead Trail
    unfold Surrogate at scalar
    omega
  fun_induction decode first with
  | case1 => exact decode_cons apart.1
  | case2 unit =>
    rw [List.singleton_append, decode_cons_cons apart.2, decode_cons apart.1]
    rfl
  | case3 unit next more pair ih =>
    rw [List.cons_append, List.cons_append, decode_pair pair.1 pair.2, ih, List.cons_append]
  | case4 unit next more alone ih =>
    have divided : decode (unit :: (next :: more ++ separator :: rest)) =
        single unit :: decode (next :: more ++ separator :: rest) := if_neg alone
    rw [List.cons_append, divided, ih, List.cons_append]

theorem single_eq_iff (scalar : ¬Surrogate separator) (proper : separator ≠ 0xFFFD) :
    single unit = single separator ↔ unit = separator := by
  refine ⟨fun same => ?_, congrArg single⟩
  have same := congrArg Char.toNat same
  rw [single_toNat scalar] at same
  by_cases surrogate : Surrogate unit
  · rw [single, if_pos surrogate] at same
    exact absurd (UInt16.toNat_inj.mp same.symm) proper
  · rw [single_toNat surrogate] at same
    exact UInt16.toNat_inj.mp same

theorem count_decode (scalar : ¬Surrogate separator) (proper : separator ≠ 0xFFFD)
    (text : List UInt16) : (decode text).count (single separator) = text.count separator := by
  have apart (unit : UInt16) : (single unit == single separator) = (unit == separator) := by
    simp [single_eq_iff scalar proper]
  fun_induction decode text with
  | case1 => rfl
  | case2 unit => simp only [List.count_cons, List.count_nil, apart]
  | case3 unit next rest pair ih =>
    have bound := separator.toNat_lt
    have big : paired unit next ≠ single separator := by
      intro same
      have same := congrArg Char.toNat same
      rw [paired_toNat pair.1 pair.2, single_toNat scalar] at same
      omega
    have lead : unit ≠ separator := by
      rintro rfl
      exact scalar ⟨pair.1.1, Nat.lt_trans pair.1.2 (by decide)⟩
    have trail : next ≠ separator := by
      rintro rfl
      exact scalar ⟨Nat.le_trans (by decide) pair.2.1, pair.2.2⟩
    rw [List.count_cons_of_ne big, List.count_cons_of_ne lead, List.count_cons_of_ne trail, ih]
  | case4 unit next rest alone ih =>
    rw [List.count_cons, List.count_cons, apart, ih]

theorem decode_units (c : Char) (rest : List UInt16) : decode (units c ++ rest) = c :: decode rest := by
  have valid : c.toNat < 0xD800 ∨ 0xDFFF < c.toNat ∧ c.toNat < 0x110000 := c.valid
  unfold units
  split
  next short =>
    have value : (UInt16.ofNat c.toNat).toNat = c.toNat := UInt16.toNat_ofNat_of_lt' short
    have scalar : ¬Surrogate (UInt16.ofNat c.toNat) := by
      unfold Surrogate
      omega
    have alone : ¬Lead (UInt16.ofNat c.toNat) := by
      unfold Lead
      omega
    rw [List.singleton_append, decode_cons alone]
    exact congrArg (· :: decode rest) (Char.toNat_inj.mp ((single_toNat scalar).trans value))
  next long =>
    let high := 0xD800 + (c.toNat - 0x10000) / 0x400
    let low := 0xDC00 + (c.toNat - 0x10000) % 0x400
    have bounds : 0xD800 ≤ high ∧ high < 0xDC00 ∧ 0xDC00 ≤ low ∧ low < 0xE000 := by
      omega
    have high_value : (UInt16.ofNat high).toNat = high :=
      UInt16.toNat_ofNat_of_lt' (Nat.lt_trans bounds.2.1 (by decide))
    have low_value : (UInt16.ofNat low).toNat = low :=
      UInt16.toNat_ofNat_of_lt' (Nat.lt_trans bounds.2.2.2 (by decide))
    have lead : Lead (UInt16.ofNat high) := by
      unfold Lead
      omega
    have trail : Trail (UInt16.ofNat low) := by
      unfold Trail
      omega
    have whole : (paired (UInt16.ofNat high) (UInt16.ofNat low)).toNat = c.toNat := by
      rw [paired_toNat lead trail, high_value, low_value]
      omega
    rw [List.cons_append, List.singleton_append, decode_pair lead trail]
    exact congrArg (· :: decode rest) (Char.toNat_inj.mp whole)

theorem decode_encode (text : List Char) : decode (encode text) = text := by
  induction text with
  | nil => rfl
  | cons c rest ih =>
    have first : encode (c :: rest) = units c ++ encode rest := List.flatMap_cons
    rw [first, decode_units, ih]

theorem encode_wellFormed (text : List Char) : WellFormed (encode text) :=
  congrArg encode (decode_encode text)

theorem WellFormed.decode_inj (formed : WellFormed text) (formed' : WellFormed text')
    (same : decode text = decode text') : text = text' := by
  rw [← formed, same, formed']

end Utf16
