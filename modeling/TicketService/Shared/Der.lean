import Mathlib.Algebra.Group.Nat.Defs
import Mathlib.Data.Nat.Log

set_option autoImplicit false

namespace Der

def bigEndian (width n : Nat) : List UInt8 :=
  (List.range width).map fun i => UInt8.ofNat (n / 256 ^ (width - 1 - i))

def octets (n : Nat) : Nat :=
  (n.log2 + 1) / 8 + 1

-- From 128 on, the number of the octets of the length comes first.
def lengthOctets (n : Nat) : List UInt8 :=
  if n < 128 then [UInt8.ofNat n]
  else UInt8.ofNat (128 + (Nat.log 256 n + 1)) :: bigEndian (Nat.log 256 n + 1) n

def element (tag : UInt8) (content : List UInt8) : List UInt8 :=
  tag :: (lengthOctets content.length ++ content)

def integer (n : Nat) : List UInt8 :=
  element 0x02 (bigEndian (octets n) n)

def sequence (elements : List (List UInt8)) : List UInt8 :=
  element 0x30 elements.flatten

@[simp] theorem length_bigEndian (width n : Nat) : (bigEndian width n).length = width := by
  simp [bigEndian]

theorem getElem?_bigEndian {width i : Nat} (within : i < width) (n : Nat) :
    (bigEndian width n)[i]? = some (UInt8.ofNat (n / 256 ^ (width - 1 - i))) := by
  simp [bigEndian, within]

theorem element_short {tag : UInt8} {content : List UInt8} (short : content.length < 128) :
    element tag content = tag :: UInt8.ofNat content.length :: content := by
  rw [element, lengthOctets, if_pos short]
  rfl

theorem integer_short {n : Nat} (short : octets n < 128) :
    integer n = 0x02 :: UInt8.ofNat (octets n) :: bigEndian (octets n) n := by
  rw [integer, element_short (by simpa using short), length_bigEndian]

theorem octets_le {width n : Nat} (within : n < 256 ^ width) : octets n ≤ width + 1 := by
  have bits : n < 2 ^ (8 * width) := by
    rw [Nat.pow_mul]
    exact within
  unfold octets
  rcases Nat.eq_zero_or_pos n with rfl | positive
  · simp
  · have := (Nat.log2_lt (Nat.ne_of_gt positive)).mpr bits
    omega

theorem lt_of_octets {n : Nat} : n < 256 ^ octets n := by
  have bits : n < 2 ^ (n.log2 + 1) := Nat.lt_log2_self
  refine Nat.lt_of_lt_of_le bits ?_
  rw [show (256 : Nat) = 2 ^ 8 from rfl, ← Nat.pow_mul]
  refine Nat.pow_le_pow_right (by decide) ?_
  unfold octets
  omega

theorem octets_eq {width n first : Nat} (leading : n / 256 ^ width = first) (positive : 0 < first)
    (small : first < 128) : octets n = width + 1 := by
  have least : 256 ^ width ≤ n := by
    by_contra less
    rw [Nat.div_eq_of_lt (Nat.not_le.mp less)] at leading
    omega
  have most : n < 128 * 256 ^ width := by
    rw [← Nat.div_lt_iff_lt_mul (Nat.pow_pos (by decide)), leading]
    exact small
  have nonzero : n ≠ 0 := by
    have := Nat.pow_pos (n := width) (show 0 < 256 by decide)
    omega
  have lower : 8 * width ≤ n.log2 := by
    rw [Nat.le_log2 nonzero, Nat.pow_mul]
    exact least
  have upper : n.log2 < 8 * width + 7 := by
    rw [Nat.log2_lt nonzero, Nat.pow_add, Nat.pow_mul, Nat.mul_comm]
    exact most
  unfold octets
  omega

section Pairs

variable {width r s : Nat}

theorem pair_short (short : octets r + octets s < 124) : sequence [integer r, integer s] =
    0x30 :: UInt8.ofNat (octets r + octets s + 4) :: 0x02 :: UInt8.ofNat (octets r) ::
      (bigEndian (octets r) r ++ 0x02 :: UInt8.ofNat (octets s) :: bigEndian (octets s) s) := by
  have content : (([integer r, integer s] : List (List UInt8)).flatten).length =
      octets r + octets s + 4 := by
    rw [integer_short (by omega), integer_short (by omega)]
    simp only [List.flatten_cons, List.flatten_nil, List.append_nil, List.length_append, List.length_cons,
      length_bigEndian]
    omega
  rw [sequence, element_short (by omega), content, integer_short (by omega), integer_short (by omega)]
  simp

-- The first octet of the sequence makes `r` as long as its width, and its length makes `s` six octets
-- shorter. So zeros are where the tag of `s` is.
theorem pair_ne_concatenation (short : width ≤ 60) (hr : r < 256 ^ width) (hs : s < 256 ^ width) :
    sequence [integer r, integer s] ≠ bigEndian width r ++ bigEndian width s := by
  intro same
  have lr := octets_le hr
  have ls := octets_le hs
  rw [pair_short (by omega)] at same
  have lengths := congrArg List.length same
  simp only [List.length_cons, List.length_append, length_bigEndian] at lengths
  have first : some (0x30 : UInt8) = some (UInt8.ofNat (r / 256 ^ (width - 1))) := by
    have octet := congrArg (fun l : List UInt8 => l[0]?) same
    rw [List.getElem?_append_left (by rw [length_bigEndian]; omega), getElem?_bigEndian (by omega)] at octet
    exact octet
  have leading : r / 256 ^ (width - 1) = 0x30 := by
    have small : r / 256 ^ (width - 1) < 256 := by
      rw [Nat.div_lt_iff_lt_mul (Nat.pow_pos (by decide)), ← Nat.pow_add_one']
      rwa [Nat.sub_add_cancel (by omega)]
    have byte := congrArg UInt8.toNat (Option.some.inj first)
    rw [UInt8.toNat_ofNat_of_lt' small] at byte
    exact byte.symm
  have full : octets r = width := by
    rw [octets_eq leading (by decide) (by decide)]
    omega
  have fewer : octets s + 6 = width := by omega
  have tag : some (0x02 : UInt8) = some (UInt8.ofNat (s / 256 ^ (width - 1 - 4))) := by
    have octet := congrArg (fun l : List UInt8 => l[width + 4]?) same
    simp only [List.getElem?_cons_succ] at octet
    rw [List.getElem?_append_right (by rw [length_bigEndian, full]),
      List.getElem?_append_right (by rw [length_bigEndian]; omega), length_bigEndian, length_bigEndian, full,
      Nat.sub_self, Nat.add_sub_cancel_left, getElem?_bigEndian (by omega)] at octet
    exact octet
  have zero : s / 256 ^ (width - 1 - 4) = 0 := by
    refine Nat.div_eq_of_lt (Nat.lt_of_lt_of_le lt_of_octets ?_)
    exact Nat.pow_le_pow_right (by decide) (by omega)
  rw [zero] at tag
  cases tag

end Pairs

end Der
