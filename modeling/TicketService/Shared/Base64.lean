import Mathlib.Data.List.Basic

set_option autoImplicit false

namespace Base64

def digit (n : Nat) : Char :=
  if n < 26 then Char.ofNat (n + 'A'.toNat)
  else if n < 52 then Char.ofNat (n - 26 + 'a'.toNat)
  else if n < 62 then Char.ofNat (n - 52 + '0'.toNat)
  else if n = 62 then '+'
  else '/'

def value (c : Char) : Option Nat :=
  if 'A' ≤ c ∧ c ≤ 'Z' then some (c.toNat - 'A'.toNat)
  else if 'a' ≤ c ∧ c ≤ 'z' then some (c.toNat - 'a'.toNat + 26)
  else if '0' ≤ c ∧ c ≤ '9' then some (c.toNat - '0'.toNat + 52)
  else if c = '+' ∨ c = '-' then some 62
  else if c = '/' ∨ c = '_' then some 63
  else none

-- Three octets are four digits; the last digit of a shorter group is filled up with zeros.
def digits : List UInt8 → List Nat
  | [] => []
  | [a] => [a.toNat / 4, a.toNat % 4 * 16]
  | [a, b] => [a.toNat / 4, a.toNat % 4 * 16 + b.toNat / 16, b.toNat % 16 * 4]
  | a :: b :: c :: rest =>
    a.toNat / 4 :: (a.toNat % 4 * 16 + b.toNat / 16) :: (b.toNat % 16 * 4 + c.toNat / 64) ::
      c.toNat % 64 :: digits rest

def octets : List Nat → List UInt8
  | a :: b :: c :: d :: rest =>
    UInt8.ofNat (a * 4 + b / 16) :: UInt8.ofNat (b % 16 * 16 + c / 4) :: UInt8.ofNat (c % 4 * 64 + d) ::
      octets rest
  | [a, b, c] => [UInt8.ofNat (a * 4 + b / 16), UInt8.ofNat (b % 16 * 16 + c / 4)]
  | [a, b] => [UInt8.ofNat (a * 4 + b / 16)]
  | _ => []

def encode (bytes : List UInt8) : String :=
  String.ofList ((digits bytes).map digit ++ List.replicate ((3 - bytes.length % 3) % 3) '=')

def decode (text : String) : List UInt8 :=
  octets ((text.toList.takeWhile (· ≠ '=')).filterMap value)

theorem value_digit : ∀ n < 64, value (digit n) = some n := by decide

theorem digit_ne_padding : ∀ n < 64, digit n ≠ '=' := by decide

theorem digits_lt (bytes : List UInt8) : ∀ n ∈ digits bytes, n < 64 := by
  fun_induction digits bytes with
  | case1 => nofun
  | case2 a =>
    have := a.toNat_lt
    simp only [List.forall_mem_cons, List.not_mem_nil, false_implies, implies_true, and_true]
    omega
  | case3 a b =>
    have := a.toNat_lt
    have := b.toNat_lt
    simp only [List.forall_mem_cons, List.not_mem_nil, false_implies, implies_true, and_true]
    omega
  | case4 a b c rest ih =>
    have := a.toNat_lt
    have := b.toNat_lt
    have := c.toNat_lt
    simp only [List.forall_mem_cons]
    exact ⟨by omega, by omega, by omega, by omega, ih⟩

theorem ofNat_eq {n : Nat} {a : UInt8} (same : n = a.toNat) : UInt8.ofNat n = a := by
  rw [same, UInt8.ofNat_toNat]

theorem octets_digits (bytes : List UInt8) : octets (digits bytes) = bytes := by
  fun_induction digits bytes with
  | case1 => rfl
  | case2 a =>
    simp only [octets]
    rw [@ofNat_eq _ a (by omega)]
  | case3 a b =>
    have := b.toNat_lt
    simp only [octets]
    rw [@ofNat_eq _ a (by omega), @ofNat_eq _ b (by omega)]
  | case4 a b c rest ih =>
    have := b.toNat_lt
    have := c.toNat_lt
    simp only [octets]
    rw [ih, @ofNat_eq _ a (by omega), @ofNat_eq _ b (by omega), @ofNat_eq _ c (by omega)]

@[simp] theorem decode_encode (bytes : List UInt8) : decode (encode bytes) = bytes := by
  have small := digits_lt bytes
  have unpadded : ∀ c ∈ (digits bytes).map digit, decide (c ≠ '=') = true := by
    intro c member
    obtain ⟨n, digit_, rfl⟩ := List.mem_map.mp member
    exact decide_eq_true (digit_ne_padding n (small n digit_))
  have read : ((digits bytes).map digit).filterMap value = digits bytes := by
    rw [List.filterMap_map]
    exact (List.filterMap_congr fun n digit_ => value_digit n (small n digit_)).trans List.filterMap_some
  unfold decode encode
  rw [String.toList_ofList, List.takeWhile_append_of_pos unpadded]
  have padding (n : Nat) : (List.replicate n '=').takeWhile (· ≠ '=') = [] := by
    cases n <;> rfl
  rw [padding, List.append_nil, read, octets_digits]

end Base64
