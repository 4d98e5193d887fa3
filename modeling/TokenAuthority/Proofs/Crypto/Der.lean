import Mathlib.Algebra.Group.Nat.Defs
import TokenAuthority.Crypto.Der

/-!
# Numbers as bytes

The bytes of a number spell that number, and a number below a power of 256 takes no more bytes than
the exponent says.
-/

namespace TokenAuthority.Crypto.Der

theorem foldl_natOf (high : Nat) (bytes : List UInt8) :
    bytes.foldl (fun value byte => value * 256 + byte.toNat) high =
      high * 256 ^ bytes.length + natOf bytes := by
  induction bytes generalizing high with
  | nil => simp [natOf]
  | cons first rest induction =>
      rw [natOf, List.foldl_cons, List.foldl_cons, induction, induction, List.length_cons,
        Nat.pow_succ, Nat.zero_mul, Nat.zero_add, Nat.add_mul, Nat.mul_assoc,
        Nat.mul_comm 256, Nat.add_assoc]

theorem natOf_cons (first : UInt8) (rest : List UInt8) :
    natOf (first :: rest) = first.toNat * 256 ^ rest.length + natOf rest := by
  rw [natOf, List.foldl_cons, foldl_natOf, Nat.zero_mul, Nat.zero_add]

theorem natOf_zero_cons (rest : List UInt8) : natOf (0 :: rest) = natOf rest := by
  rw [natOf_cons]
  simp

theorem natOf_replicate_zero_append (count : Nat) (bytes : List UInt8) :
    natOf (List.replicate count 0 ++ bytes) = natOf bytes := by
  induction count with
  | zero => rfl
  | succ count induction =>
      rw [List.replicate_succ, List.cons_append, natOf_zero_cons, induction]

theorem natOf_lt (bytes : List UInt8) : natOf bytes < 256 ^ bytes.length := by
  induction bytes with
  | nil => decide
  | cons first rest induction =>
      have byte : first.toNat + 1 ≤ 256 := first.toNat_lt
      have high : (first.toNat + 1) * 256 ^ rest.length ≤ 256 * 256 ^ rest.length :=
        Nat.mul_le_mul_right _ byte
      rw [natOf_cons, List.length_cons, Nat.pow_succ, Nat.mul_comm (256 ^ rest.length)]
      rw [Nat.add_mul, Nat.one_mul] at high
      omega

theorem natOf_bytesOfNatOnto (lower : List UInt8) (value : Nat) :
    natOf (bytesOfNatOnto lower value) = value * 256 ^ lower.length + natOf lower := by
  induction lower, value using bytesOfNatOnto.induct with
  | case1 lower value small =>
      rw [bytesOfNatOnto, if_pos small, natOf_cons, UInt8.toNat_ofNat', Nat.mod_eq_of_lt small]
  | case2 lower value large induction =>
      have last : (UInt8.ofNat (value % 256)).toNat = value % 256 := by
        rw [UInt8.toNat_ofNat']
        exact Nat.mod_mod _ _
      have whole : value / 256 * 256 + value % 256 = value := Nat.div_add_mod' value 256
      rw [bytesOfNatOnto, if_neg large, induction, natOf_cons, last, List.length_cons, Nat.pow_succ,
        Nat.mul_comm (256 ^ lower.length), ← Nat.mul_assoc, ← Nat.add_assoc, ← Nat.add_mul, whole]

theorem natOf_bytesOfNat (value : Nat) : natOf (bytesOfNat value) = value := by
  rw [bytesOfNat, natOf_bytesOfNatOnto]
  simp [natOf]

theorem length_bytesOfNatOnto_le (lower : List UInt8) (value : Nat) {count : Nat}
    (small : value < 256 ^ (count + 1)) :
    (bytesOfNatOnto lower value).length ≤ lower.length + (count + 1) := by
  induction lower, value using bytesOfNatOnto.induct generalizing count with
  | case1 lower value single =>
      rw [bytesOfNatOnto, if_pos single, List.length_cons]
      omega
  | case2 lower value large induction =>
      cases count with
      | zero => omega
      | succ count =>
          have higher : value / 256 < 256 ^ (count + 1) := by
            rw [Nat.pow_succ] at small
            exact Nat.div_lt_of_lt_mul (by rwa [Nat.mul_comm])
          have shorter := induction higher
          rw [bytesOfNatOnto, if_neg large]
          rw [List.length_cons] at shorter
          omega

theorem length_bytesOfNat_le {value count : Nat} (positive : 0 < count)
    (small : value < 256 ^ count) : (bytesOfNat value).length ≤ count := by
  rcases Nat.exists_eq_succ_of_ne_zero (Nat.ne_of_gt positive) with ⟨less, rfl⟩
  have length := length_bytesOfNatOnto_le [] value small
  rw [List.length_nil, Nat.zero_add] at length
  exact length

end TokenAuthority.Crypto.Der
