import Mathlib.Data.Nat.Digits.Lemmas

/-!
# Numbers as octets

A number is written as its digits in base 256, the highest first and without
leading zeros; zero is one zero octet.
-/

namespace Foundations

def toOctets (number : Nat) : List UInt8 :=
  if number = 0 then [0] else (Nat.digits 256 number).reverse.map UInt8.ofNat

def ofOctets (octets : List UInt8) : Nat :=
  octets.foldl (fun number octet => number * 256 + octet.toNat) 0

theorem ofOctets_toOctets (number : Nat) : ofOctets (toOctets number) = number := by
  by_cases zero : number = 0
  · subst zero
    rfl
  · have small : ∀ digit ∈ Nat.digits 256 number, (UInt8.ofNat digit).toNat = digit := by
      intro digit membership
      have bounded := Nat.digits_lt_base (by decide : 1 < 256) membership
      simpa using Nat.mod_eq_of_lt bounded
    rw [toOctets, if_neg zero, ofOctets, List.foldl_map, List.foldl_reverse]
    calc (Nat.digits 256 number).foldr (fun digit value => value * 256 + (UInt8.ofNat digit).toNat) 0
        = (Nat.digits 256 number).foldr (fun digit value => digit + 256 * value) 0 := by
          apply List.foldr_ext
          intro digit membership value
          rw [small digit membership]
          omega
      _ = number := by
          have written := Nat.ofDigits_digits 256 number
          rwa [Nat.ofDigits_eq_foldr] at written

theorem toOctets_injective : Function.Injective toOctets :=
  Function.LeftInverse.injective ofOctets_toOctets

/-- No octet is wasted. -/
theorem head?_toOctets {number : Nat} (positive : 0 < number) :
    (toOctets number).head? ≠ some 0 := by
  have nonzero : number ≠ 0 := Nat.ne_of_gt positive
  have nonempty : Nat.digits 256 number ≠ [] := Nat.digits_ne_nil_iff_ne_zero.mpr nonzero
  have leading := Nat.getLast_digit_ne_zero 256 nonzero
  have bounded := Nat.digits_lt_base (by decide : 1 < 256) (List.getLast_mem nonempty)
  rw [toOctets, if_neg nonzero, List.head?_map, List.head?_reverse,
    List.getLast?_eq_some_getLast nonempty, Option.map_some, ne_eq, Option.some.injEq]
  intro isZero
  apply leading
  have value := congrArg UInt8.toNat isZero
  simpa [Nat.mod_eq_of_lt bounded] using value

end Foundations
