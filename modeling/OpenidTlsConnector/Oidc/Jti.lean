import Mathlib.Data.Int.CardIntervalMod
import Mathlib.Data.Setoid.Basic
import Mathlib.SetTheory.Cardinal.Finite
import Mathlib.Tactic.FinCases
import OpenidTlsConnector.Oidc.Protocol

/-!
# How random a token id is

A `jti` is drawn as sixteen bytes and written as a UUID of version 4.  The
version and the variant overwrite six of the 128 bits, and nothing else is lost
in writing.
-/

namespace OpenidTlsConnector

/-! ## Writing -/

def hexChars (byte : UInt8) : List Char :=
  [Nat.digitChar (byte.toNat / 16), Nat.digitChar (byte.toNat % 16)]

theorem digitChar_inj {first second : Nat} (small : first < 16) (small' : second < 16) :
    Nat.digitChar first = Nat.digitChar second ↔ first = second := by
  have digits : ∀ first < 16, ∀ second < 16,
      (Nat.digitChar first = Nat.digitChar second ↔ first = second) := by decide
  exact digits first small second small'

/-- A byte is read off from its two digits. -/
theorem hexChars_append_inj {first second : UInt8} {rest rest' : List Char} :
    hexChars first ++ rest = hexChars second ++ rest' ↔ first = second ∧ rest = rest' := by
  have bound := first.toNat_lt
  have bound' := second.toNat_lt
  simp only [hexChars, List.cons_append, List.nil_append, List.cons.injEq,
    digitChar_inj (by omega : first.toNat / 16 < 16) (by omega : second.toNat / 16 < 16),
    digitChar_inj (by omega : first.toNat % 16 < 16) (by omega : second.toNat % 16 < 16)]
  rw [← UInt8.toNat_inj]
  constructor
  · intro digits
    obtain ⟨high, low, same⟩ := digits
    exact ⟨by omega, same⟩
  · intro equal
    obtain ⟨same, rest⟩ := equal
    exact ⟨by rw [same], by rw [same], rest⟩

/-- The bytes as `random_jti` formats them. -/
def formatUuid (bytes : Fin 16 → UInt8) : String :=
  let group (start stop : Nat) := String.join (((List.ofFn bytes).extract start stop).map hexByte)
  "-".intercalate [group 0 4, group 4 6, group 6 8, group 8 10, group 10 16]

theorem toList_formatUuid (bytes : Fin 16 → UInt8) : (formatUuid bytes).toList =
    hexChars (bytes 0) ++ (hexChars (bytes 1) ++ (hexChars (bytes 2) ++ (hexChars (bytes 3) ++
      '-' :: (hexChars (bytes 4) ++ (hexChars (bytes 5) ++
      '-' :: (hexChars (bytes 6) ++ (hexChars (bytes 7) ++
      '-' :: (hexChars (bytes 8) ++ (hexChars (bytes 9) ++
      '-' :: (hexChars (bytes 10) ++ (hexChars (bytes 11) ++ (hexChars (bytes 12) ++
        (hexChars (bytes 13) ++ (hexChars (bytes 14) ++ (hexChars (bytes 15) ++
          []))))))))))))))) := by
  have dashed (first second third fourth fifth : String) :
      "-".intercalate [first, second, third, fourth, fifth] =
        first ++ "-" ++ second ++ "-" ++ third ++ "-" ++ fourth ++ "-" ++ fifth := rfl
  simp [formatUuid, dashed, hexByte, hexChars, String.join]

/-- Formatting loses nothing. -/
theorem formatUuid_injective : Function.Injective formatUuid := by
  intro bytes bytes' same
  have chars := congrArg String.toList same
  simp only [toList_formatUuid, hexChars_append_inj, List.cons.injEq, true_and, and_true] at chars
  funext i
  fin_cases i <;> simp [chars]

/-! ## Drawing -/

/-- In how many ways byte `i` can come out. -/
def randomSize (i : Fin 16) : Nat := if i.val = 6 then 16 else if i.val = 8 then 64 else 256

/-- What is random about byte `i`. -/
def randomPart (i : Fin 16) (byte : UInt8) : Nat := byte.toNat % randomSize i

/-- Byte `i` with the bits of the version or the variant. -/
def stampedByte (i : Fin 16) (byte : UInt8) : UInt8 :=
  if i.val = 6 then (byte &&& 0x0f) ||| 0x40
  else if i.val = 8 then (byte &&& 0x3f) ||| 0x80
  else byte

theorem randomJti_eq (bytes : Fin 16 → UInt8) :
    randomJti bytes = formatUuid fun i => stampedByte i (bytes i) := by
  have stamped : Function.update (Function.update bytes 6 ((bytes 6 &&& 0x0f) ||| 0x40)) 8
      ((Function.update bytes 6 ((bytes 6 &&& 0x0f) ||| 0x40) 8 &&& 0x3f) ||| 0x80) =
        fun i => stampedByte i (bytes i) := by
    funext i
    fin_cases i <;> simp [stampedByte, Function.update]
  rw [← stamped]
  rfl

/-- A stamp replaces what is not random. -/
theorem toNat_stampedByte (i : Fin 16) (byte : UInt8) : (stampedByte i byte).toNat =
    randomPart i byte + if i.val = 6 then 64 else if i.val = 8 then 128 else 0 := by
  have version : ∀ low < 16, low ||| 64 = low + 64 := by decide
  have marked : ∀ low < 64, low ||| 128 = low + 128 := by decide
  have low := Nat.and_two_pow_sub_one_eq_mod byte.toNat 4
  have low' := Nat.and_two_pow_sub_one_eq_mod byte.toNat 6
  have bound := byte.toNat_lt
  unfold stampedByte randomPart randomSize
  split_ifs
  · rw [← version _ (Nat.mod_lt _ (by decide))]
    simpa using congrArg (· ||| 64) low
  · rw [← marked _ (Nat.mod_lt _ (by decide))]
    simpa using congrArg (· ||| 128) low'
  · omega

/-- Two draws give one id exactly if they agree in the random bits. -/
theorem randomJti_eq_iff {bytes bytes' : Fin 16 → UInt8} :
    randomJti bytes = randomJti bytes' ↔
      ∀ i, randomPart i (bytes i) = randomPart i (bytes' i) := by
  rw [randomJti_eq, randomJti_eq, formatUuid_injective.eq_iff, funext_iff]
  apply forall_congr'
  intro i
  rw [← UInt8.toNat_inj, toNat_stampedByte, toNat_stampedByte, Nat.add_right_cancel_iff]

/-! ## Counting -/

theorem randomSize_pos (i : Fin 16) : 0 < randomSize i := by
  unfold randomSize
  split_ifs <;> omega

theorem card_range_randomPart (i : Fin 16) :
    Nat.card (Set.range (randomPart i)) = randomSize i := by
  have range : Set.range (randomPart i) = Set.Iio (randomSize i) := by
    ext value
    constructor
    · intro drawn
      obtain ⟨byte, rfl⟩ := drawn
      exact Nat.mod_lt _ (randomSize_pos i)
    · intro small
      have bound : randomSize i ≤ 256 := by
        unfold randomSize
        split_ifs <;> omega
      refine ⟨UInt8.ofNat value, ?_⟩
      have lower : value < randomSize i := small
      simp [randomPart, Nat.mod_eq_of_lt (lower.trans_le bound), Nat.mod_eq_of_lt lower]
  rw [range]
  simp

/-- A random part is left by as many bytes as any other. -/
theorem card_fibre_randomPart (i : Fin 16) (byte : UInt8) :
    Nat.card {other : UInt8 // randomPart i other = randomPart i byte} = 256 / randomSize i := by
  have divides : 256 % randomSize i = 0 := by
    unfold randomSize
    split_ifs <;> rfl
  have bytes : {other : UInt8 // randomPart i other = randomPart i byte} ≃
      {value : ℕ // value < 256 ∧ value ≡ byte.toNat [MOD randomSize i]} := {
    toFun other := ⟨other.1.toNat, other.1.toNat_lt, other.2⟩
    invFun value := ⟨UInt8.ofNat value.1, by
      have same : (UInt8.ofNat value.1).toNat = value.1 := by
        simpa using value.2.1
      rw [randomPart, same]
      exact value.2.2⟩
    left_inv other := by simp
    right_inv value := by simpa [Subtype.ext_iff] using value.2.1 }
  have counted : Nat.count (· ≡ byte.toNat [MOD randomSize i]) 256 =
      Nat.card {value : ℕ // value < 256 ∧ value ≡ byte.toNat [MOD randomSize i]} := by
    rw [Nat.count_eq_card_fintype]
    exact (@Nat.card_eq_fintype_card _ (Nat.CountSet.fintype _ 256)).symm
  rw [Nat.card_congr bytes, ← counted, Nat.count_modEq_card _ (randomSize_pos i), divides]
  simp

theorem card_range_randomJti : Nat.card (Set.range randomJti) = 2 ^ 122 := by
  have sameKernel : Setoid.ker randomJti = Setoid.ker (Pi.map randomPart) := by
    ext bytes bytes'
    rw [Setoid.ker_def, Setoid.ker_def, randomJti_eq_iff, funext_iff]
    rfl
  calc Nat.card (Set.range randomJti)
      = Nat.card (Quotient (Setoid.ker randomJti)) :=
        (Nat.card_congr (Setoid.quotientKerEquivRange randomJti)).symm
    _ = Nat.card (Set.range (Pi.map randomPart)) := by
        rw [sameKernel, Nat.card_congr (Setoid.quotientKerEquivRange _)]
    _ = ∏ i, Nat.card (Set.range (randomPart i)) := by
        rw [Set.range_piMap, Nat.card_congr (Equiv.Set.univPi _), Nat.card_pi]
    _ = ∏ i, randomSize i := Finset.prod_congr rfl fun i _ => card_range_randomPart i
    _ = 2 ^ 122 := by decide

theorem card_fibre_randomJti (bytes : Fin 16 → UInt8) :
    Nat.card {other // randomJti other = randomJti bytes} = 2 ^ 6 := by
  calc Nat.card {other // randomJti other = randomJti bytes}
      = Nat.card {other : Fin 16 → UInt8 //
          ∀ i, randomPart i (other i) = randomPart i (bytes i)} := by
        simp only [randomJti_eq_iff]
    _ = Nat.card (∀ i, {other : UInt8 // randomPart i other = randomPart i (bytes i)}) :=
        Nat.card_congr (Equiv.subtypePiEquivPi
          (p := fun i other => randomPart i other = randomPart i (bytes i)))
    _ = ∏ i, 256 / randomSize i := by
        rw [Nat.card_pi]
        exact Finset.prod_congr rfl fun i _ => card_fibre_randomPart i (bytes i)
    _ = 2 ^ 6 := by decide

/-- There are 2^122 ids, and each is drawn by 2^6 of the 2^128 strings of random
bytes: those that differ in the bits of the version and the variant only. -/
theorem randomJti_uniform :
    Nat.card (Set.range randomJti) = 2 ^ 122 ∧ ∀ bytes : Fin 16 → UInt8,
      Nat.card {other // randomJti other = randomJti bytes} = 2 ^ 6 ∧
      ∀ other, randomJti other = randomJti bytes ↔
        ∀ i, randomPart i (other i) = randomPart i (bytes i) :=
  ⟨card_range_randomJti, fun bytes => ⟨card_fibre_randomJti bytes, fun _ => randomJti_eq_iff⟩⟩

end OpenidTlsConnector
