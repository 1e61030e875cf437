import CardShuffle.Analysis
import Mathlib.Data.Nat.ModEq
import Mathlib.Logic.Function.Basic

/-!
# Seeds of chunks are distinct

Scrambling a word loses nothing. A word xored with its own shift comes back when this
is done often enough: doing it twice is doing it once with twice the shift
(`smear_smear`), and a shift by all the places leaves nothing to xor. A product with
an odd number comes back when it is multiplied by the inverse. So different words are
scrambled to different words (`scramble_injective`), and chunks of one analysis have
seeds of their own (`chunkSeed_inj`). Seeds of chunks of different analyses are equal
only when their base seeds are a multiple of the step apart that makes up for the
numbers of the chunks (`mixSeed_eq_iff_modEq`).
-/

namespace CardShuffle.Analysis

/-- Xor a row of bits with its own shift to the right. -/
def smear {width : Nat} (shift : Nat) (bits : BitVec width) : BitVec width :=
  bits ^^^ (bits >>> shift)

/-- Smearing twice is smearing once with twice the shift. -/
theorem smear_smear {width : Nat} (shift : Nat) (bits : BitVec width) :
    smear shift (smear shift bits) = smear (shift + shift) bits := by
  unfold smear
  rw [BitVec.ushiftRight_xor_distrib, ← BitVec.shiftRight_add, BitVec.xor_assoc,
    ← BitVec.xor_assoc (bits >>> shift), BitVec.xor_self, BitVec.zero_xor]

/-- Smearing by as many places as there are bits changes nothing. -/
theorem smear_of_le {width shift : Nat} (far : width ≤ shift) (bits : BitVec width) :
    smear shift bits = bits := by
  rw [smear, BitVec.ushiftRight_eq_zero far, BitVec.xor_zero]

/-- Smearing by a quarter of the bits or more loses nothing: doing it four times in
all leads back. -/
theorem smear_injective {width shift : Nat} (far : width ≤ 4 * shift) :
    Function.Injective (smear shift : BitVec width → BitVec width) := by
  intro left right equal
  have twice : smear (shift + shift) left = smear (shift + shift) right := by
    rw [← smear_smear, ← smear_smear, equal]
  have again : smear (shift + shift + (shift + shift)) left =
      smear (shift + shift + (shift + shift)) right := by
    rw [← smear_smear (shift + shift), ← smear_smear (shift + shift), twice]
  rwa [smear_of_le (by omega), smear_of_le (by omega)] at again

/-- Xoring a word with its own shift loses nothing when the shift is not small. -/
theorem xor_shift_injective (shift : UInt64) (far : 64 ≤ 4 * (shift.toNat % 64)) :
    Function.Injective fun word : UInt64 => word ^^^ (word >>> shift) := by
  intro left right equal
  have bits : smear (shift.toNat % 64) left.toBitVec = smear (shift.toNat % 64) right.toBitVec := by
    simpa [smear] using congrArg UInt64.toBitVec equal
  exact UInt64.toBitVec_inj.mp (smear_injective far bits)

/-- Multiplying by a number that has an inverse loses nothing. -/
theorem mul_unit_injective {factor inverse : UInt64} (unit : factor * inverse = 1) :
    Function.Injective fun word : UInt64 => word * factor := by
  intro left right equal
  have products : left * factor * inverse = right * factor * inverse :=
    congrArg (· * inverse) equal
  rwa [UInt64.mul_assoc, UInt64.mul_assoc, unit, UInt64.mul_one, UInt64.mul_one] at products

/-- Different words are scrambled to different words. -/
theorem scramble_injective : Function.Injective scramble := by
  have first : (0xBF58476D1CE4E5B9 : UInt64) * 0x96DE1B173F119089 = 1 := by decide
  have second : (0x94D049BB133111EB : UInt64) * 0x319642B2D24D8EC3 = 1 := by decide
  exact (xor_shift_injective 31 (by decide)).comp <|
    (mul_unit_injective second).comp <|
    (xor_shift_injective 27 (by decide)).comp <|
    (mul_unit_injective first).comp (xor_shift_injective 30 (by decide))

/-- Two seeds of chunks are equal exactly when the words that are scrambled are. -/
theorem mixSeed_inj {seed other chunk otherChunk : UInt64} :
    mixSeed seed chunk = mixSeed other otherChunk ↔
      seed + (chunk + 1) * 0x9E3779B97F4A7C15 =
        other + (otherChunk + 1) * 0x9E3779B97F4A7C15 :=
  scramble_injective.eq_iff

/-- With one base seed, different chunks have different seeds. -/
theorem mixSeed_chunk_inj {seed chunk otherChunk : UInt64} :
    mixSeed seed chunk = mixSeed seed otherChunk ↔ chunk = otherChunk := by
  have step : (0x9E3779B97F4A7C15 : UInt64) * 0xF1DE83E19937733D = 1 := by decide
  rw [mixSeed_inj, UInt64.add_right_inj, (mul_unit_injective step).eq_iff, UInt64.add_left_inj]

/-- Chunks whose numbers are words have seeds of their own. -/
theorem chunkSeed_inj {seed chunk otherChunk : Nat} (word : chunk < Word.limit)
    (otherWord : otherChunk < Word.limit) :
    chunkSeed seed chunk = chunkSeed seed otherChunk ↔ chunk = otherChunk := by
  unfold chunkSeed
  rw [UInt64.toNat_inj, mixSeed_chunk_inj]
  constructor
  · intro equal
    have numbers := congrArg UInt64.toNat equal
    rwa [UInt64.toNat_ofNat_of_lt' word, UInt64.toNat_ofNat_of_lt' otherWord] at numbers
  · rintro rfl
    rfl

/-! ## Seeds of different analyses -/

/-- Words are equal exactly when their numbers are congruent. -/
theorem toNat_modEq_iff {left right : UInt64} :
    left.toNat ≡ right.toNat [MOD 2 ^ 64] ↔ left = right := by
  rw [← UInt64.toNat_inj]
  exact ⟨fun same => same.eq_of_lt_of_lt left.toNat_lt right.toNat_lt, fun equal => equal ▸ rfl⟩

/-- A seed that is moved by a step for each chunk is congruent to the exact sum. -/
theorem toNat_moved_modEq (seed chunk step : UInt64) :
    (seed + (chunk + 1) * step).toNat ≡ seed.toNat + (chunk.toNat + 1) * step.toNat
      [MOD 2 ^ 64] := by
  have next : (chunk + 1).toNat ≡ chunk.toNat + 1 [MOD 2 ^ 64] := by
    rw [UInt64.toNat_add]
    exact Nat.mod_modEq _ _
  have moves : ((chunk + 1) * step).toNat ≡ (chunk.toNat + 1) * step.toNat [MOD 2 ^ 64] := by
    rw [UInt64.toNat_mul]
    exact (Nat.mod_modEq _ _).trans (next.mul_right _)
  rw [UInt64.toNat_add]
  exact (Nat.mod_modEq _ _).trans (moves.add_left _)

/-- Two chunks have one seed exactly when their base seeds, moved by a step for each chunk
up to them, are congruent. So with one base seed no two chunks share a seed, and with one
number of a chunk no two base seeds do. -/
theorem mixSeed_eq_iff_modEq :
    (∀ seed other chunk otherChunk : UInt64,
      mixSeed seed chunk = mixSeed other otherChunk ↔
        seed.toNat + (chunk.toNat + 1) * 0x9E3779B97F4A7C15 ≡
          other.toNat + (otherChunk.toNat + 1) * 0x9E3779B97F4A7C15 [MOD 2 ^ 64]) ∧
      (∀ seed, Function.Injective fun chunk => mixSeed seed chunk) ∧
      ∀ chunk, Function.Injective fun seed => mixSeed seed chunk := by
  refine ⟨?_, ?_, ?_⟩
  · intro seed other chunk otherChunk
    have left := toNat_moved_modEq seed chunk 0x9E3779B97F4A7C15
    have right := toNat_moved_modEq other otherChunk 0x9E3779B97F4A7C15
    rw [mixSeed_inj, ← toNat_modEq_iff]
    exact ⟨fun same => left.symm.trans (same.trans right),
      fun same => left.trans (same.trans right.symm)⟩
  · intro seed chunk otherChunk
    exact mixSeed_chunk_inj.mp
  · intro chunk seed other equal
    exact (UInt64.add_left_inj _).mp (mixSeed_inj.mp equal)

end CardShuffle.Analysis
