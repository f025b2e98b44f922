import Mathlib.Data.Nat.Bitwise
import FunctionHost.Packed
import FunctionHost.Settings.Host

/-!
# Packed results are read as they were written

A word holds a pointer and a length side by side, each with bits of its own: as a number, the word
is `ptr * 2 ^ 32 + len`, and the error bit adds `2 ^ 63` to it.  So reading a word divides its
number (`decode_of_lt`, `decode_of_le`), and a region is found again in the word that names it, be
it that of a result (`decode_region`) or of an error document (`decode_region_or_errorBit`).

Not everything has a word of its own.  A pointer that reaches into the error bit has none, and one
error document would have all bits set, which is bare failure.  What can be said (`Sayable`) is just
what words say, each by one word only, so packed results are **an exact code** (`exact_code`); and
within a memory that settings can allow, everything can be said.
-/
namespace FunctionHost
namespace Packed

variable {ptr len : UInt32} {word : UInt64}

/-! ## Words as numbers -/

theorem toNat_region (ptr len : UInt32) :
    (region ptr len).toNat = ptr.toNat * 0x100000000 + len.toNat := by
  have hptr : ptr.toNat < 0x100000000 := ptr.toNat_lt
  have hlen : len.toNat < 2 ^ 32 := len.toNat_lt
  have hshift : (ptr.toUInt64 <<< 32).toNat = ptr.toNat <<< 32 := by
    rw [UInt64.toNat_shiftLeft, UInt32.toNat_toUInt64]
    show ptr.toNat <<< 32 % 2 ^ 64 = ptr.toNat <<< 32
    rw [Nat.shiftLeft_eq]
    omega
  rw [region, UInt64.toNat_or, hshift, UInt32.toNat_toUInt64,
    ← Nat.shiftLeft_add_eq_or_of_lt hlen, Nat.shiftLeft_eq]

theorem toNat_or_errorBit (h : word.toNat < 0x8000000000000000) :
    (word ||| errorBit).toNat = word.toNat + 0x8000000000000000 := by
  have hor := Nat.two_pow_add_eq_or_of_lt (i := 63) h 1
  rw [UInt64.toNat_or, Nat.or_comm, Nat.add_comm]
  exact hor.symm

/-- The error bit is the highest one. -/
theorem and_errorBit_eq_zero_iff : word &&& errorBit = 0 ↔ word.toNat < 0x8000000000000000 := by
  have hbit : (word &&& errorBit).toNat = (word.toNat.testBit 63).toNat * 2 ^ 63 := by
    rw [UInt64.toNat_and]
    exact Nat.and_two_pow word.toNat 63
  have hword : word.toNat < 0x10000000000000000 := word.toNat_lt
  rw [← UInt64.toNat_inj, hbit, Nat.testBit_eq_decide_div_mod_eq]
  show _ = 0 ↔ _
  by_cases h : word.toNat / 2 ^ 63 % 2 = 1 <;> simp only [h, decide_true, decide_false] <;>
    simp <;> omega

/-- The pointer in a word, whatever the error bit. -/
theorem toNat_pointer (word : UInt64) :
    ((word &&& ~~~errorBit) >>> 32).toUInt32.toNat =
      word.toNat % 0x8000000000000000 / 0x100000000 := by
  have hand : (word &&& ~~~errorBit).toNat = word.toNat % 2 ^ 63 := by
    rw [UInt64.toNat_and]
    exact Nat.and_two_pow_sub_one_eq_mod word.toNat 63
  rw [UInt64.toNat_toUInt32, UInt64.toNat_shiftRight, hand]
  show (word.toNat % 2 ^ 63) >>> 32 % 2 ^ 32 = _
  rw [Nat.shiftRight_eq_div_pow]
  omega

/-! ## Reading words -/

/-- **A word below the error bit is a result.** -/
theorem decode_of_lt (h : word.toNat < 0x8000000000000000) :
    decode word =
      .ok (.ofNat (word.toNat / 0x100000000)) (.ofNat (word.toNat % 0x100000000)) := by
  have hne : word ≠ failure := by
    rintro rfl
    exact absurd h (by decide)
  rw [decode, if_neg hne]
  simp only [and_errorBit_eq_zero_iff.mpr h, if_true]
  congr 1 <;> apply UInt32.toNat_inj.mp
  · rw [toNat_pointer, UInt32.toNat_ofNat']
    omega
  · rw [UInt64.toNat_toUInt32, UInt32.toNat_ofNat']
    omega

/-- **A word with the error bit names an error document**, unless it is bare failure. -/
theorem decode_of_le (h : 0x8000000000000000 ≤ word.toNat) (hne : word ≠ failure) :
    decode word =
      .err (.ofNat (word.toNat % 0x8000000000000000 / 0x100000000))
        (.ofNat (word.toNat % 0x100000000)) := by
  have hbit : ¬ word &&& errorBit = 0 := fun h0 =>
    absurd (and_errorBit_eq_zero_iff.mp h0) (Nat.not_lt.mpr h)
  have hword : word.toNat < 0x10000000000000000 := word.toNat_lt
  rw [decode, if_neg hne]
  simp only [hbit, if_false]
  congr 1 <;> apply UInt32.toNat_inj.mp
  · rw [toNat_pointer, UInt32.toNat_ofNat']
    omega
  · rw [UInt64.toNat_toUInt32, UInt32.toNat_ofNat']
    omega

/-! ## Words that name regions -/

theorem region_lt (h : ptr ≤ maxPointer) : (region ptr len).toNat < 0x8000000000000000 := by
  have hptr : ptr.toNat ≤ 2147483647 := UInt32.le_iff_toNat_le.mp h
  have hlen : len.toNat < 0x100000000 := len.toNat_lt
  rw [toNat_region]
  omega

/-- **A result's region is found in its word.** -/
theorem decode_region (h : ptr ≤ maxPointer) : decode (region ptr len) = .ok ptr len := by
  have hlen : len.toNat < 0x100000000 := len.toNat_lt
  rw [decode_of_lt (region_lt h), toNat_region]
  congr 1 <;> apply UInt32.toNat_inj.mp <;> rw [UInt32.toNat_ofNat'] <;>
    have := ptr.toNat_lt <;> omega

/-- **A document's region is found in its word**, but for the one whose word is bare failure. -/
theorem decode_region_or_errorBit (h : ptr ≤ maxPointer)
    (hne : ptr ≠ maxPointer ∨ len ≠ 0xFFFFFFFF) :
    decode (region ptr len ||| errorBit) = .err ptr len := by
  have hptr : ptr.toNat ≤ 2147483647 := UInt32.le_iff_toNat_le.mp h
  have hlen : len.toNat < 0x100000000 := len.toNat_lt
  have hlt : (region ptr len).toNat < 0x8000000000000000 := region_lt h
  have hword := toNat_or_errorBit hlt
  rw [toNat_region] at hword
  have hfail : region ptr len ||| errorBit ≠ failure := by
    rw [Ne, ← UInt64.toNat_inj, hword]
    rw [Ne, Ne, ← UInt32.toNat_inj, ← UInt32.toNat_inj] at hne
    have h1 : maxPointer.toNat = 2147483647 := rfl
    have h2 : (0xFFFFFFFF : UInt32).toNat = 4294967295 := rfl
    have h3 : failure.toNat = 18446744073709551615 := rfl
    omega
  have hle : 0x8000000000000000 ≤ (region ptr len ||| errorBit).toNat := by omega
  refine (decode_of_le hle hfail).trans ?_
  congr 1 <;> apply UInt32.toNat_inj.mp <;> rw [UInt32.toNat_ofNat'] <;> omega

/-- The word for an error document, as a number. -/
theorem toNat_encodeError (h : ptr ≤ maxPointer) :
    (encodeError ptr len).toNat =
      ptr.toNat * 0x100000000 + len.toNat + 0x8000000000000000 := by
  rw [encodeError, encode, if_pos h]
  show (region ptr len ||| errorBit).toNat = _
  rw [toNat_or_errorBit (region_lt h), toNat_region]

theorem encodeError_of_lt (h : maxPointer < ptr) : encodeError ptr len = failure := by
  rw [encodeError, encode, if_neg (UInt32.not_le.mpr h)]

/-- **Every word for an error document has the error bit.** -/
theorem le_toNat_encodeError (ptr len : UInt32) :
    0x8000000000000000 ≤ (encodeError ptr len).toNat := by
  by_cases h : ptr ≤ maxPointer
  · rw [toNat_encodeError h]
    omega
  · rw [encodeError_of_lt (UInt32.not_le.mp h)]
    decide

/-- **No word for an error document is zero**, which stands for an empty result. -/
theorem encodeError_ne_zero (ptr len : UInt32) : encodeError ptr len ≠ 0 := fun hzero =>
  absurd (le_toNat_encodeError ptr len) (hzero ▸ by decide)

/-! ## An exact code -/

/-- **The word that says something**, if there is one. -/
def word? : Packed → Option UInt64
  | .ok ptr len => encode ptr len
  | .err ptr len => some (encodeError ptr len)
  | .failed => some failure

/-- **Whether something can be said by a word of its own**: its pointer leaves the error bit free,
and it is not the one error document whose word would be bare failure. -/
def Sayable : Packed → Prop
  | .ok ptr _ => ptr ≤ maxPointer
  | .err ptr len => ptr ≤ maxPointer ∧ (ptr ≠ maxPointer ∨ len ≠ 0xFFFFFFFF)
  | .failed => True

theorem le_maxPointer_iff : ptr ≤ maxPointer ↔ ptr.toNat < 0x80000000 :=
  UInt32.le_iff_toNat_le.trans Nat.lt_succ_iff.symm

/-- A word is negative, as a signed number, if it has the error bit. -/
theorem toInt64_neg_iff : word.toInt64 < 0 ↔ 0x8000000000000000 ≤ word.toNat := by
  have hneg : word.toInt64 < 0 ↔ word.toBitVec.toInt < 0 := Int64.lt_iff_toInt_lt
  have hword : word.toBitVec.toNat = word.toNat := rfl
  rw [hneg, BitVec.toInt_neg_iff, hword]
  show 18446744073709551616 ≤ 2 * word.toNat ↔ _
  omega

theorem encodeError_eq_failure
    (h : maxPointer < ptr ∨ ptr = maxPointer ∧ len = 0xFFFFFFFF) :
    encodeError ptr len = failure := by
  obtain h | ⟨rfl, rfl⟩ := h
  · exact encodeError_of_lt h
  · rfl

/-- An error document without a word of its own has that of bare failure. -/
theorem encodeError_of_not_sayable (h : ¬ (Packed.err ptr len).Sayable) :
    encodeError ptr len = failure := by
  refine encodeError_eq_failure (Decidable.or_iff_not_imp_left.mpr fun hle => ?_)
  have hle : ptr ≤ maxPointer := UInt32.not_lt.mp hle
  refine Decidable.byContradiction fun hne => h ⟨hle, ?_⟩
  exact Classical.not_and_iff_not_or_not.mp hne

/-- **What can be said is read off its word.** -/
theorem Sayable.decode {r : Packed} (h : r.Sayable) :
    ∃ word, r.word? = some word ∧ Packed.decode word = r := by
  cases r with
  | ok ptr len => exact ⟨_, if_pos h, decode_region h⟩
  | err ptr len =>
    refine ⟨_, rfl, ?_⟩
    rw [encodeError, encode, if_pos h.1]
    exact decode_region_or_errorBit h.1 h.2
  | failed => exact ⟨_, rfl, if_pos rfl⟩

/-- **Words say only what can be said.** -/
theorem sayable_decode (word : UInt64) : (decode word).Sayable := by
  have hword : word.toNat < 0x10000000000000000 := word.toNat_lt
  by_cases hfailed : word = failure
  · rw [hfailed]
    trivial
  by_cases hlt : word.toNat < 0x8000000000000000
  · rw [decode_of_lt hlt]
    refine le_maxPointer_iff.mpr ?_
    rw [UInt32.toNat_ofNat']
    omega
  · rw [decode_of_le (Nat.le_of_not_lt hlt) hfailed]
    refine ⟨le_maxPointer_iff.mpr ?_, Classical.not_and_iff_not_or_not.mp ?_⟩
    · rw [UInt32.toNat_ofNat']
      omega
    · -- Only bare failure has all bits set.
      rintro ⟨hptr, hlen⟩
      refine hfailed (UInt64.toNat_inj.mp ?_)
      have hptr := congrArg UInt32.toNat hptr
      have hlen := congrArg UInt32.toNat hlen
      rw [UInt32.toNat_ofNat'] at hptr hlen
      have h1 : maxPointer.toNat = 2147483647 := rfl
      have h2 : (0xFFFFFFFF : UInt32).toNat = 4294967295 := rfl
      have h3 : failure.toNat = 18446744073709551615 := rfl
      omega

/-- **What a word says has that word.** -/
theorem word?_decode (word : UInt64) : (decode word).word? = some word := by
  have hword : word.toNat < 0x10000000000000000 := word.toNat_lt
  have hsayable := sayable_decode word
  by_cases hfailed : word = failure
  · rw [hfailed]
    rfl
  by_cases hlt : word.toNat < 0x8000000000000000
  · rw [decode_of_lt hlt] at hsayable ⊢
    refine (if_pos hsayable).trans (congrArg some (UInt64.toNat_inj.mp ?_))
    rw [toNat_region, UInt32.toNat_ofNat', UInt32.toNat_ofNat']
    omega
  · rw [decode_of_le (Nat.le_of_not_lt hlt) hfailed] at hsayable ⊢
    refine congrArg some (UInt64.toNat_inj.mp ?_)
    rw [toNat_encodeError hsayable.1, UInt32.toNat_ofNat', UInt32.toNat_ofNat']
    omega

/-- **A word of its own says one thing only.** -/
theorem Sayable.eq_of_word? {r r' : Packed} (h : r.Sayable) (h' : r'.Sayable)
    (hword : r.word? = r'.word?) : r = r' := by
  obtain ⟨word, hr, hdecode⟩ := h.decode
  obtain ⟨word', hr', hdecode'⟩ := h'.decode
  rw [hr, hr'] at hword
  rw [← hdecode, ← hdecode', Option.some.inj hword]

end Packed

/-! ## Memories whose regions have words -/

/-- Settings that are accepted keep memories below the error bit. -/
theorem ExecutionSettings.maxMemoryBytes_le {s : ExecutionSettings} (h : s.validate = .ok ()) :
    s.maxMemoryBytes ≤ 0x80000000 := by
  unfold validate at h
  split at h
  · cases h
  · rename_i hmb
    have : s.maxMemoryMb.toNat ≤ 2048 := Nat.not_lt.mp hmb
    unfold maxMemoryBytes
    omega

namespace Packed

/-- A region that is not empty has a word of its own below the error bit, as a result and as an error
document. -/
theorem sayable_of_le (hlen : len ≠ 0) (hfits : ptr.toNat + len.toNat ≤ 0x80000000) :
    (Packed.ok ptr len).Sayable ∧ (Packed.err ptr len).Sayable := by
  have hpos : 0 < len.toNat := Nat.pos_of_ne_zero fun hzero => hlen (UInt32.toNat_inj.mp hzero)
  have hle : ptr ≤ maxPointer := le_maxPointer_iff.mpr (by omega)
  refine ⟨hle, hle, .inr fun hmax => ?_⟩
  have hmax : len.toNat = 4294967295 := congrArg UInt32.toNat hmax
  omega

/-- **Packed results are an exact code.**

A result has a word if and only if its pointer is below `2 ^ 31`; the word is not negative, and is
read as that result.  The word for an error document is negative and read as that document, except
that pointers from `2 ^ 31` on and the one place at `2 ^ 31 - 1` of length `2 ^ 32 - 1` have minus one
for their word, which is read as bare failure.

What any word says has that word again, and nothing else that can be said has it.  And within the
memory that accepted settings allow, every region that is not empty has words, as a result and as an
error document, that are read as that and are not bare failure. -/
theorem exact_code :
    (∀ ptr len,
      ((encode ptr len).isSome = true ↔ ptr.toNat < 0x80000000) ∧
      ∀ word, encode ptr len = some word → 0 ≤ word.toInt64 ∧ decode word = .ok ptr len) ∧
    (∀ ptr len,
      let lost := 0x80000000 ≤ ptr.toNat ∨ ptr.toNat = 0x7FFFFFFF ∧ len.toNat = 0xFFFFFFFF
      (encodeError ptr len).toInt64 < 0 ∧
      (¬ lost → decode (encodeError ptr len) = .err ptr len) ∧
      (lost → (encodeError ptr len).toInt64 = -1 ∧ decode (encodeError ptr len) = .failed)) ∧
    (∀ word, (decode word).word? = some word ∧
      ∀ r : Packed, r.Sayable → r.word? = some word → r = decode word) ∧
    (∀ s : ExecutionSettings, s.validate = .ok () → ∀ size ≤ s.maxMemoryBytes, ∀ ptr len : UInt32,
      len ≠ 0 → ptr.toNat + len.toNat ≤ size →
      ∀ r ∈ [Packed.ok ptr len, Packed.err ptr len],
        ∃ word, r.word? = some word ∧ word ≠ failure ∧ decode word = r) := by
  refine ⟨fun ptr len => ⟨?_, fun word hword => ?_⟩, fun ptr len => ?_, fun word => ?_, ?_⟩
  · rw [← le_maxPointer_iff, encode]
    split <;> simp [*]
  · unfold encode at hword
    split at hword
    · rename_i hle
      cases hword
      have hlt : (region ptr len).toNat < 0x8000000000000000 := region_lt hle
      refine ⟨Int64.not_lt.mp fun hneg => ?_, decode_region hle⟩
      exact absurd (toInt64_neg_iff.mp hneg) (Nat.not_le.mpr hlt)
    · cases hword
  · have hmax : maxPointer.toNat = 2147483647 := rfl
    have hfull : (0xFFFFFFFF : UInt32).toNat = 4294967295 := rfl
    refine ⟨toInt64_neg_iff.mpr (le_toNat_encodeError ptr len), fun hlost => ?_, fun hlost => ?_⟩
    · have hsayable : (Packed.err ptr len).Sayable := by
        refine ⟨le_maxPointer_iff.mpr (by omega), ?_⟩
        rw [Ne, Ne, ← UInt32.toNat_inj, ← UInt32.toNat_inj]
        omega
      obtain ⟨word, hword, hdecode⟩ := hsayable.decode
      cases hword
      exact hdecode
    · have hfailed : encodeError ptr len = failure := by
        -- The pointer does not fit, or the word is that of failure itself.
        refine encodeError_eq_failure ?_
        rw [UInt32.lt_iff_toNat_lt, ← UInt32.toNat_inj, ← UInt32.toNat_inj]
        omega
      rw [hfailed]
      decide
  · refine ⟨word?_decode word, fun r hr hword => ?_⟩
    exact hr.eq_of_word? (sayable_decode word) (hword.trans (word?_decode word).symm)
  · intro s hs size hsize ptr len hlen hfits r hr
    have hmax := ExecutionSettings.maxMemoryBytes_le hs
    have hsayable : (Packed.ok ptr len).Sayable ∧ (Packed.err ptr len).Sayable :=
      sayable_of_le hlen (by omega)
    have hr : r.Sayable ∧ r ≠ .failed := by
      simp only [List.mem_cons, List.not_mem_nil, or_false] at hr
      rcases hr with rfl | rfl
      · exact ⟨hsayable.1, (fun h => nomatch h)⟩
      · exact ⟨hsayable.2, (fun h => nomatch h)⟩
    obtain ⟨word, hword, hdecode⟩ := hr.1.decode
    refine ⟨word, hword, ?_, hdecode⟩
    -- The word of failure decodes to failure.
    rintro rfl
    exact hr.2 hdecode.symm

/-- The last byte of the largest memory that settings can allow has words. -/
theorem last_byte_has_words :
    let s : ExecutionSettings := { maxMemoryMb := 2048 }
    s.validate = .ok () ∧ s.maxMemoryBytes = 0x80000000 ∧
      ∀ r ∈ [Packed.ok 0x7FFFFFFF 1, Packed.err 0x7FFFFFFF 1],
        ∃ word, r.word? = some word ∧ word ≠ failure ∧ decode word = r :=
  ⟨rfl, rfl, exact_code.2.2.2 { maxMemoryMb := 2048 } rfl 0x80000000 (Nat.le_refl _) 0x7FFFFFFF 1
    (by decide) (by decide)⟩

end Packed
end FunctionHost
