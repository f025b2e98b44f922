import FunctionHost.Http.Base64
import FunctionHost.Proofs.Text
import Mathlib.Data.FinEnum
import Mathlib.Data.List.GetD

/-!
# One text for some bytes

A text spells bytes if its letters stand, six bits each, for the bits of the bytes and for the zeros
that fill up the last letter, and marks fill up the last group of four (`Spells`).  No text spells two
byte strings and no byte string has two texts (`Spells.bytes_unique`, `Spells.text_unique`).  The
text that is written spells the bytes, and reading succeeds on the texts that spell bytes, and only
on them (`decode_eq_ok_iff`).
-/
namespace FunctionHost
namespace Base64

/-! ## Bits -/

/-- The lowest bits of a byte, the highest of them first. -/
def bits (width : Nat) (v : UInt8) : List Bool := (List.range width).reverse.map v.toNat.testBit

section Bits

variable {v w mask k : UInt8} {width : Nat}

@[simp] theorem length_bits (width : Nat) (v : UInt8) : (bits width v).length = width := by
  simp [bits]

theorem bits_congr (h : ∀ i < width, v.toNat.testBit i = w.toNat.testBit i) :
    bits width v = bits width w := by
  refine List.map_congr_left fun i hi => h i ?_
  exact List.mem_range.mp (List.mem_reverse.mp hi)

/-- There are no bits above the lowest ones of a small byte. -/
theorem testBit_small (h : v.toNat < 2 ^ width) {i : Nat} (hi : width ≤ i) :
    v.toNat.testBit i = false :=
  Nat.testBit_lt_two_pow (h.trans_le (Nat.pow_le_pow_right (by decide) hi))

theorem bits_inj (hv : v.toNat < 2 ^ width) (hw : w.toNat < 2 ^ width)
    (h : bits width v = bits width w) : v = w := by
  refine UInt8.toNat_inj.mp (Nat.eq_of_testBit_eq fun i => ?_)
  by_cases hi : i < width
  · exact List.map_inj_left.mp h i (List.mem_reverse.mpr (List.mem_range.mpr hi))
  · rw [testBit_small hv (Nat.le_of_not_lt hi), testBit_small hw (Nat.le_of_not_lt hi)]

theorem bits_zero (width : Nat) : bits width 0 = List.replicate width false := by
  simp [bits, List.eq_replicate_iff]

/-! ### Masks -/

/-- The lowest bits are those under a mask. -/
theorem bits_masked (hmask : mask.toNat = 2 ^ width - 1) (v : UInt8) :
    bits width (v &&& mask) = bits width v := by
  refine bits_congr fun i hi => ?_
  rw [UInt8.toNat_and, Nat.testBit_and, hmask, Nat.testBit_two_pow_sub_one, decide_eq_true hi,
    Bool.and_true]

theorem masked_lt (hmask : mask.toNat = 2 ^ width - 1) (v : UInt8) :
    (v &&& mask).toNat < 2 ^ width := by
  rw [UInt8.toNat_and, hmask, Nat.and_two_pow_sub_one_eq_mod]
  exact Nat.mod_lt _ (Nat.two_pow_pos width)

/-- If there is nothing under a mask, the lowest bits are zeros. -/
theorem bits_unused (hmask : mask.toNat = 2 ^ width - 1) (h : v &&& mask = 0) :
    bits width v = List.replicate width false := by
  rw [← bits_masked hmask, h, bits_zero]

/-! ### Shifts -/

theorem shifted_lt (hk : k < 8) (h : v.toNat < 2 ^ (k.toNat + width)) :
    (v >>> k).toNat < 2 ^ width := by
  have hmod : k.toNat % 8 = k.toNat := Nat.mod_eq_of_lt (UInt8.lt_iff_toNat_lt.mp hk)
  rw [pow_add] at h
  rw [UInt8.toNat_shiftRight, hmod, Nat.shiftRight_eq_div_pow]
  exact Nat.div_lt_of_lt_mul h

theorem moved_lt (hk : k < 8) (h : v.toNat < 2 ^ width) :
    (v <<< k).toNat < 2 ^ (k.toNat + width) := by
  have hmod : k.toNat % 8 = k.toNat := Nat.mod_eq_of_lt (UInt8.lt_iff_toNat_lt.mp hk)
  rw [UInt8.toNat_shiftLeft, hmod, Nat.shiftLeft_eq, pow_add, Nat.mul_comm (2 ^ _)]
  exact (Nat.mod_le _ _).trans_lt (Nat.mul_lt_mul_of_pos_right h (Nat.two_pow_pos _))

theorem testBit_shiftRight (hk : k < 8) (v : UInt8) (i : Nat) :
    (v >>> k).toNat.testBit i = v.toNat.testBit (k.toNat + i) := by
  have hmod : k.toNat % 8 = k.toNat := Nat.mod_eq_of_lt (UInt8.lt_iff_toNat_lt.mp hk)
  rw [UInt8.toNat_shiftRight, hmod, Nat.testBit_shiftRight]

theorem testBit_shiftLeft (hk : k < 8) (v : UInt8) (i : Nat) : (v <<< k).toNat.testBit i =
    (decide (i < 8) && (decide (k.toNat ≤ i) && v.toNat.testBit (i - k.toNat))) := by
  have hmod : k.toNat % 8 = k.toNat := Nat.mod_eq_of_lt (UInt8.lt_iff_toNat_lt.mp hk)
  rw [UInt8.toNat_shiftLeft, hmod, Nat.testBit_mod_two_pow, Nat.testBit_shiftLeft]

/-- **Bits come in two pieces**: those above a place and those below it. -/
theorem bits_split (hk : k < 8) (width : Nat) (v : UInt8) :
    bits (k.toNat + width) v = bits width (v >>> k) ++ bits k.toNat v := by
  have hhigh : (v >>> k).toNat.testBit = fun i => v.toNat.testBit (k.toNat + i) :=
    funext (testBit_shiftRight hk v)
  rw [bits, List.range_add, List.reverse_append, List.map_append, bits, bits, hhigh,
    ← List.map_reverse, List.map_map]
  rfl

/-- **Two pieces are put together** by moving the upper one up, if the lower one is small. -/
theorem bits_joined (hk : k < 8) (width : Nat) (hwidth : k.toNat + width ≤ 8) (v : UInt8)
    (hw : w.toNat < 2 ^ k.toNat) :
    bits (k.toNat + width) ((v <<< k) ||| w) = bits width v ++ bits k.toNat w := by
  rw [bits_split hk]
  congr 1
  · refine bits_congr fun i hi => ?_
    have hin : k.toNat + i < 8 := by omega
    rw [testBit_shiftRight hk, UInt8.toNat_or, Nat.testBit_or, testBit_shiftLeft hk,
      testBit_small hw (Nat.le_add_right _ _), decide_eq_true hin,
      decide_eq_true (Nat.le_add_right _ _), Nat.add_sub_cancel_left, Bool.true_and, Bool.true_and,
      Bool.or_false]
  · refine bits_congr fun i hi => ?_
    rw [UInt8.toNat_or, Nat.testBit_or, testBit_shiftLeft hk,
      decide_eq_false (Nat.not_le.mpr hi), Bool.false_and, Bool.and_false, Bool.false_or]

/-- What is moved up is filled up with zeros. -/
theorem bits_moved (hk : k < 8) (width : Nat) (hwidth : k.toNat + width ≤ 8) (v : UInt8) :
    bits (k.toNat + width) (v <<< k) = bits width v ++ List.replicate k.toNat false := by
  have hjoined := bits_joined hk width hwidth v (w := 0) (Nat.two_pow_pos _)
  rwa [UInt8.or_zero, bits_zero] at hjoined

/-- There is nothing under a mask that is not wider than what it is filled up with. -/
theorem moved_masked (hk : k < 8) (hmask : mask.toNat = 2 ^ k.toNat - 1) (v : UInt8) :
    v <<< k &&& mask = 0 := by
  refine UInt8.toNat_inj.mp (Nat.eq_of_testBit_eq fun i => ?_)
  rw [UInt8.toNat_and, Nat.testBit_and, hmask, Nat.testBit_two_pow_sub_one, testBit_shiftLeft hk]
  by_cases hi : i < k.toNat
  · rw [decide_eq_false (Nat.not_le.mpr hi)]
    simp
  · rw [decide_eq_false hi]
    simp

end Bits

/-! ## Spelled bytes -/

/-- The letters, in the order of the six bits that they stand for. -/
def letters : String := "ABCDEFGHIJKLMNOPQRSTUVWXYZabcdefghijklmnopqrstuvwxyz0123456789+/"

/-- The letter for six bits. -/
def letter (v : UInt8) : Char := letters.toList.getD v.toNat '='

/-- **Whether values of six bits, and some padding, stand for bytes.** -/
structure StandFor (values : List UInt8) (padding : Nat) (bytes : List UInt8) : Prop where
  /-- No value has more than six bits. -/
  small : ∀ v ∈ values, v < 64
  /-- There is a value for the first bits of each byte. -/
  few : padding < 3
  /-- The last group is complete. -/
  whole : (values.length + padding) % 4 = 0
  /-- Their bits are those of the bytes and then zeros. -/
  bits : values.flatMap (bits 6) = bytes.flatMap (bits 8) ++ List.replicate (2 * padding) false

/-- **Whether a text spells bytes**: its letters stand for them, and marks fill up the last group. -/
def Spells (text : String) (bytes : List UInt8) : Prop :=
  ∃ values padding, StandFor values padding bytes ∧
    text.toList = values.map letter ++ List.replicate padding '='

section Unique

variable {width : Nat} {xs ys values others bytes more : List UInt8} {padding : Nat}

theorem length_flatMap_bits (width : Nat) (xs : List UInt8) :
    (xs.flatMap (bits width)).length = width * xs.length := by
  induction xs with
  | nil => rfl
  | cons x xs ih =>
    rw [List.flatMap_cons, List.length_append, length_bits, ih, List.length_cons, Nat.mul_succ,
      Nat.add_comm]

/-- Bytes of a width are known by their bits. -/
theorem flatMap_bits_inj (hwidth : 0 < width) (hx : ∀ x ∈ xs, x.toNat < 2 ^ width)
    (hy : ∀ y ∈ ys, y.toNat < 2 ^ width)
    (h : xs.flatMap (bits width) = ys.flatMap (bits width)) : xs = ys := by
  have hlength := congrArg List.length h
  rw [length_flatMap_bits, length_flatMap_bits] at hlength
  have heq : xs.length = ys.length := Nat.eq_of_mul_eq_mul_left hwidth hlength
  clear hlength
  induction xs generalizing ys with
  | nil => exact (List.length_eq_zero_iff.mp heq.symm).symm
  | cons x xs ih =>
    cases ys with
    | nil => cases heq
    | cons y ys =>
      rw [List.flatMap_cons, List.flatMap_cons] at h
      obtain ⟨hhead, htail⟩ := List.append_inj h (by simp)
      rw [bits_inj (hx x List.mem_cons_self) (hy y List.mem_cons_self) hhead,
        ih (fun z hz => hx z (List.mem_cons_of_mem _ hz))
          (fun z hz => hy z (List.mem_cons_of_mem _ hz)) htail (Nat.succ.inj heq)]

/-- Values stand for no two byte strings. -/
theorem StandFor.bytes_unique (h : StandFor values padding bytes)
    (h' : StandFor values padding more) : bytes = more := by
  have hbits := List.append_cancel_right (h.bits.symm.trans h'.bits)
  exact flatMap_bits_inj (by decide) (fun b _ => b.toNat_lt) (fun b _ => b.toNat_lt) hbits

/-- No other values, and no other padding, stand for the same bytes. -/
theorem StandFor.values_unique {others : List UInt8} {count : Nat}
    (h : StandFor values padding bytes) (h' : StandFor others count bytes) :
    values = others ∧ padding = count := by
  have hlength := congrArg List.length h.bits
  have hlength' := congrArg List.length h'.bits
  simp only [List.length_append, length_flatMap_bits, List.length_replicate] at hlength hlength'
  have hfew := h.few
  have hfew' := h'.few
  -- Six bits a value, eight a byte: modulo six, only one padding is left.
  have hpadding : padding = count := by omega
  subst hpadding
  have hbits := h.bits.trans h'.bits.symm
  refine ⟨flatMap_bits_inj (by decide) (fun v hv => ?_) (fun v hv => ?_) hbits, rfl⟩
  · exact UInt8.lt_iff_toNat_lt.mp (h.small v hv)
  · exact UInt8.lt_iff_toNat_lt.mp (h'.small v hv)

/-- No two values have one letter, and none has the mark. -/
theorem letter_inj (v : UInt8) (hv : v < 64) :
    letter v ≠ '=' ∧ ∀ w : UInt8, w < 64 → letter v = letter w → v = w := by
  have hlength : letters.toList.length = 64 := rfl
  have hall : ('=' :: letters.toList).Nodup := by decide +kernel
  obtain ⟨hmark, hnodup⟩ := List.nodup_cons.mp hall
  have hget (x : UInt8) (hx : x < 64) : ∃ h : x.toNat < letters.toList.length,
      letter x = letters.toList[x.toNat] := by
    have hlt : x.toNat < letters.toList.length := hlength ▸ UInt8.lt_iff_toNat_lt.mp hx
    exact ⟨hlt, List.getD_eq_getElem _ _ hlt⟩
  obtain ⟨hlt, hletter⟩ := hget v hv
  refine ⟨fun h => hmark ?_, fun w hw h => ?_⟩
  · rw [← h, hletter]
    exact List.getElem_mem hlt
  · obtain ⟨hlt', hletter'⟩ := hget w hw
    rw [hletter, hletter', hnodup.getElem_inj_iff] at h
    exact UInt8.toNat_inj.mp h

/-- Values and their padding are known by the text. -/
theorem letters_inj {count : Nat} (hx : ∀ x ∈ xs, x < 64) (hy : ∀ y ∈ ys, y < 64)
    (h : xs.map letter ++ List.replicate padding '=' = ys.map letter ++ List.replicate count '=') :
    xs = ys ∧ padding = count := by
  induction xs generalizing ys with
  | nil =>
    cases ys with
    | nil =>
      have hlength := congrArg List.length h
      simpa using hlength
    | cons y ys =>
      cases padding with
      | zero => cases h
      | succ padding =>
        exact absurd (List.cons.inj h).1.symm (letter_inj y (hy y List.mem_cons_self)).1
  | cons x xs ih =>
    have hx' := letter_inj x (hx x List.mem_cons_self)
    cases ys with
    | nil =>
      cases count with
      | zero => cases h
      | succ count => exact absurd (List.cons.inj h).1 hx'.1
    | cons y ys =>
      obtain ⟨hhead, htail⟩ := List.cons.inj h
      obtain ⟨hrest, hpadding⟩ := ih (fun z hz => hx z (List.mem_cons_of_mem _ hz))
        (fun z hz => hy z (List.mem_cons_of_mem _ hz)) htail
      rw [hx'.2 y (hy y List.mem_cons_self) hhead, hrest]
      exact ⟨rfl, hpadding⟩

/-- **A text spells one byte string** at most. -/
theorem Spells.bytes_unique {text : String} (h : Spells text bytes) (h' : Spells text more) :
    bytes = more := by
  obtain ⟨values, padding, hstand, htext⟩ := h
  obtain ⟨others, count, hstand', htext'⟩ := h'
  obtain ⟨rfl, rfl⟩ := letters_inj hstand.small hstand'.small (htext.symm.trans htext')
  exact hstand.bytes_unique hstand'

/-- **A byte string has one text** at most. -/
theorem Spells.text_unique {text other : String} (h : Spells text bytes) (h' : Spells other bytes) :
    text = other := by
  obtain ⟨values, padding, hstand, htext⟩ := h
  obtain ⟨others, count, hstand', htext'⟩ := h'
  obtain ⟨rfl, rfl⟩ := hstand.values_unique hstand'
  exact String.toList_inj.mp (htext.trans htext'.symm)

end Unique

/-! ## Written groups -/

section Written

variable {values : List UInt8} {padding : Nat} {bytes : List UInt8}

/-- The bytes of a text with these values and this padding. -/
def written (values : List UInt8) (padding : Nat) : List UInt8 :=
  values.map symbol ++ List.replicate padding pad

theorem letter_eq : ∀ v : UInt8, v < 64 →
    letter v = Char.ofNat (symbol v).toNat ∧ symbol v < 128 := by
  decide +kernel

theorem toList_written (h : ∀ v ∈ values, v < 64) (padding : Nat) :
    (written values padding).map (fun byte => Char.ofNat byte.toNat) =
      values.map letter ++ List.replicate padding '=' := by
  rw [written, List.map_append, List.map_map, List.map_replicate]
  congr 1
  exact List.map_congr_left fun v hv => ((letter_eq v (h v hv)).1).symm

theorem ascii_written (h : ∀ v ∈ values, v < 64) (padding : Nat) :
    ∀ byte ∈ written values padding, byte < 128 := by
  intro byte hbyte
  rcases List.mem_append.mp hbyte with hbyte | hbyte
  · obtain ⟨v, hv, rfl⟩ := List.mem_map.mp hbyte
    exact (letter_eq v (h v hv)).2
  · rw [List.eq_of_mem_replicate hbyte]
    decide

/-- The text of values that stand for bytes spells them. -/
theorem StandFor.spells (h : StandFor values padding bytes) :
    Spells (String.ofList ((written values padding).map fun b => Char.ofNat b.toNat)) bytes :=
  ⟨values, padding, h, by rw [String.toList_ofList, toList_written h.small]⟩

/-- A text with the bytes of values that stand for bytes spells them. -/
theorem StandFor.spells_text {text : String} (h : StandFor values padding bytes)
    (htext : text.toUTF8.toList = written values padding) : Spells text bytes := by
  have hsame := Utf8.ofList_of_ascii (htext ▸ ascii_written h.small padding)
  rw [htext] at hsame
  exact hsame ▸ h.spells

/-- Four values in front of some stand for three bytes in front. -/
theorem StandFor.cons {w x y z a b c : UInt8} (h : StandFor values padding bytes)
    (hsmall : ∀ v ∈ [w, x, y, z], v < 64)
    (hbits : Base64.bits 6 w ++ (Base64.bits 6 x ++ (Base64.bits 6 y ++ Base64.bits 6 z)) =
      Base64.bits 8 a ++ (Base64.bits 8 b ++ Base64.bits 8 c)) :
    StandFor (w :: x :: y :: z :: values) padding (a :: b :: c :: bytes) where
  small v hv := by
    rcases List.mem_append.mp (show v ∈ [w, x, y, z] ++ values from hv) with hv | hv
    · exact hsmall v hv
    · exact h.small v hv
  few := h.few
  whole := by
    have hwhole := h.whole
    simp only [List.length_cons]
    omega
  bits := by
    have happend := congrArg (· ++ values.flatMap (Base64.bits 6)) hbits
    simp only [List.append_assoc, h.bits] at happend
    simpa only [List.flatMap_cons, List.append_assoc, h.bits] using happend

/-! ### Groups of four and of three -/

/-- The second value of a group, made of the end of one byte and the begin of the next. -/
theorem bits_second (a b : UInt8) :
    bits 6 (((a &&& 3) <<< 4) ||| (b >>> 4)) = bits 2 a ++ bits 4 (b >>> 4) := by
  have hb : (b >>> 4).toNat < 2 ^ 4 := shifted_lt (by decide) b.toNat_lt
  have ha : bits 2 (a &&& 3) = bits 2 a := bits_masked rfl a
  rw [← ha]
  exact bits_joined (k := 4) (by decide) 2 (by decide) _ hb

/-- The third value of a group, made of the end of one byte and the begin of the next. -/
theorem bits_third (b c : UInt8) :
    bits 6 (((b &&& 15) <<< 2) ||| (c >>> 6)) = bits 4 b ++ bits 2 (c >>> 6) := by
  have hc : (c >>> 6).toNat < 2 ^ 2 := shifted_lt (by decide) c.toNat_lt
  have hb : bits 4 (b &&& 15) = bits 4 b := bits_masked rfl b
  rw [← hb]
  exact bits_joined (k := 2) (by decide) 4 (by decide) _ hc

/-- The value of the end of a last byte is filled up with zeros. -/
theorem bits_filled (v : UInt8) :
    bits 6 ((v &&& 3) <<< 4) = bits 2 v ++ List.replicate 4 false ∧
      bits 6 ((v &&& 15) <<< 2) = bits 4 v ++ List.replicate 2 false := by
  have htwo : bits 2 (v &&& 3) = bits 2 v := bits_masked rfl v
  have hfour : bits 4 (v &&& 15) = bits 4 v := bits_masked rfl v
  rw [← htwo, ← hfour]
  exact ⟨bits_moved (k := 4) (by decide) 2 (by decide) _,
    bits_moved (k := 2) (by decide) 4 (by decide) _⟩

theorem bits_eight_two (a : UInt8) : bits 8 a = bits 6 (a >>> 2) ++ bits 2 a :=
  bits_split (k := 2) (by decide) 6 a

theorem bits_eight_four (b : UInt8) : bits 8 b = bits 4 (b >>> 4) ++ bits 4 b :=
  bits_split (k := 4) (by decide) 4 b

theorem bits_eight_six (c : UInt8) : bits 8 c = bits 2 (c >>> 6) ++ bits 6 c :=
  bits_split (k := 6) (by decide) 2 c

/-- **The four values of three bytes** have the bits of the bytes. -/
theorem bits_encoded (a b c : UInt8) :
    bits 6 (a >>> 2) ++ (bits 6 (((a &&& 3) <<< 4) ||| (b >>> 4)) ++
      (bits 6 (((b &&& 15) <<< 2) ||| (c >>> 6)) ++ bits 6 (c &&& 63))) =
      bits 8 a ++ (bits 8 b ++ bits 8 c) := by
  have hlast : bits 6 (c &&& 63) = bits 6 c := bits_masked rfl c
  rw [bits_second, bits_third, hlast, bits_eight_two, bits_eight_four, bits_eight_six]
  simp only [List.append_assoc]

/-- The first byte of a group, made of a value and the begin of the next. -/
theorem bits_first_byte (x : UInt8) {y : UInt8} (hy : y < 64) :
    bits 8 ((x <<< 2) ||| (y >>> 4)) = bits 6 x ++ bits 2 (y >>> 4) :=
  bits_joined (k := 2) (by decide) 6 (by decide) _
    (shifted_lt (by decide) (UInt8.lt_iff_toNat_lt.mp hy))

/-- The second byte of a group, made of the end of a value and the begin of the next. -/
theorem bits_second_byte (y : UInt8) {z : UInt8} (hz : z < 64) :
    bits 8 ((y <<< 4) ||| (z >>> 2)) = bits 4 y ++ bits 4 (z >>> 2) :=
  bits_joined (k := 4) (by decide) 4 (by decide) _
    (shifted_lt (by decide) (UInt8.lt_iff_toNat_lt.mp hz))

/-- The third byte of a group, made of the end of a value and the next. -/
theorem bits_third_byte (z : UInt8) {w : UInt8} (hw : w < 64) :
    bits 8 ((z <<< 6) ||| w) = bits 2 z ++ bits 6 w :=
  bits_joined (k := 6) (by decide) 2 (by decide) _ (UInt8.lt_iff_toNat_lt.mp hw)

theorem bits_six_four (y : UInt8) : bits 6 y = bits 2 (y >>> 4) ++ bits 4 y :=
  bits_split (k := 4) (by decide) 2 y

theorem bits_six_two (z : UInt8) : bits 6 z = bits 4 (z >>> 2) ++ bits 2 z :=
  bits_split (k := 2) (by decide) 4 z

/-- **The three bytes of four values** have the bits of the values. -/
theorem bits_decoded (x : UInt8) {y z w : UInt8} (hy : y < 64) (hz : z < 64) (hw : w < 64) :
    bits 6 x ++ (bits 6 y ++ (bits 6 z ++ bits 6 w)) =
      bits 8 ((x <<< 2) ||| (y >>> 4)) ++ (bits 8 ((y <<< 4) ||| (z >>> 2)) ++
        bits 8 ((z <<< 6) ||| w)) := by
  rw [bits_first_byte x hy, bits_second_byte y hz, bits_third_byte z hw, bits_six_four y,
    bits_six_two z]
  simp only [List.append_assoc]

end Written

/-! ## Writing -/

theorem small_encoded (a : UInt8) :
    a >>> 2 < 64 ∧ a &&& 63 < 64 ∧ (a &&& 3) <<< 4 < 64 ∧ (a &&& 15) <<< 2 < 64 := by
  have htwo : (a &&& 3).toNat < 2 ^ 2 := masked_lt rfl a
  have hfour : (a &&& 15).toNat < 2 ^ 4 := masked_lt rfl a
  have hsix : (a &&& 63).toNat < 2 ^ 6 := masked_lt rfl a
  have hfirst : (a >>> 2).toNat < 2 ^ 6 := shifted_lt (by decide) a.toNat_lt
  simp only [UInt8.lt_iff_toNat_lt]
  exact ⟨hfirst, hsix, moved_lt (k := 4) (by decide) htwo, moved_lt (k := 2) (by decide) hfour⟩

theorem small_shifted (b : UInt8) : b >>> 4 < 64 ∧ b >>> 6 < 64 := by
  have hfour : (b >>> 4).toNat < 2 ^ 4 := shifted_lt (by decide) b.toNat_lt
  have hsix : (b >>> 6).toNat < 2 ^ 2 := shifted_lt (by decide) b.toNat_lt
  simp only [UInt8.lt_iff_toNat_lt]
  exact ⟨hfour.trans (by decide), hsix.trans (by decide)⟩

theorem or_lt {a b : UInt8} (ha : a < 64) (hb : b < 64) : a ||| b < 64 := by
  rw [UInt8.lt_iff_toNat_lt] at ha hb ⊢
  rw [UInt8.toNat_or]
  exact Nat.or_lt_two_pow (n := 6) ha hb

theorem standFor_nil : StandFor [] 0 [] where
  small _ h := nomatch h
  few := by decide
  whole := rfl
  bits := rfl

theorem small_of_three (a b c : UInt8) :
    ∀ v ∈ [a >>> 2, ((a &&& 3) <<< 4) ||| (b >>> 4), ((b &&& 15) <<< 2) ||| (c >>> 6), c &&& 63],
      v < 64 := by
  simp only [List.mem_cons, List.not_mem_nil, or_false]
  rintro v (rfl | rfl | rfl | rfl)
  · exact (small_encoded a).1
  · exact or_lt (small_encoded a).2.2.1 (small_shifted b).1
  · exact or_lt (small_encoded b).2.2.2 (small_shifted c).2
  · exact (small_encoded c).2.1

theorem small_of_two (a b : UInt8) :
    ∀ v ∈ [a >>> 2, ((a &&& 3) <<< 4) ||| (b >>> 4), (b &&& 15) <<< 2], v < 64 := by
  simp only [List.mem_cons, List.not_mem_nil, or_false]
  rintro v (rfl | rfl | rfl)
  · exact (small_encoded a).1
  · exact or_lt (small_encoded a).2.2.1 (small_shifted b).1
  · exact (small_encoded b).2.2.2

theorem small_of_one (a : UInt8) : ∀ v ∈ [a >>> 2, (a &&& 3) <<< 4], v < 64 := by
  simp only [List.mem_cons, List.not_mem_nil, or_false]
  rintro v (rfl | rfl)
  · exact (small_encoded a).1
  · exact (small_encoded a).2.2.1

/-- **Written symbols stand for the bytes.** -/
theorem standFor_encodeBytes (bytes : List UInt8) : ∃ values padding,
    StandFor values padding bytes ∧ encodeBytes bytes = written values padding := by
  fun_induction encodeBytes bytes with
  | case1 a b c rest ih =>
    obtain ⟨values, padding, hstand, hwritten⟩ := ih
    refine ⟨_, padding, hstand.cons (small_of_three a b c) (bits_encoded a b c), ?_⟩
    rw [hwritten]
    rfl
  | case2 a b =>
    refine ⟨_, 1, ⟨small_of_two a b, by decide, by simp, ?_⟩, rfl⟩
    simp only [List.flatMap_cons, List.flatMap_nil, bits_second, (bits_filled b).2, bits_eight_two a,
      bits_eight_four b, List.append_assoc, List.append_nil]
  | case3 a =>
    refine ⟨_, 2, ⟨small_of_one a, by decide, by simp, ?_⟩, rfl⟩
    simp only [List.flatMap_cons, List.flatMap_nil, (bits_filled a).1, bits_eight_two a,
      List.append_assoc, List.append_nil]
  | case4 => exact ⟨[], 0, standFor_nil, rfl⟩

/-- **The written text spells the bytes.** -/
theorem spells_encode (bytes : Bytes) : Spells (encode bytes) bytes.toList := by
  obtain ⟨values, padding, hstand, hwritten⟩ := standFor_encodeBytes bytes.toList
  rw [encode, hwritten]
  exact hstand.spells

/-! ## Reading -/

section Reading

variable {start index offset count : Nat} {byte v : UInt8} {symbols values bytes : List UInt8}

theorem bits?_eq (byte : UInt8) (v : UInt8) (h : bits? byte = some v) : v < 64 ∧ symbol v = byte := by
  grind [bits?, Base64.symbol]

theorem bits?_symbol : ∀ v : UInt8, v < 64 → bits? (symbol v) = some v ∧ symbol v ≠ pad := by
  decide +kernel

theorem bind_eq_ok {α β ε : Type} {x : Except ε α} {f : α → Except ε β} {b : β} :
    (x >>= f) = .ok b ↔ ∃ a, x = .ok a ∧ f a = .ok b := by
  cases x <;> simp [bind, Except.bind]

theorem inner_eq_ok (h : inner offset byte = .ok v) : v < 64 ∧ symbol v = byte := by
  unfold inner at h
  split at h
  next w hw =>
    cases h
    exact bits?_eq byte v hw
  next => cases h

/-- **The symbols of the last group** are those of small values, and only padding follows them. -/
theorem lastGroup_eq_ok (h : lastGroup start index symbols = .ok (values, count)) :
    (∀ v ∈ values, v < 64) ∧ symbols = written values count ∧
      (values = [] → index < 2 → count = 0) := by
  fun_induction lastGroup start index symbols generalizing values count with
  | case1 =>
    cases h
    exact ⟨(fun _ h => nomatch h), rfl, fun _ _ => rfl⟩
  | case2 => cases h
  | case3 index rest hindex hpads =>
    cases h
    refine ⟨(fun _ h => nomatch h), ?_, fun _ h => absurd h hindex⟩
    -- Behind the first padding there is only padding.
    have hrest : rest = List.replicate rest.length pad :=
      List.eq_replicate_iff.mpr ⟨rfl, fun b hb => of_decide_eq_true (List.all_eq_true.mp hpads b hb)⟩
    rw [written, List.map_nil, List.nil_append, List.replicate_succ, ← hrest]
  | case4 => cases h
  | case5 => cases h
  | case6 index b rest hpad w hw ih =>
    cases hmore : lastGroup start (index + 1) rest with
    | error problem =>
      rw [hmore] at h
      cases h
    | ok more =>
      rw [hmore] at h
      obtain ⟨hsmall, hwritten, -⟩ := ih hmore
      obtain ⟨hvalue, hsymbol⟩ := bits?_eq b w hw
      cases h
      refine ⟨fun v hv => ?_, ?_, fun h => nomatch h⟩
      · rcases List.mem_cons.mp hv with rfl | hv
        · exact hvalue
        · exact hsmall v hv
      · rw [written, List.map_cons, hsymbol]
        exact congrArg _ hwritten

theorem length_written (values : List UInt8) (padding : Nat) :
    (written values padding).length = values.length + padding := by
  simp [written]

/-- Two values at the end stand for one byte, if what is left of the second is zeros. -/
theorem standFor_two {x y : UInt8} (hsmall : ∀ v ∈ [x, y], v < 64) (hunused : y &&& 15 = 0) :
    StandFor [x, y] 2 [(x <<< 2) ||| (y >>> 4)] where
  small := hsmall
  few := by decide
  whole := by simp
  bits := by
    have hrest : Base64.bits 4 y = List.replicate 4 false := bits_unused rfl hunused
    simp only [List.flatMap_cons, List.flatMap_nil, bits_first_byte x (hsmall y (by simp)),
      bits_six_four y, hrest, List.append_assoc, List.append_nil]

/-- Three values at the end stand for two bytes, if what is left of the third is zeros. -/
theorem standFor_three {x y z : UInt8} (hsmall : ∀ v ∈ [x, y, z], v < 64) (hunused : z &&& 3 = 0) :
    StandFor [x, y, z] 1 [(x <<< 2) ||| (y >>> 4), (y <<< 4) ||| (z >>> 2)] where
  small := hsmall
  few := by decide
  whole := by simp
  bits := by
    have hrest : Base64.bits 2 z = List.replicate 2 false := bits_unused rfl hunused
    simp only [List.flatMap_cons, List.flatMap_nil, bits_first_byte x (hsmall y (by simp)),
      bits_second_byte y (hsmall z (by simp)), bits_six_four y, bits_six_two z, hrest,
      List.append_assoc, List.append_nil]

/-- **The last group is read** only if it stands for what is read. -/
theorem decodeLast_eq_ok (hlength : symbols.length ≤ 4)
    (h : decodeLast start symbols = .ok bytes) :
    ∃ values padding, StandFor values padding bytes ∧ symbols = written values padding := by
  cases hgroup : lastGroup start 0 symbols with
  | error problem =>
    rw [decodeLast, hgroup] at h
    cases h
  | ok group =>
    obtain ⟨values, padding⟩ := group
    obtain ⟨hsmall, hwritten, hnone⟩ := lastGroup_eq_ok hgroup
    rw [hwritten, length_written] at hlength
    refine ⟨values, padding, ?_, hwritten⟩
    rw [decodeLast, hgroup] at h
    simp only [bind, Except.bind] at h
    match values with
    | [] =>
      obtain rfl := hnone rfl (by decide)
      dsimp only at h
      split at h
      · cases h
        exact standFor_nil
      · cases h
    | [_] => cases h
    | [x, y] =>
      simp only [List.length_cons, List.length_nil] at h hlength
      split at h
      · cases h
      next hwhole =>
        -- Symbols and padding make a whole group.
        obtain rfl : padding = 2 := by omega
        split at h
        next hunused =>
          cases h
          exact standFor_two hsmall hunused
        · cases h
    | [x, y, z] =>
      simp only [List.length_cons, List.length_nil] at h hlength
      split at h
      · cases h
      next hwhole =>
        obtain rfl : padding = 1 := by omega
        split at h
        next hunused =>
          cases h
          exact standFor_three hsmall hunused
        · cases h
    | [x, y, z, w] =>
      simp only [List.length_cons, List.length_nil] at h hlength
      obtain rfl : padding = 0 := by omega
      cases h
      exact standFor_nil.cons hsmall
        (bits_decoded x (hsmall y (by simp)) (hsmall z (by simp)) (hsmall w (by simp)))
    | _ :: _ :: _ :: _ :: _ :: more =>
      simp only [List.length_cons] at hlength
      omega

/-- **Symbols are read** only if they stand for what is read. -/
theorem decodeFrom_eq_ok (h : decodeFrom start symbols = .ok bytes) :
    ∃ values padding, StandFor values padding bytes ∧ symbols = written values padding := by
  fun_induction decodeFrom start symbols generalizing bytes with
  | case1 start a b c d e rest ih =>
    simp only [bind_eq_ok] at h
    obtain ⟨x, hx, y, hy, z, hz, w, hw, more, hmore, hbytes⟩ := h
    obtain ⟨values, padding, hstand, hwritten⟩ := ih hmore
    obtain ⟨hxs, rfl⟩ := inner_eq_ok hx
    obtain ⟨hys, rfl⟩ := inner_eq_ok hy
    obtain ⟨hzs, rfl⟩ := inner_eq_ok hz
    obtain ⟨hws, rfl⟩ := inner_eq_ok hw
    cases hbytes
    refine ⟨x :: y :: z :: w :: values, padding, hstand.cons ?_ (bits_decoded x hys hzs hws), ?_⟩
    · simp only [List.mem_cons, List.not_mem_nil, or_false]
      rintro v (rfl | rfl | rfl | rfl) <;> assumption
    · rw [hwritten]
      rfl
  | case2 start symbols hshort =>
    refine decodeLast_eq_ok ?_ h
    match symbols, hshort with
    | [], _ | [_], _ | [_, _], _ | [_, _, _], _ | [_, _, _, _], _ => simp
    | a :: b :: c :: d :: e :: rest, hshort => exact (hshort a b c d e rest rfl).elim

/-- **What is read is spelled.** -/
theorem spells_of_decode {text : String} {bytes : Bytes} (h : decode text = .ok bytes) :
    Spells text bytes.toList := by
  rw [decode] at h
  split at h
  · cases h
  · cases hread : decodeFrom 0 text.toUTF8.toList with
    | error problem =>
      rw [hread] at h
      cases h
    | ok symbols =>
      rw [hread] at h
      cases h
      obtain ⟨values, padding, hstand, hwritten⟩ := decodeFrom_eq_ok hread
      rw [Bytes.toList_ofList]
      exact hstand.spells_text hwritten

/-! ### What is written is read -/

theorem inner_symbol (hv : v < 64) (offset : Nat) : inner offset (symbol v) = .ok v := by
  rw [inner, (bits?_symbol v hv).1]

theorem lastGroup_written (hsmall : ∀ v ∈ values, v < 64) (start index padding : Nat)
    (h : 2 ≤ index + values.length) :
    lastGroup start index (written values padding) = .ok (values, padding) := by
  induction values generalizing index with
  | nil =>
    cases padding with
    | zero => rfl
    | succ padding =>
      have hindex : ¬ index < 2 := Nat.not_lt.mpr h
      have hpads : (List.replicate padding pad).all (· = pad) = true := by simp
      rw [written, List.map_nil, List.nil_append, List.replicate_succ, lastGroup, if_pos rfl,
        if_neg hindex, if_pos hpads, List.length_replicate]
  | cons v values ih =>
    obtain ⟨hbits, hpad⟩ := bits?_symbol v (hsmall v List.mem_cons_self)
    have hmore := ih (fun w hw => hsmall w (List.mem_cons_of_mem _ hw)) (index + 1) (by
      rw [List.length_cons] at h
      omega)
    show lastGroup start index (symbol v :: written values padding) = _
    rw [lastGroup, if_neg hpad, hbits]
    simp only [hmore]
    rfl

theorem decodeLast_four {w x y z : UInt8}
    (h : lastGroup start 0 symbols = .ok ([w, x, y, z], 0)) :
    decodeLast start symbols =
      .ok [(w <<< 2) ||| (x >>> 4), (x <<< 4) ||| (y >>> 2), (y <<< 6) ||| z] := by
  rw [decodeLast, h]
  simp [bind, Except.bind]

theorem decodeLast_three {x y z : UInt8} (h : lastGroup start 0 symbols = .ok ([x, y, z], 1))
    (hunused : z &&& 3 = 0) :
    decodeLast start symbols = .ok [(x <<< 2) ||| (y >>> 4), (y <<< 4) ||| (z >>> 2)] := by
  rw [decodeLast, h]
  simp [bind, Except.bind, hunused]

theorem decodeLast_two {x y : UInt8} (h : lastGroup start 0 symbols = .ok ([x, y], 2))
    (hunused : y &&& 15 = 0) : decodeLast start symbols = .ok [(x <<< 2) ||| (y >>> 4)] := by
  rw [decodeLast, h]
  simp [bind, Except.bind, hunused]

/-- **What is written is read**: the symbols of some bytes spell something. -/
theorem decodeFrom_encodeBytes (start : Nat) (bytes : List UInt8) (h : bytes ≠ [] ∨ start = 0) :
    ∃ read, decodeFrom start (encodeBytes bytes) = .ok read := by
  fun_induction encodeBytes bytes generalizing start with
  | case1 a b c rest ih =>
    have hsmall := small_of_three a b c
    cases hrest : encodeBytes rest with
    | nil =>
      rw [decodeFrom.eq_2 _ _ (by simp)]
      exact ⟨_, decodeLast_four (lastGroup_written hsmall start 0 0 (by simp))⟩
    | cons e symbols =>
      have hne : rest ≠ [] := by
        rintro rfl
        cases hrest
      obtain ⟨more, hmore⟩ := ih (start + 4) (.inl hne)
      rw [hrest] at hmore
      rw [decodeFrom, inner_symbol (hsmall _ (by simp)), inner_symbol (hsmall _ (by simp)),
        inner_symbol (hsmall _ (by simp)), inner_symbol (hsmall _ (by simp)), hmore]
      exact ⟨_, rfl⟩
  | case2 a b =>
    have hgroup := lastGroup_written (small_of_two a b) start 0 1 (by simp)
    rw [decodeFrom.eq_2 _ _ (by simp)]
    exact ⟨_, decodeLast_three hgroup (moved_masked (by decide) rfl _)⟩
  | case3 a =>
    have hgroup := lastGroup_written (small_of_one a) start 0 2 (by simp)
    rw [decodeFrom.eq_2 _ _ (by simp)]
    exact ⟨_, decodeLast_two hgroup (moved_masked (by decide) rfl _)⟩
  | case4 =>
    obtain rfl : start = 0 := h.resolve_left fun h => h rfl
    exact ⟨[], rfl⟩

end Reading

/-- **The written text of a byte string is read back.** -/
theorem decode_encode (bytes : Bytes) : decode (encode bytes) = .ok bytes := by
  obtain ⟨values, padding, hstand, hwritten⟩ := standFor_encodeBytes bytes.toList
  have htext : (encode bytes).toUTF8.toList = encodeBytes bytes.toList := by
    rw [encode, hwritten]
    exact Utf8.toUTF8_of_ascii (ascii_written hstand.small _)
  have hstray : strayEnd (encodeBytes bytes.toList) = none := by
    have hlength : (encodeBytes bytes.toList).length % 4 = 0 := by
      rw [hwritten, length_written]
      exact hstand.whole
    rw [strayEnd]
    split
    · rfl
    · rw [hlength]
      rfl
  obtain ⟨read, hread⟩ := decodeFrom_encodeBytes 0 bytes.toList (.inr rfl)
  have hdecode : decode (encode bytes) = .ok (Bytes.ofList read) := by
    rw [decode, htext]
    simp only [hstray, hread]
    rfl
  -- What is read is spelled by the text, and so are the bytes; a text spells only one byte string.
  have hsame := (spells_of_decode hdecode).bytes_unique (spells_encode bytes)
  rw [hdecode, ← Bytes.ofList_toList bytes, ← hsame, Bytes.toList_ofList]

/-- **A text is read as the bytes that it spells**, and as nothing else. -/
theorem decode_eq_ok_iff {text : String} {bytes : Bytes} :
    decode text = .ok bytes ↔ Spells text bytes.toList := by
  refine ⟨spells_of_decode, fun h => ?_⟩
  rw [h.text_unique (spells_encode bytes)]
  exact decode_encode bytes

/-- The empty text spells no bytes. -/
theorem decode_empty : decode "" = .ok ByteArray.empty := by
  have hencode : encode ByteArray.empty = "" := by
    rw [encode, Bytes.toList_eq]
    rfl
  rw [← hencode]
  exact decode_encode ByteArray.empty

/-- A text that spells bytes is the one that is written for them. -/
theorem encode_of_spells {text : String} {bytes : Bytes} (h : Spells text bytes.toList) :
    encode bytes = text :=
  (spells_encode bytes).text_unique h

end Base64
end FunctionHost
