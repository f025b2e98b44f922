import FunctionHost.Text.Utf8
import Mathlib.Data.FinEnum

/-!
# Bytes and texts

The bytes of a byte string are a list, and that list is all there is to it.  Bytes are a text if and
only if they are its UTF-8 bytes (`IsText`).  Texts are made of texts: a byte of ASCII is one, a
character beyond ASCII has no byte of ASCII in it, and one text behind another is a text.  The text of
a number is its decimal digits.
-/
namespace FunctionHost

namespace Bytes

theorem toList_eq (bytes : Bytes) : bytes.toList = bytes.data.toList := by
  have hloop (n i : Nat) (read : List UInt8) (h : bytes.size - i = n) :
      ByteArray.toList.loop bytes i read = read.reverse ++ bytes.data.toList.drop i := by
    induction n generalizing i read with
    | zero =>
      have hle : bytes.size ≤ i := by omega
      rw [ByteArray.toList.loop, if_neg (Nat.not_lt.mpr hle), List.drop_eq_nil_of_le hle,
        List.append_nil]
    | succ n ih =>
      have hlt : i < bytes.size := by omega
      have hlength : i < bytes.data.toList.length := hlt
      have hget : bytes.get! i = bytes.data.toList[i] := by
        show bytes.data[i]! = _
        rw [getElem!_pos bytes.data i hlt, Array.getElem_toList]
      rw [ByteArray.toList.loop, if_pos hlt, ih (i + 1) _ (by omega), List.drop_eq_getElem_cons hlt,
        List.reverse_cons, List.append_assoc, hget]
      rfl
  exact hloop _ 0 [] rfl

theorem ofList_toList (bytes : Bytes) : ofList bytes.toList = bytes := by
  rw [toList_eq]
  rfl

theorem toList_ofList (bytes : List UInt8) : (ofList bytes).toList = bytes := toList_eq _

end Bytes

namespace Utf8

variable {bytes : Bytes} {text : String}

theorem decode?_eq_some_iff : decode? bytes = some text ↔ text.toUTF8 = bytes := by
  unfold decode? String.fromUTF8?
  constructor
  · intro h
    split at h
    · cases h
      rfl
    · cases h
  · rintro rfl
    exact dif_pos text.isValidUTF8

theorem decode?_eq_none_iff : decode? bytes = none ↔ ¬ bytes.IsValidUTF8 := by
  unfold decode? String.fromUTF8?
  split <;> simp [*]

/-! ## Bytes of characters -/

variable {chars : List Char} {c : Char} {byte : UInt8}

theorem toUTF8_ofList (chars : List Char) :
    (String.ofList chars).toUTF8.toList = chars.flatMap String.utf8EncodeChar := by
  rw [Bytes.toList_eq]
  show (String.ofList chars).toByteArray.data.toList = _
  rw [String.toByteArray_ofList, List.utf8Encode]
  simp

theorem toUTF8_append (a b : String) :
    (a ++ b).toUTF8.toList = a.toUTF8.toList ++ b.toUTF8.toList := by
  simp only [Bytes.toList_eq]
  show (a ++ b).toByteArray.data.toList = a.toByteArray.data.toList ++ b.toByteArray.data.toList
  simp

/-- A character of ASCII is a single byte. -/
theorem utf8EncodeChar_ascii (h : c.toNat < 128) :
    String.utf8EncodeChar c = [UInt8.ofNat c.toNat] := by
  have hc : c.val.toNat ≤ 127 := Nat.le_of_lt_succ h
  rw [String.utf8EncodeChar.eq_1, if_pos hc]
  rfl

theorem toUTF8_ascii (h : ∀ c ∈ chars, c.toNat < 128) :
    (String.ofList chars).toUTF8.toList = chars.map fun c => UInt8.ofNat c.toNat := by
  rw [toUTF8_ofList]
  induction chars with
  | nil => rfl
  | cons c chars ih =>
    rw [List.flatMap_cons, ih fun d hd => h d (List.mem_cons_of_mem _ hd),
      utf8EncodeChar_ascii (h c List.mem_cons_self)]
    rfl

/-- **Bytes of ASCII are the text** of the characters with their numbers. -/
theorem toUTF8_of_ascii {bytes : List UInt8} (h : ∀ byte ∈ bytes, byte < 128) :
    (String.ofList (bytes.map fun byte => Char.ofNat byte.toNat)).toUTF8.toList = bytes := by
  have hbyte (byte : UInt8) (h : byte < 128) : (Char.ofNat byte.toNat).toNat < 128 ∧
      UInt8.ofNat (Char.ofNat byte.toNat).toNat = byte := by
    have hsmall : byte.toNat < 128 := UInt8.lt_iff_toNat_lt.mp h
    have hvalid : byte.toNat.isValidChar := .inl (by omega)
    have hsame : (Char.ofNat byte.toNat).toNat = byte.toNat := by
      rw [Char.ofNat, dif_pos hvalid]
      rfl
    rw [hsame]
    exact ⟨hsmall, UInt8.ofNat_toNat⟩
  rw [toUTF8_ascii fun c hc => ?_]
  · rw [List.map_map]
    conv_rhs => rw [← List.map_id bytes]
    exact List.map_congr_left fun byte hb => (hbyte byte (h byte hb)).2
  · obtain ⟨byte, hb, rfl⟩ := List.mem_map.mp hc
    exact (hbyte byte (h byte hb)).1

/-- A text of ASCII has the characters with the numbers of its bytes. -/
theorem ofList_of_ascii {text : String} (h : ∀ byte ∈ text.toUTF8.toList, byte < 128) :
    String.ofList (text.toUTF8.toList.map fun byte => Char.ofNat byte.toNat) = text := by
  have hbytes := congrArg Bytes.ofList (toUTF8_of_ascii h)
  rw [Bytes.ofList_toList, Bytes.ofList_toList] at hbytes
  exact String.toByteArray_inj.mp hbytes

/-- A character beyond ASCII has no byte of ASCII in it. -/
theorem le_of_mem_utf8EncodeChar (h : 128 ≤ c.toNat) (hbyte : byte ∈ String.utf8EncodeChar c) :
    128 ≤ byte := by
  have hlarge : ¬ c.val.toNat ≤ 127 := Nat.not_le.mpr h
  have hle (n k : Nat) (hk : 128 ≤ k) (hn : n + k < 256) : 128 ≤ UInt8.ofNat (n + k) := by
    rw [UInt8.le_iff_toNat_le, UInt8.toNat_ofNat']
    show 128 ≤ _
    omega
  -- Each of its bytes is a few bits of its number above one of four marks.
  rw [String.utf8EncodeChar.eq_1, if_neg hlarge] at hbyte
  split at hbyte
  · simp only [List.mem_cons, List.not_mem_nil, or_false] at hbyte
    rcases hbyte with rfl | rfl <;> exact hle _ _ (by decide) (by omega)
  · split at hbyte
    · simp only [List.mem_cons, List.not_mem_nil, or_false] at hbyte
      rcases hbyte with rfl | rfl | rfl <;> exact hle _ _ (by decide) (by omega)
    · simp only [List.mem_cons, List.not_mem_nil, or_false] at hbyte
      rcases hbyte with rfl | rfl | rfl | rfl <;> exact hle _ _ (by decide) (by omega)

end Utf8

/-! ## Digits -/

namespace Digits

/-- The byte of a decimal digit. -/
def digitByte (c : Char) : UInt8 := UInt8.ofNat c.toNat

/-- The decimal digits of a number. -/
def digits (n : Nat) : List UInt8 := (Nat.toDigits 10 n).map digitByte

theorem toNat_isDigit {c : Char} (h : c.isDigit = true) : 48 ≤ c.toNat ∧ c.toNat ≤ 57 := by
  simp only [Char.isDigit, Bool.and_eq_true, decide_eq_true_eq] at h
  exact h

theorem toNat_digitByte {c : Char} (h : c.isDigit = true) : (digitByte c).toNat = c.toNat := by
  have hle := toNat_isDigit h
  rw [digitByte, UInt8.toNat_ofNat']
  exact Nat.mod_eq_of_lt (by omega)

theorem isDigit_of_mem_toDigits {n : Nat} {c : Char} (h : c ∈ Nat.toDigits 10 n) : c.isDigit = true :=
  Nat.isDigit_of_mem_toDigits (by decide) (by decide) h

theorem toUTF8_toString (n : Nat) : (toString n).toUTF8.toList = digits n := by
  rw [Nat.toString_eq_ofList_toDigits, Utf8.toUTF8_ascii fun c hc => ?_]
  · rfl
  · have hle := toNat_isDigit (isDigit_of_mem_toDigits hc)
    omega

theorem digits_ne_nil (n : Nat) : digits n ≠ [] :=
  List.map_eq_nil_iff.not.mpr Nat.toDigits_ne_nil

theorem range_of_mem_digits {n : Nat} {byte : UInt8} (h : byte ∈ digits n) :
    48 ≤ byte ∧ byte ≤ 57 := by
  obtain ⟨c, hc, rfl⟩ := List.mem_map.mp h
  have hdigit := isDigit_of_mem_toDigits hc
  rw [UInt8.le_iff_toNat_le, UInt8.le_iff_toNat_le, toNat_digitByte hdigit]
  exact toNat_isDigit hdigit

/-- **A number is the value of its digits.** -/
theorem foldl_digits (n : Nat) :
    (digits n).foldl (fun value byte => value * 10 + (byte.toNat - 48)) 0 = n := by
  have hfold (chars : List Char) (h : ∀ c ∈ chars, c.isDigit = true) (start : Nat) :
      (chars.map digitByte).foldl (fun value byte => value * 10 + (byte.toNat - 48)) start =
        Nat.ofDigitChars 10 chars start := by
    induction chars generalizing start with
    | nil => rfl
    | cons c chars ih =>
      rw [List.map_cons, List.foldl_cons, ih (fun d hd => h d (List.mem_cons_of_mem _ hd)),
        toNat_digitByte (h c List.mem_cons_self), Nat.ofDigitChars_cons, Nat.mul_comm]
      rfl
  rw [digits, hfold _ (fun _ => isDigit_of_mem_toDigits), Nat.ofDigitChars_ten_toDigits]

end Digits

/-! ## Bytes that are texts -/

/-- **Whether bytes are a text**, that is its UTF-8 bytes. -/
def IsText (bytes : List UInt8) : Prop := ∃ text : String, text.toUTF8.toList = bytes

theorem IsText.append {a b : List UInt8} (ha : IsText a) (hb : IsText b) : IsText (a ++ b) := by
  obtain ⟨s, rfl⟩ := ha
  obtain ⟨t, rfl⟩ := hb
  exact ⟨s ++ t, Utf8.toUTF8_append s t⟩

theorem isText_of_ascii {bytes : List UInt8} (h : ∀ byte ∈ bytes, byte < 128) : IsText bytes :=
  ⟨_, Utf8.toUTF8_of_ascii h⟩

theorem isText_nil : IsText [] := isText_of_ascii fun _ hb => nomatch hb

theorem isText_byte {byte : UInt8} (h : byte < 128) : IsText [byte] :=
  isText_of_ascii fun _ hb => List.mem_singleton.mp hb ▸ h

theorem IsText.decode? {bytes : List UInt8} (h : IsText bytes) :
    ∃ text, Utf8.decode? (Bytes.ofList bytes) = some text := by
  obtain ⟨text, rfl⟩ := h
  exact ⟨text, Utf8.decode?_eq_some_iff.mpr (Bytes.ofList_toList _).symm⟩
end FunctionHost
