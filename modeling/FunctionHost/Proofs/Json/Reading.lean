import FunctionHost.Json.Reader
import FunctionHost.Proofs.Text
import Mathlib.Data.FinEnum
import Mathlib.Data.List.TakeWhile

/-!
# Readers

Readers go from left to right and leave what they do not need, so what is said of a reader is which
bytes there were before it and which there are after it (`Reads`); readers that follow each other
then follow each other in the bytes, too (`Reads.bind`).  A reader that refuses leaves nothing to the
ones behind it (`Refuses`).

Strings and numbers are read as they were written: a string is the same string, whatever characters
it has (`reads_string`), and a number is the same number if it is one of those that are not kept as
floats and nothing follows that could go on it (`reads_number`).
-/
namespace FunctionHost
namespace Json
namespace Reader

open Digits

variable {α β : Type} {r : Reading α} {f : α → Reading β} {a : α} {b : β} {s : String}
  {byte : UInt8} {before between after rest : List UInt8}

/-! ## Readers -/

/-- **Whether a reader answers with a value**, given the bytes before it, and leaves the bytes after
it. -/
def Reads (r : Reading α) (before : List UInt8) (a : α) (after : List UInt8) : Prop :=
  ∀ used, ∃ used', ExceptT.run r ⟨before, used⟩ = (.ok a, ⟨after, used'⟩)

theorem bind_apply (x : StateM Cursor α) (f : α → StateM Cursor β) (c : Cursor) :
    (x >>= f) c = f (x c).1 (x c).2 := rfl

/-- **One reader after another.** -/
theorem Reads.bind (h : Reads r before a between) (h' : Reads (f a) between b after) :
    Reads (r >>= f) before b after := by
  intro used
  obtain ⟨used', hr⟩ := h used
  obtain ⟨used'', hf⟩ := h' used'
  refine ⟨used'', ?_⟩
  rw [ExceptT.run_bind, bind_apply, hr]
  exact hf

theorem reads_pure (a : α) (rest : List UInt8) : Reads (pure a) rest a rest :=
  fun used => ⟨used, rfl⟩

theorem reads_get {f : Cursor → Reading β} (h : ∀ used, Reads (f ⟨before, used⟩) before b after) :
    Reads (get >>= f) before b after := by
  intro used
  exact h used used

theorem reads_modify {f : Cursor → Cursor} (h : ∀ used, (f ⟨before, used⟩).rest = after) :
    Reads (modify f) before () after := by
  intro used
  refine ⟨(f ⟨before, used⟩).used, ?_⟩
  rw [← h used]
  rfl

theorem reads_peek (byte : UInt8) (rest : List UInt8) :
    Reads peek (byte :: rest) (some byte) (byte :: rest) :=
  fun used => ⟨used, rfl⟩

theorem reads_advance (byte : UInt8) (rest : List UInt8) :
    Reads advance (byte :: rest) () rest :=
  fun used => ⟨used + 1, rfl⟩

theorem reads_next (byte : UInt8) (rest : List UInt8) :
    Reads next (byte :: rest) (some byte) rest :=
  fun used => ⟨used + 1, rfl⟩

theorem Reads.map (g : α → β) (h : Reads r before a after) :
    Reads (g <$> r) before (g a) after := by
  rw [map_eq_pure_bind]
  exact h.bind (reads_pure (g a) after)

/-- What is done about a refusal does not matter if there is none. -/
theorem Reads.tryCatch (h : Reads r before a after) (handle : Refusal → Reading α) :
    Reads (tryCatch r handle) before a after := by
  intro used
  obtain ⟨used', hr⟩ := h used
  refine ⟨used', ?_⟩
  rw [ExceptT.run_tryCatch, bind_apply, hr]
  rfl

theorem Reads.attempt (h : Reads r before a after) : Reads (attempt r) before (.ok a) after :=
  (h.map Except.ok).tryCatch _

theorem Reads.placed (h : Reads r before a after) : Reads (placed r) before a after :=
  h.tryCatch _

theorem Reads.closedBy {close : Reading Unit} (h : Reads r before a between)
    (h' : Reads close between () after) : Reads (closedBy r close) before a after :=
  h.attempt.bind (h'.attempt.bind (reads_pure a after))

/-- No blanks are skipped where there are none. -/
theorem reads_skipBlanks (h : isBlank byte = false) (rest : List UInt8) :
    Reads skipBlanks (byte :: rest) (some byte) (byte :: rest) := by
  refine Reads.bind (reads_modify fun used => ?_) (reads_peek byte rest)
  simp [h]

theorem reads_firstByte (h : isBlank byte = false) (rest : List UInt8) :
    Reads firstByte (byte :: rest) byte (byte :: rest) :=
  (reads_skipBlanks h rest).bind (reads_pure byte _)

/-! ### Refusals -/

/-- **Whether a reader refuses**, given the bytes before it. -/
def Refuses (r : Reading α) (before : List UInt8) : Prop :=
  ∀ used, ∃ refusal c, ExceptT.run r ⟨before, used⟩ = (.error refusal, c)

theorem refuses_failLater (reason : String) (before : List UInt8) :
    Refuses (failLater (α := α) reason) before :=
  fun _ => ⟨_, _, rfl⟩

/-- Nobody reads behind a refusal. -/
theorem Refuses.bind (h : Refuses r before) (f : α → Reading β) : Refuses (r >>= f) before := by
  intro used
  obtain ⟨refusal, c, hr⟩ := h used
  refine ⟨refusal, c, ?_⟩
  rw [ExceptT.run_bind, bind_apply, hr]
  rfl

theorem Reads.bind_refuses (h : Reads r before a between) (h' : Refuses (f a) between) :
    Refuses (r >>= f) before := by
  intro used
  obtain ⟨used', hr⟩ := h used
  obtain ⟨refusal, c, hf⟩ := h' used'
  refine ⟨refusal, c, ?_⟩
  rw [ExceptT.run_bind, bind_apply, hr]
  exact hf

theorem refuses_get {f : Cursor → Reading β} (h : ∀ used, Refuses (f ⟨before, used⟩) before) :
    Refuses (get >>= f) before :=
  fun used => h used used

theorem Refuses.placed (h : Refuses r before) : Refuses (placed r) before := by
  intro used
  obtain ⟨⟨reason, place⟩, c, hr⟩ := h used
  cases place with
  | none =>
    refine ⟨⟨reason, some c.used⟩, c, ?_⟩
    rw [Reader.placed, ExceptT.run_tryCatch, bind_apply, hr]
    rfl
  | some place =>
    refine ⟨⟨reason, some place⟩, c, ?_⟩
    rw [Reader.placed, ExceptT.run_tryCatch, bind_apply, hr]
    rfl

theorem run_attempt (r : Reading α) (c : Cursor) :
    ExceptT.run (attempt r) c = (.ok (ExceptT.run r c).1, (ExceptT.run r c).2) := by
  rw [attempt, ExceptT.run_tryCatch, bind_apply, map_eq_pure_bind, ExceptT.run_bind, bind_apply]
  cases ExceptT.run r c with
  | mk result c' => cases result <;> rfl

/-- A refusal counts, whatever closes. -/
theorem Refuses.closedBy (h : Refuses r before) (close : Reading Unit) :
    Refuses (closedBy r close) before := by
  intro used
  obtain ⟨refusal, c, hr⟩ := h used
  refine ⟨refusal, (ExceptT.run close c).2, ?_⟩
  rw [Reader.closedBy, ExceptT.run_bind, bind_apply, run_attempt, hr]
  show ExceptT.run (Reader.attempt close >>= _) c = _
  rw [ExceptT.run_bind, bind_apply, run_attempt]
  rfl

/-! ## Strings -/

theorem hexValue?_hexDigitByte : ∀ n : UInt8, n < 16 →
    hexValue? (hexDigitByte n) = some n.toNat := by
  decide +kernel

theorem charBytes_control : ∀ byte : UInt8, byte < 32 → charBytes byte.toNat = [byte] := by
  decide +kernel

theorem escapeByte_plain (byte : UInt8) (h : isPlain byte = true) : escapeByte byte = [byte] := by
  grind [isPlain, escapeByte]

theorem reads_shortEscape {short : UInt8} (h : shortEscape? short = some byte) :
    Reads escape (short :: rest) [byte] rest := by
  refine (reads_next short rest).bind ?_
  simp only [h]
  exact reads_pure _ rest

theorem reads_hexEscape {a b c d : UInt8} {k l m n : Nat} (ha : hexValue? a = some k)
    (hb : hexValue? b = some l) (hc : hexValue? c = some m) (hd : hexValue? d = some n) :
    Reads hexEscape (a :: b :: c :: d :: rest) (((k * 16 + l) * 16 + m) * 16 + n) rest := by
  refine reads_get fun used => ?_
  refine (reads_modify fun _ => rfl).bind ?_
  simp only [ha, hb, hc, hd]
  exact reads_pure _ rest

/-- A control without a short escape is escaped by its number. -/
theorem reads_control (h : byte < 32) : Reads escape
    (117 :: 48 :: 48 :: hexDigitByte (byte / 16) :: hexDigitByte (byte % 16) :: rest) [byte]
      rest := by
  have hbyte : byte.toNat < 32 := h
  have hhigh : (byte / 16).toNat = byte.toNat / 16 := UInt8.toNat_div byte 16
  have hlow : (byte % 16).toNat = byte.toNat % 16 := UInt8.toNat_mod byte 16
  have hcode : ((0 * 16 + 0) * 16 + (byte / 16).toNat) * 16 + (byte % 16).toNat = byte.toNat := by
    omega
  have hexes : Reads hexEscape
      (48 :: 48 :: hexDigitByte (byte / 16) :: hexDigitByte (byte % 16) :: rest) byte.toNat rest := by
    rw [← hcode]
    refine reads_hexEscape rfl rfl (hexValue?_hexDigitByte _ ?_) (hexValue?_hexDigitByte _ ?_)
    · exact UInt8.lt_iff_toNat_lt.mpr (by rw [hhigh]; show _ < 16; omega)
    · exact UInt8.lt_iff_toNat_lt.mpr (by rw [hlow]; show _ < 16; omega)
  refine (reads_next 117 _).bind (hexes.bind ?_)
  -- No control is half of a pair.
  rw [if_neg (by omega), if_neg (by omega), charBytes_control byte h]
  exact reads_pure _ rest

/-- A byte is escaped by another one that stands for it, or is a control and escaped by its number. -/
theorem escapeByte_cases (byte : UInt8) (h : isPlain byte = false) :
    (∃ short ∈ [34, 92, 98, 102, 110, 114, 116], shortEscape? short = some byte ∧
      escapeByte byte = [92, short]) ∨
    byte < 32 ∧
      escapeByte byte = [92, 117, 48, 48, hexDigitByte (byte / 16), hexDigitByte (byte % 16)] := by
  unfold escapeByte
  grind [isPlain, shortEscape?]

/-- **What a byte is escaped to is read as that byte.** -/
theorem reads_escape (h : isPlain byte = false) :
    ∃ code, escapeByte byte = 92 :: code ∧ ∀ rest, Reads escape (code ++ rest) [byte] rest := by
  rcases escapeByte_cases byte h with ⟨short, -, hs, hcode⟩ | ⟨hcontrol, hcode⟩
  · exact ⟨[short], hcode, fun _ => reads_shortEscape hs⟩
  · exact ⟨_, hcode, fun _ => reads_control hcontrol⟩

/-- Bytes that stand for themselves are not changed. -/
theorem flatMap_escapeByte_plain {bytes : List UInt8} (h : ∀ byte ∈ bytes, isPlain byte = true) :
    bytes.flatMap escapeByte = bytes := by
  induction bytes with
  | nil => rfl
  | cons byte bytes ih =>
    rw [List.flatMap_cons, escapeByte_plain byte (h byte List.mem_cons_self),
      ih fun b hb => h b (List.mem_cons_of_mem _ hb)]
    rfl

theorem takeWhile_plain {plain : List UInt8} (hplain : ∀ byte ∈ plain, isPlain byte = true)
    (h : isPlain byte = false) (rest : List UInt8) :
    (plain ++ byte :: rest).takeWhile isPlain = plain := by
  rw [List.takeWhile_append_of_pos hplain, List.takeWhile_cons_of_neg (by simp [h]),
    List.append_nil]

/-- **A string is read** up to its closing quote. -/
theorem reads_stringFrom {rounds : Nat} (bytes : List UInt8) (h : bytes.length < rounds)
    (parts : List (List UInt8)) (rest : List UInt8) :
    Reads (stringFrom escape rounds parts) (bytes.flatMap escapeByte ++ 34 :: rest)
      (parts.reverse.flatten ++ bytes) rest := by
  induction rounds generalizing bytes parts with
  | zero => exact absurd h (Nat.not_lt_zero _)
  | succ rounds ih =>
    -- The bytes up to the first one that is escaped.
    obtain ⟨plain, others, rfl, hplain, hothers⟩ : ∃ plain others, bytes = plain ++ others ∧
        (∀ byte ∈ plain, isPlain byte = true) ∧ ∀ byte ∈ others.head?, isPlain byte = false :=
      ⟨bytes.takeWhile isPlain, bytes.dropWhile isPlain, (List.takeWhile_append_dropWhile).symm,
        fun _ hb => List.mem_takeWhile_imp hb, fun b hb => by
          have hhead := List.head?_dropWhile_not isPlain bytes
          rw [Option.mem_def.mp hb] at hhead
          simpa using hhead⟩
    rw [List.flatMap_append, flatMap_escapeByte_plain hplain, List.append_assoc]
    cases others with
    | nil =>
      refine reads_get fun used => ?_
      have hquote : isPlain 34 = false := rfl
      simp only [List.flatMap_nil, List.nil_append, takeWhile_plain hplain hquote]
      refine (reads_modify fun _ => List.drop_left).bind ((reads_peek 34 rest).bind ?_)
      refine (reads_advance 34 rest).bind ?_
      have hvalue : (plain :: parts).reverse.flatten = parts.reverse.flatten ++ (plain ++ []) := by
        simp
      rw [← hvalue]
      exact reads_pure _ rest
    | cons byte others =>
      have hbyte : isPlain byte = false := hothers byte rfl
      obtain ⟨code, hcode, hreads⟩ := reads_escape hbyte
      rw [List.flatMap_cons, hcode, List.append_assoc, List.cons_append]
      refine reads_get fun used => ?_
      have hbackslash : isPlain 92 = false := rfl
      simp only [takeWhile_plain hplain hbackslash]
      refine (reads_modify fun _ => List.drop_left).bind ((reads_peek 92 _).bind ?_)
      refine (reads_advance 92 _).bind ((hreads _).bind ?_)
      have hlength : others.length < rounds := by
        rw [List.length_append, List.length_cons] at h
        omega
      have hvalue : ([byte] :: plain :: parts).reverse.flatten ++ others =
          parts.reverse.flatten ++ (plain ++ byte :: others) := by
        simp
      rw [← hvalue]
      exact ih others hlength _

/-- Escaping makes nothing shorter. -/
theorem length_le_escaped (bytes : List UInt8) :
    bytes.length ≤ (bytes.flatMap escapeByte).length := by
  have hbyte (byte : UInt8) : 1 ≤ (escapeByte byte).length := by grind [escapeByte]
  induction bytes with
  | nil => exact Nat.le_refl 0
  | cons byte bytes ih =>
    rw [List.flatMap_cons, List.length_append, List.length_cons]
    have hone := hbyte byte
    omega

/-- **A string is read as what was quoted.** -/
theorem reads_string (text : String) (rest : List UInt8) :
    Reads string (text.toUTF8.toList.flatMap escapeByte ++ 34 :: rest) text rest := by
  have hbytes : Reads (stringBytes escape) (text.toUTF8.toList.flatMap escapeByte ++ 34 :: rest)
      text.toUTF8.toList rest := by
    refine reads_get fun used => reads_stringFrom _ ?_ [] rest
    have hle : text.toUTF8.toList.length ≤ (text.toUTF8.toList.flatMap escapeByte).length :=
      length_le_escaped _
    rw [List.length_append]
    omega
  refine hbytes.bind ?_
  have hdecoded : Utf8.decode? (Bytes.ofList text.toUTF8.toList) = some text :=
    Utf8.decode?_eq_some_iff.mpr (Bytes.ofList_toList _).symm
  simp only [hdecoded]
  exact reads_pure text rest

/-! ## Numbers -/

/-- **What may follow a value**: nothing, a comma or a closing bracket. -/
def Follows (rest : List UInt8) : Prop := ∀ byte ∈ rest.head?, byte = 44 ∨ byte = 93 ∨ byte = 125

theorem isDigit_digitByte {c : Char} (h : c.isDigit = true) : isDigit (digitByte c) = true := by
  have hle := toNat_isDigit h
  simp only [isDigit, Bool.and_eq_true, decide_eq_true_eq, UInt8.le_iff_toNat_le, toNat_digitByte h]
  exact hle

theorem isDigit_of_mem_digits {n : Nat} (h : byte ∈ digits n) : isDigit byte = true := by
  obtain ⟨c, hc, rfl⟩ := List.mem_map.mp h
  exact isDigit_digitByte (isDigit_of_mem_toDigits hc)

theorem ascii_toString (n : Nat) : ascii (toString n) = digits n := toUTF8_toString n

theorem writeBytes_nat (n : Nat) : (Json.number n).writeBytes = digits n := by
  rw [writeBytes, ← ascii_toString]
  rfl

/-- As many digits as fit are read, and if all of them fit that are all. -/
theorem significand_eq (chars : List Char) (h : ∀ c ∈ chars, c.isDigit = true) (start : Nat)
    (hle : Nat.ofDigitChars 10 chars start ≤ maxExact) :
    significand start (chars.map digitByte) = (Nat.ofDigitChars 10 chars start, 0) := by
  induction chars generalizing start with
  | nil => rfl
  | cons c chars ih =>
    have hlonger : start * 10 + ((digitByte c).toNat - 48) = 10 * start + (c.toNat - '0'.toNat) := by
      rw [toNat_digitByte (h c List.mem_cons_self), Nat.mul_comm]
      rfl
    rw [Nat.ofDigitChars_cons] at hle ⊢
    have hfits : ¬ maxExact < 10 * start + (c.toNat - '0'.toNat) := by
      rw [Nat.ofDigitChars_eq_ofDigitChars_zero] at hle
      have hpos : 0 < 10 ^ chars.length := Nat.pow_pos (by decide)
      have hmul := Nat.le_mul_of_pos_left (10 * start + (c.toNat - '0'.toNat)) hpos
      omega
    rw [List.map_cons, significand, hlonger, if_neg hfits]
    exact ih (fun d hd => h d (List.mem_cons_of_mem _ hd)) _ hle

theorem significand_digits {n : Nat} (h : n ≤ maxExact) : significand 0 (digits n) = (n, 0) := by
  have hvalue : Nat.ofDigitChars 10 (Nat.toDigits 10 n) 0 = n := Nat.ofDigitChars_ten_toDigits
  rw [digits, significand_eq _ (fun _ => isDigit_of_mem_toDigits) 0 (by rw [hvalue]; exact h), hvalue]

/-- A number begins with a digit, and no number but zero begins with a zero. -/
theorem digits_begin (n : Nat) :
    ∃ byte more, digits n = byte :: more ∧ isDigit byte = true ∧ (0 < n → byte ≠ 48) := by
  have hdigit : ∀ d < 10, isDigit (digitByte d.digitChar) = true ∧
      (0 < d → digitByte d.digitChar ≠ 48) := by
    decide
  induction n using Nat.strongRecOn with
  | ind n ih =>
    by_cases hn : n < 10
    · exact ⟨_, [], by rw [digits, Nat.toDigits_of_lt_base hn]; rfl, hdigit n hn⟩
    · obtain ⟨byte, more, hbegin, hbyte, hzero⟩ := ih (n / 10) (by omega)
      refine ⟨byte, more ++ [digitByte (n % 10).digitChar], ?_, hbyte, fun _ => hzero (by omega)⟩
      rw [digits, Nat.toDigits_of_base_le (by decide) (by omega), List.map_append,
        ← List.cons_append, ← hbegin]
      rfl

theorem Follows.not_digit (h : Follows rest) (hbyte : byte ∈ rest.head?) : isDigit byte = false := by
  rcases h byte hbyte with rfl | rfl | rfl <;> rfl

theorem takeWhile_digits (h : Follows rest) {more : List UInt8}
    (hmore : ∀ b ∈ more, isDigit b = true) :
    (more ++ rest).takeWhile isDigit = more := by
  rw [List.takeWhile_append_of_pos hmore]
  cases rest with
  | nil => exact List.append_nil _
  | cons byte rest =>
    have hbyte : isDigit byte = false := h.not_digit rfl
    rw [List.takeWhile_cons_of_neg (by simp [hbyte]), List.append_nil]

/-- Whether an integer with a sign and digits is kept as one, and not as a float. -/
def IsKept (positive : Bool) (n : Nat) : Prop :=
  if positive then n ≤ maxExact else 0 < n ∧ n ≤ UInt64.size / 2

theorem IsKept.le_maxExact {positive : Bool} {n : Nat} (h : IsKept positive n) : n ≤ maxExact := by
  cases positive with
  | true => exact h
  | false =>
    have hle : n ≤ UInt64.size / 2 := h.2
    have hmax : UInt64.size / 2 ≤ maxExact := by decide
    omega

/-- The integer with a sign and digits. -/
def signed (positive : Bool) (n : Nat) : Int := if positive then n else -n

/-- What may follow a value does not go on a number. -/
theorem reads_afterInteger (h : Follows rest) {positive : Bool} {n : Nat} (hn : IsKept positive n) :
    Reads (afterInteger positive n 0) rest (.integer (signed positive n)) rest := by
  have hpeek : Reads peek rest rest.head? rest := fun used => ⟨used, rfl⟩
  refine hpeek.bind ?_
  split
  · rename_i hbyte
    rcases h 46 hbyte with hbyte | hbyte | hbyte <;> cases hbyte
  · rename_i hbyte
    rcases h 101 hbyte with hbyte | hbyte | hbyte <;> cases hbyte
  · rename_i hbyte
    rcases h 69 hbyte with hbyte | hbyte | hbyte <;> cases hbyte
  · cases positive with
    | true => exact reads_pure _ rest
    | false =>
      obtain ⟨hpos, hle⟩ : 0 < n ∧ n ≤ UInt64.size / 2 := hn
      have hkept : ¬ (n = 0 ∨ UInt64.size / 2 < n) := by omega
      simp only [Nat.lt_irrefl, if_false, Bool.false_eq_true, if_neg hkept]
      exact reads_pure _ rest

/-- **A number is read** as it was written. -/
theorem reads_number {positive : Bool} {n : Nat} (hn : IsKept positive n) (h : Follows rest) :
    Reads (number positive) (digits n ++ rest) (.integer (signed positive n)) rest := by
  rcases Nat.eq_zero_or_pos n with rfl | hpos
  · refine (reads_next 48 rest).bind ?_
    have hpeek : Reads peek rest rest.head? rest := fun used => ⟨used, rfl⟩
    refine hpeek.bind ?_
    have hzero : positive = true := by
      cases positive with
      | true => rfl
      | false => exact absurd hn.1 (Nat.lt_irrefl 0)
    subst hzero
    split
    · rename_i d hd
      rw [h.not_digit hd]
      exact reads_afterInteger h hn
    · exact reads_afterInteger h hn
  · obtain ⟨byte, more, hbegin, -, hbyte⟩ := digits_begin n
    have hdigits (b : UInt8) (hb : b ∈ byte :: more) : isDigit b = true :=
      isDigit_of_mem_digits (hbegin ▸ hb)
    have hmore (b : UInt8) (hb : b ∈ more) : isDigit b = true := hdigits b (List.mem_cons_of_mem _ hb)
    have hvalue : significand 0 (byte :: more) = (n, 0) := hbegin ▸ significand_digits hn.le_maxExact
    rw [hbegin, List.cons_append]
    refine (reads_next byte _).bind ?_
    simp only [if_neg (hbyte hpos), hdigits byte List.mem_cons_self]
    refine reads_get fun used => ?_
    simp only [takeWhile_digits h hmore, hvalue]
    exact (reads_modify fun _ => List.drop_left).bind (reads_afterInteger h hn)

end Reader
end Json
end FunctionHost
