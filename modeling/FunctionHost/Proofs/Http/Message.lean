import FunctionHost.Http.Message
import FunctionHost.Proofs.Text
import Mathlib.Data.FinEnum
import Mathlib.Data.List.TakeWhile

/-!
# Answers on the wire

An `Upstream` is what a peer answers: a status, headers with names in any case, and a body.  Written
as a status line, a line for each header, a blank line and the body (`Upstream.wire`), it is read back
as it is (`Upstream.IsPlain.answer?_wire`), with the names of its headers in small letters.  The body
may end with the bytes or be as long as a header says; both are the same.
-/
namespace FunctionHost
namespace Http

open Digits

variable {bytes rest line name value : List UInt8} {count : Nat}

/-! ## Lines -/

/-- **A line ends** with its carriage return and its line feed. -/
theorem line?_crlf (h : ∀ b ∈ line, b ≠ 10) (rest : List UInt8) :
    line? (line ++ 13 :: 10 :: rest) = some (line, rest) := by
  have hspan : (line ++ 13 :: 10 :: rest).span (· ≠ 10) = (line ++ [13], 10 :: rest) := by
    rw [List.span_eq_takeWhile_dropWhile]
    have hall : ∀ b ∈ line ++ [13], decide (b ≠ 10) = true := by
      intro b hb
      rcases List.mem_append.mp hb with hb | hb
      · exact decide_eq_true (h b hb)
      · rw [List.mem_singleton.mp hb]
        rfl
    have happend : line ++ 13 :: 10 :: rest = (line ++ [13]) ++ 10 :: rest := by simp
    rw [happend, List.takeWhile_append_of_pos hall, List.dropWhile_append_of_pos hall]
    simp
  rw [line?, hspan]
  simp

/-! ## Headers -/

/-- The bytes that are no letters and no digits, and can be in a name. -/
theorem toList_marks : (Bytes.ofText "!#$%&'*+-.^_`|~").toList =
    [33, 35, 36, 37, 38, 39, 42, 43, 45, 46, 94, 95, 96, 124, 126] := by
  rw [Bytes.toList_eq]
  rfl

theorem isToken_ne (b : UInt8) (h : isToken b = true) : b < 128 ∧ b ≠ 10 ∧ b ≠ 13 ∧ b ≠ 58 := by
  have hall : ∀ b : UInt8, (48 ≤ b && b ≤ 57) || (65 ≤ b && b ≤ 90) || (97 ≤ b && b ≤ 122)
      || [33, 35, 36, 37, 38, 39, 42, 43, 45, 46, 94, 95, 96, 124, 126].contains b →
      b < 128 ∧ b ≠ 10 ∧ b ≠ 13 ∧ b ≠ 58 := by
    decide +kernel
  rw [isToken, toList_marks] at h
  exact hall b h

theorem isValueByte_ne (b : UInt8) (h : isValueByte b = true) : b ≠ 10 ∧ b ≠ 13 := by
  constructor <;> rintro rfl <;> cases h

theorem isToken_of_isHeaderName (h : isHeaderName name = true) : ∀ b ∈ name, isToken b = true := by
  simp only [isHeaderName, isName, Bool.and_eq_true, List.all_eq_true] at h
  exact h.1.2

/-- The bytes of a name, in any case. -/
theorem asciiText_of_isHeaderName {name : String} (h : isHeaderName name.toUTF8.toList = true) :
    asciiText name.toUTF8.toList = name :=
  Utf8.ofList_of_ascii fun b hb => (isToken_ne b (isToken_of_isHeaderName h b hb)).1

/-- **Whether bytes can be the value of a header**, as it is sent. -/
structure IsValue (value : List UInt8) : Prop where
  bytes : value.all isValueByte
  trimmed : trimBlanks value = value

theorem trimBlanks_cons (value : List UInt8) : trimBlanks (32 :: value) = trimBlanks value := rfl

/-- **A header is read** as it was sent, with its name in small letters. -/
theorem header?_line {name : String} (hname : isHeaderName name.toUTF8.toList = true)
    (hvalue : IsValue value) :
    header? (name.toUTF8.toList ++ 58 :: 32 :: value) = some (name.toLower, value) := by
  have htokens := isToken_of_isHeaderName hname
  have hcolon : isToken 58 = false := by
    cases h : isToken 58 with
    | false => rfl
    | true => exact absurd rfl (isToken_ne 58 h).2.2.2
  have hspan : (name.toUTF8.toList ++ 58 :: 32 :: value).span isToken =
      (name.toUTF8.toList, 58 :: 32 :: value) := by
    rw [List.span_eq_takeWhile_dropWhile, List.takeWhile_append_of_pos htokens,
      List.dropWhile_append_of_pos htokens, List.takeWhile_cons_of_neg (by simp [hcolon]),
      List.dropWhile_cons_of_neg (by simp [hcolon]), List.append_nil]
  rw [header?, hspan]
  simp only [trimBlanks_cons, hvalue.trimmed, hname, hvalue.bytes, Bool.and_self, if_true,
    asciiText_of_isHeaderName hname]

/-! ## Answers -/

/-- **What a peer answers**: a status, headers with names as they are sent, and a body. -/
structure Upstream where
  status : Nat
  headers : List (String × List UInt8)
  body : List UInt8

namespace Upstream

/-- The line of a header. -/
def headerLine (header : String × List UInt8) : List UInt8 :=
  header.1.toUTF8.toList ++ 58 :: 32 :: header.2

/-- The lines of headers, each with its end. -/
def headerLines (headers : List (String × List UInt8)) : List UInt8 :=
  headers.flatMap fun header => headerLine header ++ [13, 10]

/-- The first line: the version and the three digits of the status. -/
def statusLine (status : Nat) : List UInt8 :=
  [72, 84, 84, 80, 47, 49, 46, 49, 32] ++ [UInt8.ofNat (48 + status / 100),
    UInt8.ofNat (48 + status / 10 % 10), UInt8.ofNat (48 + status % 10)]

/-- **The bytes of an answer**: its first line, its headers, a blank line and its body. -/
def wire (up : Upstream) : List UInt8 :=
  statusLine up.status ++ 13 :: 10 :: (headerLines up.headers ++ 13 :: 10 :: up.body)

end Upstream

theorem toNat_digit {k : Nat} (hk : k < 10) : (UInt8.ofNat (48 + k)).toNat = 48 + k := by
  rw [UInt8.toNat_ofNat']
  exact Nat.mod_eq_of_lt (by omega)

theorem digit_ne {k : Nat} (hk : k < 10) {b : UInt8} (hb : b.toNat < 48) :
    UInt8.ofNat (48 + k) ≠ b := by
  rintro rfl
  rw [toNat_digit hk] at hb
  omega

theorem status?_digits {a b c : Nat} (ha : 0 < a) (ha' : a < 10) (hb : b < 10) (hc : c < 10) :
    status? (UInt8.ofNat (48 + a)) (UInt8.ofNat (48 + b)) (UInt8.ofNat (48 + c)) =
      some (a * 100 + b * 10 + c) := by
  have hrange (k : Nat) (hk : k < 10) :
      (decide (48 ≤ UInt8.ofNat (48 + k)) && decide (UInt8.ofNat (48 + k) ≤ 57)) = true := by
    rw [Bool.and_eq_true, decide_eq_true_iff, decide_eq_true_iff, UInt8.le_iff_toNat_le,
      UInt8.le_iff_toNat_le, toNat_digit hk]
    exact ⟨Nat.le_add_right _ _, Nat.add_le_add_left (Nat.le_of_lt_succ hk) 48⟩
  have hfirst : UInt8.ofNat (48 + a) ≠ 48 := by
    intro h
    have hnat := congrArg UInt8.toNat h
    rw [toNat_digit ha'] at hnat
    have : (48 : UInt8).toNat = 48 := rfl
    omega
  simp only [status?, hrange a ha', hrange b hb, hrange c hc, toNat_digit ha', toNat_digit hb,
    toNat_digit hc, decide_eq_true hfirst, Bool.and_self, if_true, Nat.add_sub_cancel_left]

theorem statusLine?_statusLine {status : Nat} (hlow : 100 ≤ status) (hhigh : status < 1000) :
    statusLine? (Upstream.statusLine status) = some (1, status) := by
  have hversion : (Bytes.ofText "HTTP/1.").toList = [72, 84, 84, 80, 47, 49, 46] := by
    rw [Bytes.toList_eq]
    rfl
  have hdigits := status?_digits (a := status / 100) (b := status / 10 % 10) (c := status % 10)
    (by omega) (by omega) (by omega) (by omega)
  have hstatus : status / 100 * 100 + status / 10 % 10 * 10 + status % 10 = status := by omega
  rw [hstatus] at hdigits
  have hprefix : [72, 84, 84, 80, 47, 49, 46].isPrefixOf (Upstream.statusLine status) = true := rfl
  rw [statusLine?, hversion, hprefix]
  simp only [Upstream.statusLine, List.cons_append, List.nil_append, List.drop_succ_cons,
    List.drop_zero, hdigits]
  rfl

theorem headerLine_ne {header : String × List UInt8}
    (hname : isHeaderName header.1.toUTF8.toList = true) (hvalue : IsValue header.2) :
    ∀ b ∈ Upstream.headerLine header, b ≠ 10 := by
  intro b hb
  rcases List.mem_append.mp hb with hb | hb
  · exact (isToken_ne b (isToken_of_isHeaderName hname b hb)).2.1
  · simp only [List.mem_cons] at hb
    rcases hb with rfl | rfl | hb
    · decide
    · decide
    · exact (isValueByte_ne b (List.all_eq_true.mp hvalue.bytes b hb)).1

/-- **The lines of headers are read** up to the blank line. -/
theorem headers?_lines {headers : List (String × List UInt8)}
    (hheaders : ∀ h ∈ headers, isHeaderName h.1.toUTF8.toList = true ∧ IsValue h.2)
    (hcount : headers.length ≤ count) (rest : List UInt8) :
    headers? count (Upstream.headerLines headers ++ 13 :: 10 :: rest) =
      some (headers.map fun h => (h.1.toLower, h.2), rest) := by
  induction headers generalizing count with
  | nil =>
    have hblank := line?_crlf (List.forall_mem_nil (· ≠ 10)) rest
    rw [List.nil_append] at hblank
    cases count <;> simp [headers?, Upstream.headerLines, hblank]
  | cons header headers ih =>
    cases count with
    | zero => cases hcount
    | succ count =>
      obtain ⟨hname, hvalue⟩ := hheaders header List.mem_cons_self
      have hrest := ih (fun h hm => hheaders h (List.mem_cons_of_mem _ hm))
        (Nat.le_of_succ_le_succ hcount)
      -- The first line is read as this header, and the others from what is left.
      have hbytes : Upstream.headerLines (header :: headers) ++ 13 :: 10 :: rest =
          Upstream.headerLine header ++
            13 :: 10 :: (Upstream.headerLines headers ++ 13 :: 10 :: rest) := by
        simp [Upstream.headerLines]
      have hline := line?_crlf (headerLine_ne hname hvalue)
        (Upstream.headerLines headers ++ 13 :: 10 :: rest)
      have hheader : header? (Upstream.headerLine header) = some (header.1.toLower, header.2) :=
        header?_line hname hvalue
      have hne : Upstream.headerLine header ≠ [] := by simp [Upstream.headerLine]
      rw [hbytes, headers?, hline]
      cases hcase : Upstream.headerLine header with
      | nil => exact absurd hcase hne
      | cons b more =>
        rw [hcase] at hheader
        simp only [hheader, hrest]
        rfl

/-! ## Lengths -/

theorem trimSpaces_digits (n : Nat) : trimSpaces (digits n) = digits n := by
  have hdigits : ∀ b ∈ digits n,
      ¬ (decide (b = 32) || (decide (9 ≤ b) && decide (b ≤ 13))) = true := by
    intro b hb
    have hrange := range_of_mem_digits hb
    grind
  have hkeep (bytes : List UInt8) (h : ∀ b ∈ bytes, b ∈ digits n) :
      bytes.dropWhile (fun b => decide (b = 32) || (decide (9 ≤ b) && decide (b ≤ 13))) = bytes :=
    List.dropWhile_eq_self_iff.mpr fun hl => hdigits _ (h _ (List.getElem_mem hl))
  rw [trimSpaces, hkeep _ (fun _ hb => hb), hkeep _ (fun _ hb => List.mem_reverse.mp hb),
    List.reverse_reverse]

theorem length?_digits {n : Nat} (h : n < UInt64.size) : length? (digits n) = some n := by
  have hall : (digits n).all (fun b => 48 ≤ b && b ≤ 57) = true := by
    refine List.all_eq_true.mpr fun b hb => ?_
    obtain ⟨hlow, hhigh⟩ := range_of_mem_digits hb
    rw [decide_eq_true hlow, decide_eq_true hhigh]
    rfl
  have hne : (digits n).isEmpty = false := by simpa using digits_ne_nil n
  rw [length?, trimSpaces_digits, hne, hall, foldl_digits]
  exact if_pos h

theorem splitOn_digits (n : Nat) : (digits n).splitOn 44 = [digits n] :=
  List.splitOn_eq_singleton fun h => absurd (range_of_mem_digits h).1 (by decide)

/-- **Values that all state one length agree on it.** -/
theorem contentLength?_eq {n : Nat} {values : List (List UInt8)} (h : n < UInt64.size)
    (hvalues : ∀ value ∈ values, value = digits n) (hne : values ≠ []) :
    contentLength? values = some n := by
  have hparts : values.flatMap (·.splitOn 44) = values := by
    rw [List.flatMap_congr fun value hv => by
      rw [hvalues value hv, splitOn_digits, ← hvalues value hv]]
    exact List.flatMap_singleton' values
  have hlengths : values.map length? = List.replicate values.length (some n) := by
    refine List.eq_replicate_iff.mpr ⟨List.length_map _, fun x hx => ?_⟩
    obtain ⟨value, hv, rfl⟩ := List.mem_map.mp hx
    rw [hvalues value hv, length?_digits h]
  have hshown : values.all (·.all isShown) = true := by
    refine List.all_eq_true.mpr fun value hv => List.all_eq_true.mpr fun b hb => ?_
    have hrange := range_of_mem_digits (hvalues value hv ▸ hb)
    grind [isShown]
  rw [contentLength?, hparts, hlengths, hshown]
  cases values with
  | nil => exact absurd rfl hne
  | cons value values => simp [List.replicate_succ]

/-! ## Answers as they are sent -/

namespace Upstream

/-- Whether the answer to a request has no body, whatever its headers say. -/
def IsBodiless (up : Upstream) (method : String) : Prop :=
  up.status = 204 ∨ up.status = 304 ∨ method = "HEAD" ∨
    (method = "CONNECT" ∧ 200 ≤ up.status ∧ up.status < 300)

/-- **Whether an answer can be sent as it is**: its status is final and has three digits, its headers
are not too many and have names and values that headers may have, and what they say of the body, if
they say anything, is its length. -/
structure IsPlain (up : Upstream) (method : String) : Prop where
  status : 200 ≤ up.status ∧ up.status < 1000
  headers : ∀ h ∈ up.headers, isHeaderName h.1.toUTF8.toList = true ∧ IsValue h.2
  few : up.headers.length ≤ maxHeaders
  uncoded : ∀ h ∈ up.headers, h.1.toLower ≠ "transfer-encoding"
  length : ∀ h ∈ up.headers, h.1.toLower = "content-length" → h.2 = digits up.body.length
  size : up.body.length < UInt64.size - 2
  bodiless : up.IsBodiless method → up.body = []

/-- The head that a client takes from an answer. -/
def head (up : Upstream) : Head :=
  { minor := 1, status := up.status, headers := up.headers.map fun h => (h.1.toLower, h.2) }

variable {up : Upstream} {method : String}

/-- **The head of an answer is read**, and its body is what follows. -/
theorem IsPlain.head?_wire (h : up.IsPlain method) : head? up.wire = some (up.head, up.body) := by
  have hlow : 100 ≤ up.status := Nat.le_trans (by decide) h.status.1
  have hne : ∀ b ∈ statusLine up.status, b ≠ 10 := by
    have hstatus := h.status.2
    have hversion : ∀ b ∈ ([72, 84, 84, 80, 47, 49, 46, 49, 32] : List UInt8), b ≠ 10 := by simp
    intro b hb
    rcases List.mem_append.mp hb with hb | hb
    · exact hversion b hb
    · simp only [List.mem_cons, List.not_mem_nil, or_false] at hb
      rcases hb with rfl | rfl | rfl <;> exact digit_ne (by omega) (by decide)
  have hskip : skipBlankLines up.wire = up.wire := rfl
  have hline := line?_crlf hne (headerLines up.headers ++ 13 :: 10 :: up.body)
  rw [head?, hskip, wire, hline]
  simp only [statusLine?_statusLine hlow h.status.2, headers?_lines h.headers h.few]
  rfl

theorem mem_values {name : String} {value : List UInt8} (h : value ∈ up.head.values name) :
    ∃ header ∈ up.headers, header.1.toLower = name ∧ header.2 = value := by
  obtain ⟨header, hm, rfl⟩ := List.mem_map.mp h
  obtain ⟨hm, hname⟩ := List.mem_filter.mp hm
  obtain ⟨sent, hsent, rfl⟩ := List.mem_map.mp hm
  exact ⟨sent, hsent, of_decide_eq_true hname, rfl⟩

/-- **The body is all that follows the head**, however its end is told. -/
theorem IsPlain.framing?_head (h : up.IsPlain method) :
    ∃ framing, framing? method up.head = some framing ∧ body? up.body framing = some up.body := by
  have hnone (hbodiless : up.IsBodiless method) : body? up.body (.sized 0) = some up.body := by
    rw [h.bodiless hbodiless]
    rfl
  -- The head names no coding, and every length that it names is that of the body.
  have huncoded : up.head.values "transfer-encoding" = [] := by
    refine List.eq_nil_iff_forall_not_mem.mpr fun value hv => ?_
    obtain ⟨header, hm, hname, -⟩ := mem_values hv
    exact h.uncoded header hm hname
  have hvalues : ∀ value ∈ up.head.values "content-length", value = digits up.body.length := by
    intro value hv
    obtain ⟨header, hm, hname, rfl⟩ := mem_values hv
    exact h.length header hm hname
  have hsize := h.size
  rw [framing?]
  split
  next hstatus =>
    refine ⟨_, rfl, hnone ?_⟩
    rcases hstatus with hstatus | hstatus | hstatus | hmethod
    · have hlow : 200 ≤ 101 := hstatus ▸ h.status.1
      exact absurd hlow (by decide)
    · exact .inl hstatus
    · exact .inr (.inl hstatus)
    · exact .inr (.inr (.inl hmethod))
  next =>
    split
    next hconnect => exact ⟨_, rfl, hnone (.inr (.inr (.inr hconnect)))⟩
    next =>
      rw [huncoded]
      cases hlengths : up.head.values "content-length" with
      | nil => exact ⟨_, rfl, rfl⟩
      | cons value values =>
        have hlength := contentLength?_eq (n := up.body.length) (by omega) (hlengths ▸ hvalues)
          (List.cons_ne_nil _ _)
        refine ⟨.sized up.body.length, ?_, ?_⟩
        · simp only [hlength, Option.filter_some, decide_eq_true hsize, if_true, Option.map_some]
        · rw [body?, if_pos (Nat.le_refl _), List.take_length]

/-- **An answer is read** as it was sent. -/
theorem IsPlain.answer?_wire (h : up.IsPlain method) (count : Nat) :
    ∃ framing, answer? method (count + 1) up.wire = some (up.head, framing, up.body) ∧
      body? up.body framing = some up.body := by
  obtain ⟨framing, hframing, hbody⟩ := h.framing?_head
  refine ⟨framing, ?_, hbody⟩
  have hfinal : ¬ (100 ≤ up.head.status ∧ up.head.status < 200 ∧ up.head.status ≠ 101) := by
    rintro ⟨-, hlt, -⟩
    exact absurd h.status.1 (Nat.not_le.mpr hlt)
  rw [answer?, h.head?_wire]
  simp only [if_neg hfinal, hframing]
  rfl

end Upstream

end Http
end FunctionHost
