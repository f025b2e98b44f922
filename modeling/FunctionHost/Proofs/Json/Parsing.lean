import FunctionHost.Proofs.Json.Documents

/-!
# Reading without a shape

Whoever gets a document need not know its shape.  `parse` reads any document and keeps all that is in
it: every member of every object, in order, and those of one name, too.  It reads every document as
it was written (`parse_toBytes`), so two documents that are written alike are the same document
(`toBytes_inj`).  What is written is always a text (`isText_writeBytes`).

Numbers are the only exception: integers with more than 64 bits are read as floats, which are no
documents here (`IsExact`).
-/
namespace FunctionHost
namespace Json

namespace Reader

/-- The members of an object, whatever their names are. -/
def anyMembersFrom (item : Reading Json) :
    Nat → Bool → List (String × Json) → Reading (List (String × Json))
  | 0, _, _ => fail "EOF while parsing an object"
  | rounds + 1, first, read => do
    match ← nextKey first with
    | none => return read.reverse
    | some name =>
      colon
      let document ← item
      anyMembersFrom item rounds false ((name, document) :: read)

/-- An integer behind its sign. -/
def integer (positive : Bool) : Reading Json := do
  match ← number positive with
  | .integer n => return .number n
  | .float _ => fail "floating point"

/-- **Reads any document** that has at most so many levels. -/
def anything : Nat → Reading Json
  | 0 => failNext "recursion limit exceeded"
  | levels + 1 => do
    let b ← firstByte
    if b = 110 then
      advance
      word (ascii "ull")
      return .null
    else if b = 116 then
      advance
      word (ascii "rue")
      return .bool true
    else if b = 102 then
      advance
      word (ascii "alse")
      return .bool false
    else if b = 34 then
      advance
      return .text (← string)
    else if b = 91 then
      advance
      let rounds := (← get).rest.length + 1
      closedBy (do return .list (← itemsFrom (anything levels) rounds true [])) endOfList
    else if b = 123 then
      advance
      let rounds := (← get).rest.length + 1
      closedBy (do return .record (← anyMembersFrom (anything levels) rounds true [])) endOfRecord
    else if b = 45 then
      advance
      integer false
    else integer true

end Reader

/-- **The document that bytes spell**, if they spell one.  No document has more levels than bytes. -/
def parse (bytes : Bytes) : Option Json :=
  let reader : Reader.Reading Json := do
    let document ← Reader.anything bytes.toList.length
    match ← Reader.skipBlanks with
    | none => return document
    | some _ => Reader.failNext "trailing characters"
  match reader.run ⟨bytes.toList, 0⟩ with
  | (.ok document, _) => some document
  | (.error _, _) => none

mutual

/-- **Whether all integers of a document have 64 bits**, with a sign or without one. -/
def IsExact : Json → Prop
  | .number n => -(UInt64.size / 2 : Nat) ≤ n ∧ n < UInt64.size
  | .list items => ItemsExact items
  | .record members => MembersExact members
  | _ => True

@[inherit_doc IsExact]
def ItemsExact : List Json → Prop
  | [] => True
  | item :: items => item.IsExact ∧ ItemsExact items

@[inherit_doc IsExact]
def MembersExact : List (String × Json) → Prop
  | [] => True
  | (_, document) :: members => document.IsExact ∧ MembersExact members

end

namespace Reader

open Digits

variable {r : Reading Json} {members : List (String × Json)}

/-- **All members of an object are read.** -/
theorem reads_anyMembersFrom {rounds : Nat}
    (hmembers : ∀ member ∈ members, ReadsAs r member.2 member.2) (h : members.length < rounds)
    (first : Bool) (read : List (String × Json)) (rest : List UInt8) :
    Reads (anyMembersFrom r rounds first read) (writeMembers first members ++ 125 :: rest)
      (read.reverse ++ members) (125 :: rest) := by
  induction rounds generalizing members first read with
  | zero => exact absurd h (Nat.not_lt_zero _)
  | succ rounds ih =>
    cases members with
    | nil =>
      rw [List.append_nil]
      exact (reads_noMoreKeys first rest).bind (reads_pure _ _)
    | cons member members =>
      have hrest := ih (fun x hx => hmembers x (List.mem_cons_of_mem _ hx))
        (Nat.lt_of_succ_lt_succ h) false (member :: read)
      rw [List.reverse_cons, List.append_assoc] at hrest
      rw [writeMembers_cons]
      refine (reads_nextKey first member.1 _).bind ((reads_colon _).bind ?_)
      exact (hmembers member List.mem_cons_self _ (follows_writeMembers members rest)).bind hrest

theorem reads_integer {positive : Bool} {n : Nat} {rest : List UInt8} (hn : IsKept positive n)
    (h : Follows rest) :
    Reads (integer positive) (digits n ++ rest) (.number (signed positive n)) rest :=
  (reads_number hn h).bind (reads_pure _ rest)

/-- An integer of 64 bits is read as it was written. -/
theorem reads_written_number {n : Int} (hlow : -(UInt64.size / 2 : Nat) ≤ n) (hhigh : n < UInt64.size)
    (levels : Nat) : ReadsAs (anything (levels + 1)) (.number n) (.number n) := by
  intro rest hrest
  rw [anything]
  cases n with
  | ofNat n =>
    obtain ⟨byte, more, hbegin, hbyte, -⟩ := digits_begin n
    obtain ⟨hblank, hne⟩ := isDigit_ne byte hbyte
    have hkept : IsKept true n := by
      show n ≤ UInt64.size - 1
      have : n < UInt64.size := Int.ofNat_lt.mp hhigh
      omega
    have hinteger := reads_integer hkept hrest
    rw [hbegin, List.cons_append] at hinteger
    rw [Int.ofNat_eq_natCast, writeBytes_nat, hbegin, List.cons_append]
    refine (reads_firstByte hblank _).bind ?_
    simp only [if_neg (hne 110 (by decide)), if_neg (hne 116 (by decide)),
      if_neg (hne 102 (by decide)), if_neg (hne 34 (by decide)), if_neg (hne 91 (by decide)),
      if_neg (hne 123 (by decide)), if_neg (hne 45 (by decide))]
    exact hinteger
  | negSucc n =>
    have hkept : IsKept false (n + 1) := by
      refine ⟨Nat.succ_pos n, ?_⟩
      rw [Int.negSucc_eq] at hlow
      omega
    rw [writeBytes_neg]
    refine (reads_firstByte rfl _).bind ?_
    exact (reads_advance 45 _).bind (reads_integer hkept hrest)

end Reader

theorem length_le_of_mem_items {item : Json} {items : List Json} (h : item ∈ items) (first : Bool) :
    item.writeBytes.length ≤ (writeItems first items).length := by
  induction items generalizing first with
  | nil => cases h
  | cons head items ih =>
    rw [writeItems, List.length_append, List.length_append]
    rcases List.mem_cons.mp h with rfl | h
    · omega
    · have hle := ih h false
      omega

theorem length_le_of_mem_members {member : String × Json} {members : List (String × Json)}
    (h : member ∈ members) (first : Bool) :
    member.2.writeBytes.length ≤ (writeMembers first members).length := by
  induction members generalizing first with
  | nil => cases h
  | cons head members ih =>
    rw [writeMembers, List.length_append, List.length_append]
    rcases List.mem_cons.mp h with rfl | h
    · omega
    · have hle := ih h false
      omega

open Reader in
mutual

/-- **Any document is read** as it was written, if there are enough levels. -/
theorem readsAs_anything (d : Json) (hexact : d.IsExact) (levels : Nat)
    (hlevels : d.writeBytes.length ≤ levels) : ReadsAs (anything levels) d d := by
  obtain ⟨byte, bytes, hbegin, -⟩ := writeBytes_begin d
  cases levels with
  | zero =>
    rw [hbegin] at hlevels
    exact absurd hlevels (Nat.not_succ_le_zero _)
  | succ levels =>
    -- The first byte tells what kind of document is read.
    match d with
    | .null =>
      intro rest _
      rw [writeBytes, ascii_null, anything]
      refine (reads_firstByte rfl _).bind ((reads_advance 110 _).bind ?_)
      exact (reads_word _ rest).bind (reads_pure _ rest)
    | .bool true =>
      intro rest _
      rw [writeBytes, ascii_true, anything]
      refine (reads_firstByte rfl _).bind ((reads_advance 116 _).bind ?_)
      exact (reads_word _ rest).bind (reads_pure _ rest)
    | .bool false =>
      intro rest _
      rw [writeBytes, ascii_false, anything]
      refine (reads_firstByte rfl _).bind ((reads_advance 102 _).bind ?_)
      exact (reads_word _ rest).bind (reads_pure _ rest)
    | .number n => exact reads_written_number hexact.1 hexact.2 levels
    | .text s =>
      intro rest _
      rw [writeBytes_text, anything]
      refine (reads_firstByte rfl _).bind ((reads_advance 34 _).bind ?_)
      exact (reads_string s rest).bind (reads_pure _ rest)
    | .list items =>
      have hlength (item : Json) (h : item ∈ items) : item.writeBytes.length ≤ levels := by
        have hle := length_le_of_mem_items h true
        rw [writeBytes, List.length_cons, List.length_append] at hlevels
        omega
      intro rest _
      rw [writeBytes_list, anything]
      refine (reads_firstByte rfl _).bind ((reads_advance 91 _).bind ?_)
      exact reads_array (List.forall₂_same.mpr (readsAs_items items hexact levels hlength)) rest
    | .record members =>
      have hlength (member : String × Json) (h : member ∈ members) :
          member.2.writeBytes.length ≤ levels := by
        have hle := length_le_of_mem_members h true
        rw [writeBytes, List.length_cons, List.length_append] at hlevels
        omega
      have hmembers := readsAs_members members hexact levels hlength
      intro rest _
      rw [writeBytes_record, anything]
      refine (reads_firstByte rfl _).bind ((reads_advance 123 _).bind (reads_get fun used => ?_))
      refine Reads.closedBy ?_ (reads_endOfRecord rest)
      exact (reads_anyMembersFrom hmembers (length_lt_rounds members rest) true [] rest).bind
        (reads_pure _ _)

theorem readsAs_items (items : List Json) (hexact : ItemsExact items) (levels : Nat)
    (hlevels : ∀ item ∈ items, item.writeBytes.length ≤ levels) :
    ∀ item ∈ items, ReadsAs (anything levels) item item := by
  match items with
  | [] => exact fun _ h => nomatch h
  | head :: items =>
    have hhead := readsAs_anything head hexact.1 levels (hlevels head List.mem_cons_self)
    have hitems := readsAs_items items hexact.2 levels fun item h =>
      hlevels item (List.mem_cons_of_mem _ h)
    intro item h
    rcases List.mem_cons.mp h with rfl | h
    · exact hhead
    · exact hitems item h

theorem readsAs_members (members : List (String × Json)) (hexact : MembersExact members)
    (levels : Nat) (hlevels : ∀ member ∈ members, member.2.writeBytes.length ≤ levels) :
    ∀ member ∈ members, ReadsAs (anything levels) member.2 member.2 := by
  match members with
  | [] => exact fun _ h => nomatch h
  | (name, document) :: members =>
    have hhead := readsAs_anything document hexact.1 levels (hlevels _ List.mem_cons_self)
    have hmembers := readsAs_members members hexact.2 levels fun member h =>
      hlevels member (List.mem_cons_of_mem _ h)
    intro member h
    rcases List.mem_cons.mp h with rfl | h
    · exact hhead
    · exact hmembers member h

end

variable {d e : Json}

/-- **A document is parsed as it was written.** -/
theorem parse_toBytes (h : d.IsExact) : parse d.toBytes = some d := by
  have hreads := readsAs_anything d h _ (Nat.le_refl _) [] fun _ hbyte => nomatch hbyte
  rw [List.append_nil] at hreads
  have hblanks : Reader.Reads Reader.skipBlanks [] none [] := fun used => ⟨used, rfl⟩
  have hdocument := hreads.bind (f := fun document => do
    match ← Reader.skipBlanks with
    | none => return document
    | some _ => Reader.failNext "trailing characters") (hblanks.bind (Reader.reads_pure d []))
  obtain ⟨used, hrun⟩ := hdocument 0
  rw [parse, toBytes, Bytes.toList_ofList, hrun]

/-- **Documents that are written alike are the same.** -/
theorem toBytes_inj (hd : d.IsExact) (he : e.IsExact) : d.toBytes = e.toBytes ↔ d = e := by
  refine ⟨fun h => ?_, fun h => h ▸ rfl⟩
  have hparse := (parse_toBytes hd).symm.trans ((congrArg parse h).trans (parse_toBytes he))
  exact Option.some.inj hparse

/-! ## Written documents are texts -/

/-- A quoted text is a text: what is escaped is a byte of ASCII, and so is what it is escaped to. -/
theorem isText_quote (s : String) : IsText (quote s) := by
  have hascii : ∀ byte : UInt8, byte < 128 → (escapeByte byte).all (· < 128) := by
    decide +kernel
  have hbeyond (byte : UInt8) (h : 128 ≤ byte) : Reader.isPlain byte := by grind [Reader.isPlain]
  have hchar (c : Char) : IsText ((String.utf8EncodeChar c).flatMap escapeByte) := by
    by_cases hc : c.toNat < 128
    · have hlt : UInt8.ofNat c.toNat < 128 := by
        rw [UInt8.lt_iff_toNat_lt, UInt8.toNat_ofNat']
        show _ < 128
        omega
      rw [Utf8.utf8EncodeChar_ascii hc, List.flatMap_singleton]
      exact isText_of_ascii fun code hcode =>
        of_decide_eq_true (List.all_eq_true.mp (hascii _ hlt) code hcode)
    · have hsame : (String.utf8EncodeChar c).flatMap escapeByte = String.utf8EncodeChar c :=
        Reader.flatMap_escapeByte_plain fun byte hb =>
          hbeyond byte (Utf8.le_of_mem_utf8EncodeChar (Nat.le_of_not_lt hc) hb)
      rw [hsame]
      exact ⟨String.ofList [c], (Utf8.toUTF8_ofList [c]).trans (List.flatMap_singleton _ c)⟩
  have hchars (chars : List Char) :
      IsText ((chars.flatMap String.utf8EncodeChar).flatMap escapeByte) := by
    induction chars with
    | nil => exact isText_nil
    | cons c chars ih =>
      rw [List.flatMap_cons, List.flatMap_append]
      exact (hchar c).append ih
  have htext := hchars s.toList
  rw [← Utf8.toUTF8_ofList, String.ofList_toList] at htext
  have hmark : IsText [34] := isText_byte (by decide)
  exact hmark.append (htext.append hmark)

theorem isText_comma (first : Bool) : IsText (if first then [] else [44]) := by
  cases first with
  | true => exact isText_nil
  | false => exact isText_byte (by decide)

mutual

/-- **What is written is a text.** -/
theorem isText_writeBytes (d : Json) : IsText d.writeBytes := by
  match d with
  | .null => exact ⟨"null", rfl⟩
  | .bool true => exact ⟨"true", rfl⟩
  | .bool false => exact ⟨"false", rfl⟩
  | .number n => exact ⟨toString n, rfl⟩
  | .text s => exact isText_quote s
  | .list items =>
    have hopen : IsText [91] := isText_byte (by decide)
    exact hopen.append ((isText_writeItems true items).append (isText_byte (by decide)))
  | .record members =>
    have hopen : IsText [123] := isText_byte (by decide)
    exact hopen.append ((isText_writeMembers true members).append (isText_byte (by decide)))

theorem isText_writeItems (first : Bool) (items : List Json) : IsText (writeItems first items) := by
  match items with
  | [] => exact isText_nil
  | item :: items =>
    exact ((isText_comma first).append (isText_writeBytes item)).append
      (isText_writeItems false items)

theorem isText_writeMembers (first : Bool) (members : List (String × Json)) :
    IsText (writeMembers first members) := by
  match members with
  | [] => exact isText_nil
  | (name, document) :: members =>
    have hcolon : IsText [58] := isText_byte (by decide)
    exact ((((isText_comma first).append (isText_quote name)).append hcolon).append
      (isText_writeBytes document)).append (isText_writeMembers false members)

end

/-- A written document is the UTF-8 bytes of a text. -/
theorem decode?_toBytes (d : Json) : ∃ text, Utf8.decode? d.toBytes = some text :=
  (isText_writeBytes d).decode?

end Json
end FunctionHost
