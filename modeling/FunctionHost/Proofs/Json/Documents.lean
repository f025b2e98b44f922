import FunctionHost.Proofs.Json.Reading
import Mathlib.Data.List.Forall2

/-!
# What is written is read

A document that was written is read back by its shape.  What a reader makes of a document does not
depend on what follows it (`ReadsAs`), so each kind of document is looked at on its own: texts, truth
values, numbers and lists are read as they were written, a map is if no name is there twice, and a
record is if its members are, with the defaults of those that are missing (`readsAs_record`).  A
record is refused if one of its members is (`declines_record`), or if one is missing that has no
default.  Members that are given in any order are therefore read if and only if they are complete
(`read_given`).
-/
namespace FunctionHost
namespace Json
namespace Reader

open Digits

variable {r : Reading Json} {shape : Shape} {document filled : Json} {items itemsFound : List Json}
  {member : String × Json} {members found : List (String × Json)} {known : List Member}
  {name : String} {byte : UInt8} {rest : List UInt8}

/-! ## Written documents -/

theorem ascii_null : ascii "null" = 110 :: ascii "ull" := by
  rw [ascii, ascii, Bytes.toList_eq, Bytes.toList_eq]
  rfl

theorem ascii_true : ascii "true" = 116 :: ascii "rue" := by
  rw [ascii, ascii, Bytes.toList_eq, Bytes.toList_eq]
  rfl

theorem ascii_false : ascii "false" = 102 :: ascii "alse" := by
  rw [ascii, ascii, Bytes.toList_eq, Bytes.toList_eq]
  rfl

/-- The digits of a negative number have a sign before them. -/
theorem writeBytes_neg (n : Nat) : (Json.number (.negSucc n)).writeBytes = 45 :: digits (n + 1) := by
  rw [writeBytes, ← ascii_toString, ascii]
  have hsign : "-".toUTF8.toList = [45] := by
    rw [Bytes.toList_eq]
    rfl
  show ("-" ++ toString (n + 1)).toUTF8.toList = _
  rw [Utf8.toUTF8_append, hsign]
  rfl

/-- A digit is no blank, and no other kind of value begins with one. -/
theorem isDigit_ne (byte : UInt8) (h : isDigit byte = true) : isBlank byte = false ∧
    ∀ other ∈ [34, 45, 91, 93, 102, 110, 116, 123], byte ≠ other := by
  refine ⟨by grind [isDigit, isBlank], ?_⟩
  simp only [List.mem_cons, List.not_mem_nil, or_false]
  grind [isDigit]

/-- **A written document begins** with a byte that is no blank and closes nothing. -/
theorem writeBytes_begin (d : Json) :
    ∃ byte bytes, d.writeBytes = byte :: bytes ∧ isBlank byte = false ∧ byte ≠ 93 := by
  cases d with
  | null => exact ⟨110, _, ascii_null, rfl, by decide⟩
  | bool value =>
    cases value with
    | true => exact ⟨116, _, ascii_true, rfl, by decide⟩
    | false => exact ⟨102, _, ascii_false, rfl, by decide⟩
  | number n =>
    cases n with
    | ofNat n =>
      obtain ⟨byte, more, hbegin, hbyte, -⟩ := digits_begin n
      obtain ⟨hblank, hne⟩ := isDigit_ne byte hbyte
      exact ⟨byte, more, (writeBytes_nat n).trans hbegin, hblank, hne 93 (by decide)⟩
    | negSucc n => exact ⟨45, _, writeBytes_neg n, rfl, by decide⟩
  | text s => exact ⟨34, _, rfl, rfl, by decide⟩
  | list items => exact ⟨91, _, rfl, rfl, by decide⟩
  | record members => exact ⟨123, _, rfl, rfl, by decide⟩

/-- There are at least as many bytes as items. -/
theorem length_le_writeItems (items : List Json) (first : Bool) :
    items.length ≤ (writeItems first items).length := by
  induction items generalizing first with
  | nil => exact Nat.zero_le _
  | cons item items ih =>
    obtain ⟨byte, bytes, hbytes, -⟩ := writeBytes_begin item
    have hrest := ih false
    rw [writeItems, hbytes, List.length_append, List.length_append, List.length_cons,
      List.length_cons]
    omega

/-- There are at least as many bytes as members. -/
theorem length_le_writeMembers (members : List (String × Json)) (first : Bool) :
    members.length ≤ (writeMembers first members).length := by
  induction members generalizing first with
  | nil => exact Nat.zero_le _
  | cons member members ih =>
    have hrest := ih false
    rw [writeMembers]
    simp only [List.length_append, List.length_cons]
    omega

/-- A reader that may go on as often as there are bytes left comes to the last member. -/
theorem length_lt_rounds (members : List (String × Json)) (rest : List UInt8) :
    members.length < (writeMembers true members ++ 125 :: rest).length + 1 := by
  have hle := length_le_writeMembers members true
  rw [List.length_append]
  omega

/-! ## Reading them -/

/-- **Whether a reader takes a document that was written for another one**, whatever follows it. -/
def ReadsAs (r : Reading Json) (written document : Json) : Prop :=
  ∀ rest, Follows rest → Reads r (written.writeBytes ++ rest) document rest

/-- **Whether a reader refuses a document that was written**, whatever follows it. -/
def Declines (r : Reading Json) (written : Json) : Prop :=
  ∀ rest, Refuses r (written.writeBytes ++ rest)

theorem writeBytes_text (s : String) (rest : List UInt8) : (Json.text s).writeBytes ++ rest =
    34 :: (s.toUTF8.toList.flatMap escapeByte ++ 34 :: rest) := by
  simp [writeBytes, quote, quoteBytes]

theorem reads_text (s : String) (rest : List UInt8) :
    Reads text ((Json.text s).writeBytes ++ rest) s rest := by
  rw [writeBytes_text]
  exact (reads_firstByte rfl _).bind ((reads_advance 34 _).bind (reads_string s rest))

/-- **A text is read** as it was written. -/
theorem readsAs_text (s : String) : ReadsAs (value .text) (.text s) (.text s) := by
  intro rest _
  exact (reads_text s rest).bind (reads_pure (Json.text s) rest)

/-- The rest of a word is read up to its end. -/
theorem reads_word (bytes rest : List UInt8) : Reads (word bytes) (bytes ++ rest) () rest := by
  induction bytes with
  | nil => exact reads_pure () rest
  | cons byte bytes ih =>
    refine (reads_next byte _).bind ?_
    simp only [if_true]
    exact ih

/-- **A truth value is read** as it was written. -/
theorem readsAs_flag (b : Bool) : ReadsAs (value .flag) (.bool b) (.bool b) := by
  intro rest _
  cases b with
  | true =>
    rw [writeBytes, ascii_true]
    refine (reads_firstByte rfl _).bind ((reads_advance 116 _).bind ?_)
    exact (reads_word _ rest).bind (reads_pure _ rest)
  | false =>
    rw [writeBytes, ascii_false]
    refine (reads_firstByte rfl _).bind ((reads_advance 102 _).bind ?_)
    exact (reads_word _ rest).bind (reads_pure _ rest)

/-- **A number up to the maximum is read** as it was written. -/
theorem readsAs_count {max n : Nat} (hmax : max ≤ maxExact) (hn : n ≤ max) (name : String) :
    ReadsAs (value (.count name max)) (.nat n) (.nat n) := by
  intro rest hrest
  obtain ⟨byte, more, hbegin, hbyte, -⟩ := digits_begin n
  obtain ⟨hblank, hne⟩ := isDigit_ne byte hbyte
  have hsign : byte ≠ 45 := hne 45 (by decide)
  have hnumber : Reads (number true) (byte :: (more ++ rest)) (.integer n) rest := by
    have hkept : IsKept true n := Nat.le_trans hn hmax
    rw [← List.cons_append, ← hbegin]
    exact reads_number hkept hrest
  have hbytes : (Json.nat n).writeBytes ++ rest = byte :: (more ++ rest) := by
    rw [Json.nat, writeBytes_nat, hbegin, List.cons_append]
  rw [hbytes]
  refine (reads_firstByte hblank _).bind ?_
  have hstart : (decide (byte = 45) || isDigit byte) = true := by rw [hbyte, Bool.or_true]
  have hpositive : (byte != 45) = true := by simpa using hsign
  simp only [hstart, if_true, if_neg hsign, hpositive]
  refine Reads.placed (Reads.bind hnumber ?_)
  have hrange : 0 ≤ (n : Int) ∧ (n : Int) ≤ max := by omega
  simp only [if_pos hrange]
  exact reads_pure _ rest

/-- **Nothing is read** where a text may be missing. -/
theorem readsAs_checkedText_null (problem : String → Option String) :
    ReadsAs (value (.checkedText problem)) .null .null := by
  intro rest _
  rw [writeBytes, ascii_null]
  refine (reads_firstByte rfl _).bind ((reads_advance 110 _).bind ?_)
  exact (reads_word _ rest).bind (reads_pure _ rest)

/-- **A text with which nothing is wrong is read** as it was written. -/
theorem readsAs_checkedText {problem : String → Option String} {s : String}
    (h : problem s = none) : ReadsAs (value (.checkedText problem)) (.text s) (.text s) := by
  intro rest _
  have htext := reads_text s rest
  rw [writeBytes_text] at htext ⊢
  refine (reads_firstByte rfl _).bind (htext.bind ?_)
  simp only [h]
  exact reads_pure _ rest

/-- **A text with which something is wrong is refused.** -/
theorem declines_checkedText {problem : String → Option String} {s reason : String}
    (h : problem s = some reason) : Declines (value (.checkedText problem)) (.text s) := by
  intro rest
  have htext := reads_text s rest
  rw [writeBytes_text] at htext ⊢
  refine (reads_firstByte rfl _).bind_refuses (htext.bind_refuses ?_)
  simp only [h]
  exact refuses_failLater reason rest

/-! ## Lists -/

theorem reads_noMoreItems (first : Bool) (rest : List UInt8) :
    Reads (moreItems first) (93 :: rest) false (93 :: rest) :=
  (reads_skipBlanks rfl rest).bind (reads_pure false _)

/-- Another item follows behind a comma, if there is one before it. -/
theorem reads_moreItems (hblank : isBlank byte = false) (hbyte : byte ≠ 93) (first : Bool)
    (rest : List UInt8) :
    Reads (moreItems first) ((if first then [] else [44]) ++ byte :: rest) true
      (byte :: rest) := by
  cases first with
  | true =>
    refine (reads_skipBlanks hblank rest).bind ?_
    simp only [if_neg hbyte]
    exact reads_pure true _
  | false =>
    refine (reads_skipBlanks rfl _).bind ((reads_advance 44 _).bind ?_)
    refine (reads_skipBlanks hblank rest).bind ?_
    simp only [if_neg hbyte]
    exact reads_pure true _

/-- What follows an item is another one or the end of the array. -/
theorem follows_writeItems (items : List Json) (rest : List UInt8) :
    Follows (writeItems false items ++ 93 :: rest) := by
  cases items with
  | nil => exact fun byte hbyte => .inr (.inl (Option.some.inj hbyte).symm)
  | cons item items => exact fun byte hbyte => .inl (Option.some.inj hbyte).symm

/-- **All items of an array are read.** -/
theorem reads_itemsFrom {rounds : Nat} (hitems : items.Forall₂ (ReadsAs r) itemsFound)
    (h : items.length < rounds) (first : Bool) (read : List Json) (rest : List UInt8) :
    Reads (itemsFrom r rounds first read) (writeItems first items ++ 93 :: rest)
      (read.reverse ++ itemsFound) (93 :: rest) := by
  induction rounds generalizing items itemsFound first read with
  | zero => exact absurd h (Nat.not_lt_zero _)
  | succ rounds ih =>
    cases hitems with
    | nil =>
      rw [List.append_nil]
      exact (reads_noMoreItems first rest).bind (reads_pure _ _)
    | @cons item itemFound items itemsFound hitem hitems =>
      obtain ⟨byte, bytes, hbytes, hblank, hbyte⟩ := writeBytes_begin item
      have hfirst := reads_moreItems hblank hbyte first
        (bytes ++ (writeItems false items ++ 93 :: rest))
      have hitem := hitem _ (follows_writeItems items rest)
      have hrest := ih hitems (Nat.lt_of_succ_lt_succ h) false (itemFound :: read)
      rw [hbytes, List.cons_append] at hitem
      rw [List.reverse_cons, List.append_assoc] at hrest
      rw [writeItems, hbytes, List.append_assoc, List.append_assoc, List.cons_append]
      exact hfirst.bind (hitem.bind hrest)

theorem writeBytes_list (items : List Json) (rest : List UInt8) :
    (Json.list items).writeBytes ++ rest = 91 :: (writeItems true items ++ 93 :: rest) := by
  simp [writeBytes]

/-- **An array is read** behind its bracket, up to and with the closing one. -/
theorem reads_array (hitems : items.Forall₂ (ReadsAs r) itemsFound) (rest : List UInt8) :
    Reads (do
      let rounds := (← get).rest.length + 1
      closedBy (do return Json.list (← itemsFrom r rounds true [])) endOfList)
      (writeItems true items ++ 93 :: rest) (.list itemsFound) rest := by
  have hrounds : items.length < (writeItems true items ++ 93 :: rest).length + 1 := by
    have hle := length_le_writeItems items true
    rw [List.length_append]
    omega
  refine reads_get fun used => ?_
  have hclose : Reads endOfList (93 :: rest) () rest :=
    (reads_skipBlanks rfl rest).bind (reads_advance 93 rest)
  refine Reads.closedBy ?_ hclose
  exact (reads_itemsFrom hitems hrounds true [] rest).bind (reads_pure _ _)

/-- **A list is read** item by item. -/
theorem readsAs_list (hitems : items.Forall₂ (ReadsAs (value shape)) itemsFound) :
    ReadsAs (value (.listOf shape)) (.list items) (.list itemsFound) := by
  intro rest _
  rw [writeBytes_list]
  refine (reads_firstByte rfl _).bind ?_
  exact Reads.placed ((reads_advance 91 _).bind (reads_array hitems rest))

/-! ## Maps -/

/-- The name of another member follows, behind a comma if there is one before it. -/
theorem reads_nextKey (first : Bool) (name : String) (rest : List UInt8) :
    Reads (nextKey first) ((if first then [] else [44]) ++ (quote name ++ rest)) (some name)
      rest := by
  have hbytes : quote name ++ rest =
      34 :: (name.toUTF8.toList.flatMap escapeByte ++ 34 :: rest) := by
    simp [quote, quoteBytes]
  have hname : Reads (do advance; return some (← string))
      (34 :: (name.toUTF8.toList.flatMap escapeByte ++ 34 :: rest)) (some name) rest :=
    (reads_advance 34 _).bind ((reads_string name rest).bind (reads_pure _ rest))
  rw [hbytes]
  cases first with
  | true => exact (reads_skipBlanks rfl _).bind hname
  | false =>
    refine (reads_skipBlanks rfl _).bind ((reads_advance 44 _).bind ?_)
    exact (reads_skipBlanks rfl _).bind hname

theorem reads_noMoreKeys (first : Bool) (rest : List UInt8) :
    Reads (nextKey first) (125 :: rest) none (125 :: rest) :=
  (reads_skipBlanks rfl rest).bind (reads_pure none _)

theorem reads_colon (rest : List UInt8) : Reads colon (58 :: rest) () rest :=
  (reads_skipBlanks rfl rest).bind (reads_advance 58 rest)

theorem reads_endOfRecord (rest : List UInt8) : Reads endOfRecord (125 :: rest) () rest :=
  (reads_skipBlanks rfl rest).bind (reads_advance 125 rest)

theorem writeBytes_record (members : List (String × Json)) (rest : List UInt8) :
    (Json.record members).writeBytes ++ rest =
      123 :: (writeMembers true members ++ 125 :: rest) := by
  simp [writeBytes]

theorem writeMembers_cons (first : Bool) (name : String) (document : Json)
    (members : List (String × Json)) (rest : List UInt8) :
    writeMembers first ((name, document) :: members) ++ rest =
      (if first then [] else [44]) ++ (quote name ++ 58 ::
        (document.writeBytes ++ (writeMembers false members ++ rest))) := by
  simp [writeMembers]

/-- What follows a member is another one or the end of the object. -/
theorem follows_writeMembers (members : List (String × Json)) (rest : List UInt8) :
    Follows (writeMembers false members ++ 125 :: rest) := by
  cases members with
  | nil => exact fun byte hbyte => .inr (.inr (Option.some.inj hbyte).symm)
  | cons member members => exact fun byte hbyte => .inl (Option.some.inj hbyte).symm

/-- Texts by name, as the members of an object. -/
def entryMembers (entries : List (String × String)) : List (String × Json) :=
  entries.map fun (name, value) => (name, .text value)

/-- **All entries of a map are read**, if no name is there twice. -/
theorem reads_entriesFrom {rounds : Nat} {entries : List (String × String)}
    {read : List (String × Json)}
    (hnodup : ((read ++ entryMembers entries).map (·.1)).Nodup) (h : entries.length < rounds)
    (first : Bool) (rest : List UInt8) :
    Reads (entriesFrom rounds first read) (writeMembers first (entryMembers entries) ++ 125 :: rest)
      (read ++ entryMembers entries) (125 :: rest) := by
  induction rounds generalizing entries first read with
  | zero => exact absurd h (Nat.not_lt_zero _)
  | succ rounds ih =>
    cases entries with
    | nil =>
      refine (reads_noMoreKeys first rest).bind ?_
      rw [entryMembers, List.map_nil, List.append_nil]
      exact reads_pure _ _
    | cons entry entries =>
      obtain ⟨name, value⟩ := entry
      have hlist : read ++ entryMembers ((name, value) :: entries) =
          (read ++ [(name, .text value)]) ++ entryMembers entries := by
        simp [entryMembers]
      -- The name has not been read before, so nothing is replaced.
      have hnew : read.filter (·.1 != name) = read := by
        refine List.filter_eq_self.mpr fun m hm => ?_
        have hdisjoint := (List.nodup_append.mp (List.map_append ▸ hnodup)).2.2
        exact bne_iff_ne.mpr (hdisjoint _ (List.mem_map_of_mem hm) name List.mem_cons_self)
      have hrest := ih (hlist ▸ hnodup) (Nat.lt_of_succ_lt_succ h) false
      rw [← hlist] at hrest
      rw [show entryMembers ((name, value) :: entries) =
        (name, .text value) :: entryMembers entries from rfl, writeMembers_cons]
      refine (reads_nextKey first name _).bind ((reads_colon _).bind ((reads_text value _).bind ?_))
      simp only [hnew]
      exact hrest

/-- **A map is read** as it was written if no name is there twice. -/
theorem readsAs_textMap {entries : List (String × String)}
    (hnodup : (entries.map (·.1)).Nodup) :
    ReadsAs (value .textMap) (.record (entryMembers entries)) (.record (entryMembers entries)) := by
  intro rest _
  have hrounds : entries.length <
      (writeMembers true (entryMembers entries) ++ 125 :: rest).length + 1 := by
    have hlt := length_lt_rounds (entryMembers entries) rest
    rwa [entryMembers, List.length_map, ← entryMembers] at hlt
  have hnames : (List.map (·.1) ([] ++ entryMembers entries)).Nodup := by
    rw [List.nil_append, entryMembers, List.map_map]
    exact hnodup
  rw [writeBytes_record]
  refine (reads_firstByte rfl _).bind ?_
  refine Reads.placed ((reads_advance 123 _).bind (reads_get fun used => ?_))
  refine Reads.closedBy ?_ (reads_endOfRecord rest)
  exact (reads_entriesFrom hnames hrounds true rest).bind (reads_pure _ _)

/-! ## Records -/

/-- **Whether a record knows a member** that was written, and reads it as another one. -/
def KnowsAs (known : List Member) (member found : String × Json) : Prop :=
  found.1 = member.1 ∧
    ∃ m, known.find? (·.name == member.1) = some m ∧ ReadsAs m.read member.2 found.2

/-- **Whether a record knows a member** and reads it as it was written. -/
def Knows (known : List Member) (member : String × Json) : Prop :=
  ∃ m, known.find? (·.name == member.1) = some m ∧ ReadsAs m.read member.2 member.2

theorem knowsAs_self (h : ∀ member ∈ members, Knows known member) :
    members.Forall₂ (KnowsAs known) members :=
  List.forall₂_same.mpr fun member hm => ⟨rfl, h member hm⟩

/-- A name that is not there twice has not been read before. -/
theorem any_eq_false {read : List (String × Json)} {member : String × Json}
    (members : List (String × Json)) (hnodup : ((member :: members ++ read).map (·.1)).Nodup) :
    read.any (·.1 == member.1) = false := by
  refine List.any_eq_false.mpr fun m hm heq => (List.nodup_cons.mp hnodup).1 ?_
  exact List.mem_map.mpr ⟨m, List.mem_append_right _ hm, eq_of_beq heq⟩

/-- **All members of an object are read** by a record that knows them, if no name is there twice. -/
theorem reads_membersFrom {rounds : Nat} {read : List (String × Json)}
    (hknown : members.Forall₂ (KnowsAs known) found)
    (hnodup : ((found ++ read).map (·.1)).Nodup) (h : members.length < rounds) (first : Bool)
    (rest : List UInt8) :
    Reads (membersFrom known rounds first read) (writeMembers first members ++ 125 :: rest)
      (found.reverse ++ read) (125 :: rest) := by
  induction rounds generalizing members found first read with
  | zero => exact absurd h (Nat.not_lt_zero _)
  | succ rounds ih =>
    cases hknown with
    | nil => exact (reads_noMoreKeys first rest).bind (reads_pure _ _)
    | @cons member memberFound members found hmember hknown =>
      obtain ⟨name, document⟩ := memberFound
      obtain ⟨hname, m, hfound, hreads⟩ := hmember
      obtain rfl : name = member.1 := hname
      have hnew := any_eq_false found hnodup
      have hperm : ((found ++ (member.1, document) :: read).map (·.1)).Nodup :=
        (List.perm_middle.map _).nodup_iff.mpr hnodup
      have hrest := ih hknown hperm (Nat.lt_of_succ_lt_succ h) false
      rw [writeMembers_cons, List.reverse_cons, List.append_assoc]
      refine (reads_nextKey first member.1 _).bind ?_
      simp only [hfound, hnew]
      refine (reads_colon _).bind ((hreads _ (follows_writeMembers members rest)).bind ?_)
      exact hrest

/-- **No members are read** if one of them is refused. -/
theorem refuses_membersFrom {rounds : Nat} {read before after : List (String × Json)} {m : Member}
    (hknown : ∀ member ∈ before, Knows known member)
    (hfound : known.find? (·.name == name) = some m) (hdeclines : Declines m.read document)
    (hnodup : ((before ++ (name, document) :: read).map (·.1)).Nodup)
    (h : before.length < rounds) (first : Bool) (rest : List UInt8) :
    Refuses (membersFrom known rounds first read)
      (writeMembers first (before ++ (name, document) :: after) ++ 125 :: rest) := by
  induction rounds generalizing before first read with
  | zero => exact absurd h (Nat.not_lt_zero _)
  | succ rounds ih =>
    cases before with
    | nil =>
      have hnew := any_eq_false [] hnodup
      rw [List.nil_append, writeMembers_cons]
      refine (reads_nextKey first name _).bind_refuses ?_
      simp only [hfound, hnew]
      exact (reads_colon _).bind_refuses ((hdeclines _).bind _)
    | cons member before =>
      obtain ⟨m', hfound', hreads⟩ := hknown member List.mem_cons_self
      -- What was read grows by this member; the one that is declined is still to come.
      have hmiddle : ((before ++ (name, document) :: member :: read).map (·.1)).Nodup := by
        refine (List.Perm.map _ ?_).nodup_iff.mpr hnodup
        exact ((List.Perm.swap _ _ _).append_left before).trans List.perm_middle
      have hnew : read.any (·.1 == member.1) = false := by
        refine any_eq_false (before ++ [(name, document)]) ?_
        rwa [List.cons_append, List.append_assoc]
      have hrest := ih (fun x hx => hknown x (List.mem_cons_of_mem _ hx)) hmiddle
        (Nat.lt_of_succ_lt_succ h) false
      rw [List.cons_append, writeMembers_cons]
      refine (reads_nextKey first member.1 _).bind_refuses ?_
      simp only [hfound', hnew]
      refine (reads_colon _).bind_refuses ?_
      exact (hreads _ (follows_writeMembers _ rest)).bind_refuses hrest

variable {shapes : List (String × Shape × Option Json)} {complete : List (String × Json)}

/-- **A record is read** if its members are, with the defaults of those that are missing. -/
theorem readsAs_record (hknown : members.Forall₂ (KnowsAs (memberReaders shapes)) found)
    (hnodup : (found.map (·.1)).Nodup)
    (hcomplete : Shape.complete found.reverse shapes = .ok complete) :
    ReadsAs (value (.record name shapes)) (.record members) (.record complete) := by
  intro rest _
  have hmembers := reads_membersFrom hknown (List.append_nil found ▸ hnodup)
    (length_lt_rounds members rest) true rest
  rw [List.append_nil] at hmembers
  rw [writeBytes_record]
  refine (reads_firstByte rfl _).bind ?_
  refine Reads.placed ((reads_advance 123 _).bind (reads_get fun used => ?_))
  refine Reads.closedBy (hmembers.bind ?_) (reads_endOfRecord rest)
  simp only [hcomplete]
  exact reads_pure _ _

/-- A record reads its members by their shapes. -/
theorem find?_memberReaders {fallback : Option Json}
    {shapes : List (String × Shape × Option Json)} (hnodup : (shapes.map (·.1)).Nodup)
    (h : (name, shape, fallback) ∈ shapes) :
    (memberReaders shapes).find? (·.name == name) = some ⟨name, value shape, fallback⟩ := by
  induction shapes with
  | nil => cases h
  | cons head shapes ih =>
    obtain ⟨other, s, f⟩ := head
    obtain ⟨hnew, hnodup⟩ := List.nodup_cons.mp hnodup
    rw [memberReaders]
    rcases List.mem_cons.mp h with heq | h
    · cases heq
      exact List.find?_cons_of_pos (beq_self_eq_true name)
    · have hne : other ≠ name := by
        rintro rfl
        exact hnew (List.mem_map.mpr ⟨_, h, rfl⟩)
      rw [List.find?_cons_of_neg (by simpa using hne)]
      exact ih hnodup h

/-- **A record is refused** if one of its members is. -/
theorem declines_record {before after : List (String × Json)} {m : Member}
    (hknown : ∀ member ∈ before, Knows (memberReaders shapes) member)
    (hfound : (memberReaders shapes).find? (·.name == name) = some m)
    (hdeclines : Declines m.read document)
    (hnodup : ((before ++ [(name, document)]).map (·.1)).Nodup) (title : String) :
    Declines (value (.record title shapes))
      (.record (before ++ (name, document) :: after)) := by
  intro rest
  have hrounds : before.length <
      (writeMembers true (before ++ (name, document) :: after) ++ 125 :: rest).length + 1 := by
    have hlt := length_lt_rounds (before ++ (name, document) :: after) rest
    rw [List.length_append] at hlt
    omega
  rw [writeBytes_record]
  refine (reads_firstByte rfl _).bind_refuses ?_
  refine Refuses.placed ((reads_advance 123 _).bind_refuses (refuses_get fun used => ?_))
  refine Refuses.closedBy (Refuses.bind ?_ _) _
  exact refuses_membersFrom hknown hfound hdeclines hnodup hrounds true rest

/-- **A record is refused** if a member is missing. -/
theorem declines_incomplete {reason : String}
    (hknown : ∀ member ∈ members, Knows (memberReaders shapes) member)
    (hnodup : (members.map (·.1)).Nodup)
    (hcomplete : Shape.complete members.reverse shapes = .error reason) (title : String) :
    Declines (value (.record title shapes)) (.record members) := by
  intro rest
  have hmembers := reads_membersFrom (knowsAs_self hknown) (List.append_nil members ▸ hnodup)
    (length_lt_rounds members rest) true rest
  rw [List.append_nil] at hmembers
  rw [writeBytes_record]
  refine (reads_firstByte rfl _).bind_refuses ?_
  refine Refuses.placed ((reads_advance 123 _).bind_refuses (refuses_get fun used => ?_))
  refine Refuses.closedBy (hmembers.bind_refuses ?_) _
  simp only [hcomplete]
  exact refuses_failLater reason _

/-! ### Members that are given -/

/-- Whether a member is the one that a shape asks for, and is read as it was written. -/
def Fits (asked : String × Shape × Option Json) (member : String × Json) : Prop :=
  asked.1 = member.1 ∧ ReadsAs (value asked.2.1) member.2 member.2

/-- **Whether members are some of those that a record asks for**, in any order and each only once. -/
structure Given (shapes : List (String × Shape × Option Json)) (members : List (String × Json)) :
    Prop where
  nodup : (members.map (·.1)).Nodup
  fits : ∀ member ∈ members, ∃ asked ∈ shapes, Fits asked member

theorem Given.append (h : Given shapes members) (more : List (String × Shape × Option Json)) :
    Given (shapes ++ more) members where
  nodup := h.nodup
  fits member hm := by
    obtain ⟨asked, hasked, hfits⟩ := h.fits member hm
    exact ⟨asked, List.mem_append_left _ hasked, hfits⟩

theorem Given.knows (h : Given shapes members) (hnodup : (shapes.map (·.1)).Nodup) :
    ∀ member ∈ members, Knows (memberReaders shapes) member := by
  intro member hm
  obtain ⟨⟨asked, s, fallback⟩, hasked, hname, hreads⟩ := h.fits member hm
  obtain rfl : asked = member.1 := hname
  exact ⟨_, find?_memberReaders hnodup hasked, hreads⟩

theorem find?_of_mem {member : String × Json} (hnodup : (members.map (·.1)).Nodup)
    (h : member ∈ members) : members.find? (·.1 == member.1) = some member := by
  induction members with
  | nil => cases h
  | cons head members ih =>
    obtain ⟨hnew, hnodup⟩ := List.nodup_cons.mp hnodup
    rcases List.mem_cons.mp h with rfl | h
    · exact List.find?_cons_of_pos (beq_self_eq_true _)
    · have hne : head.1 ≠ member.1 := fun heq => hnew (List.mem_map.mpr ⟨_, h, heq.symm⟩)
      rw [List.find?_cons_of_neg (by simpa using hne)]
      exact ih hnodup h

/-- What is found does not depend on the order, if no name is there twice. -/
theorem find?_reverse (hnodup : (members.map (·.1)).Nodup) (name : String) :
    members.reverse.find? (·.1 == name) = members.find? (·.1 == name) := by
  have hreverse : (members.reverse.map (·.1)).Nodup := by
    rw [List.map_reverse]
    exact List.nodup_reverse.mpr hnodup
  cases hfind : members.find? (·.1 == name) with
  | none =>
    refine List.find?_eq_none.mpr fun m hm => ?_
    exact List.find?_eq_none.mp hfind m (List.mem_reverse.mp hm)
  | some member =>
    have hname := List.find?_some hfind
    obtain rfl : member.1 = name := eq_of_beq hname
    exact find?_of_mem hreverse (List.mem_reverse.mpr (List.mem_of_find?_eq_some hfind))

theorem complete_congr {found other : List (String × Json)}
    (h : ∀ asked ∈ shapes, found.find? (·.1 == asked.1) = other.find? (·.1 == asked.1)) :
    Shape.complete found shapes = Shape.complete other shapes := by
  induction shapes with
  | nil => rfl
  | cons asked shapes ih =>
    rw [Shape.complete, Shape.complete, h asked List.mem_cons_self,
      ih fun x hx => h x (List.mem_cons_of_mem _ hx)]

theorem map_eq_ok {β ε : Type} {x : Except ε α} {f : α → β} {b : β} :
    x.map f = .ok b ↔ ∃ a, x = .ok a ∧ f a = b := by
  cases x <;> simp [Except.map]

/-- A completed record has the names of its shape. -/
theorem names_of_complete (h : Shape.complete members shapes = .ok complete) :
    complete.map (·.1) = shapes.map (·.1) := by
  induction shapes generalizing complete with
  | nil =>
    cases h
    rfl
  | cons asked shapes ih =>
    rw [Shape.complete] at h
    split at h
    · cases h
    · obtain ⟨rest, hrest, rfl⟩ := map_eq_ok.mp h
      rw [List.map_cons, List.map_cons, ih hrest]

/-- A record is completed if all members are there that have no default. -/
theorem complete_iff : (∃ complete, Shape.complete members shapes = .ok complete) ↔
    ∀ asked ∈ shapes, asked.2.2 = none → asked.1 ∈ members.map (·.1) := by
  induction shapes with
  | nil => exact ⟨(fun _ _ h => nomatch h), fun _ => ⟨[], rfl⟩⟩
  | cons asked shapes ih =>
    obtain ⟨name, shape, fallback⟩ := asked
    rw [List.forall_mem_cons, ← ih, Shape.complete]
    cases hfind : members.find? (·.1 == name) with
    | none =>
      have hmissing : name ∉ members.map (·.1) := by
        intro hthere
        obtain ⟨member, hm, rfl⟩ := List.mem_map.mp hthere
        exact List.find?_eq_none.mp hfind member hm (beq_self_eq_true _)
      cases fallback with
      | none => simp [hmissing]
      | some d => simp [map_eq_ok]
    | some member =>
      have hname := List.find?_some hfind
      have hthere : name ∈ members.map (·.1) :=
        List.mem_map.mpr ⟨member, List.mem_of_find?_eq_some hfind, eq_of_beq hname⟩
      simp [map_eq_ok, hthere]

/-- **Given members are read** with the defaults of those that are missing. -/
theorem Given.readsAs (h : Given shapes members) (hnodup : (shapes.map (·.1)).Nodup)
    (hcomplete : Shape.complete members shapes = .ok complete) (title : String) :
    ReadsAs (value (.record title shapes)) (.record members) (.record complete) := by
  refine readsAs_record (knowsAs_self (h.knows hnodup)) h.nodup ?_
  rw [complete_congr fun asked _ => find?_reverse h.nodup asked.1, hcomplete]

/-- **Given members are refused** if one is missing that has no default. -/
theorem Given.declines {reason : String} (h : Given shapes members)
    (hnodup : (shapes.map (·.1)).Nodup)
    (hcomplete : Shape.complete members shapes = .error reason) (title : String) :
    Declines (value (.record title shapes)) (.record members) := by
  have hreverse : Shape.complete members.reverse shapes = .error reason := by
    rw [complete_congr fun asked _ => find?_reverse h.nodup asked.1, hcomplete]
  exact declines_incomplete (h.knows hnodup) h.nodup hreverse title

end Reader

variable {shape : Shape} {written document : Json}

/-- **A document that was written is read**, if nothing follows it. -/
theorem read_of_readsAs (h : Reader.ReadsAs (Reader.value shape) written document) :
    read shape written.toBytes.toList = .ok document := by
  have hreads : Reader.Reads (Reader.document shape) written.writeBytes document [] := by
    have hvalue := h [] fun _ hbyte => nomatch hbyte
    rw [List.append_nil] at hvalue
    refine hvalue.bind ?_
    have hblanks : Reader.Reads Reader.skipBlanks [] none [] := fun used => ⟨used, rfl⟩
    exact hblanks.bind (Reader.reads_pure document [])
  obtain ⟨used, hrun⟩ := hreads 0
  rw [toBytes, Bytes.toList_ofList, read, hrun]

/-- **A document that is refused is not read**, and it is said why. -/
theorem read_of_declines (h : Reader.Declines (Reader.value shape) written) :
    ∃ reason, read shape written.toBytes.toList = .error reason := by
  have hrefuses : Reader.Refuses (Reader.document shape) written.writeBytes := by
    have hvalue := h []
    rw [List.append_nil] at hvalue
    exact hvalue.bind _
  obtain ⟨refusal, c, hrun⟩ := hrefuses 0
  rw [toBytes, Bytes.toList_ofList, read, hrun]
  exact ⟨_, rfl⟩

/-- **Members that a record asks for are read** if and only if they are complete. -/
theorem read_given {shapes : List (String × Shape × Option Json)} {members : List (String × Json)}
    (h : Reader.Given shapes members) (hnodup : (shapes.map (·.1)).Nodup) (title : String) :
    read (.record title shapes) (record members).toBytes.toList = .ok document ↔
      ∃ complete, Shape.complete members shapes = .ok complete ∧ document = .record complete := by
  cases hcomplete : Shape.complete members shapes with
  | error reason =>
    obtain ⟨refusal, hread⟩ := read_of_declines (h.declines hnodup hcomplete title)
    rw [hread]
    exact ⟨(fun h => nomatch h), fun ⟨_, h, _⟩ => nomatch h⟩
  | ok complete =>
    rw [read_of_readsAs (h.readsAs hnodup hcomplete title)]
    simp [eq_comm]

/-- **A record with a list of texts is read as it was written**, whatever the texts are. -/
theorem read_texts (name member : String) (texts : List String) :
    read (.record name [(member, .listOf .text, none)])
        (record [(member, .list (texts.map .text))]).toBytes.toList =
      .ok (.record [(member, .list (texts.map .text))]) := by
  have hlist : Reader.ReadsAs (Reader.value (.listOf .text)) (.list (texts.map .text))
      (.list (texts.map .text)) := by
    refine Reader.readsAs_list (List.forall₂_same.mpr fun item hitem => ?_)
    obtain ⟨s, -, rfl⟩ := List.mem_map.mp hitem
    exact Reader.readsAs_text s
  refine read_of_readsAs
    (Reader.readsAs_record (Reader.knowsAs_self fun m hm => ?_) (List.nodup_singleton _) ?_)
  · obtain rfl := List.mem_singleton.mp hm
    exact ⟨_, List.find?_cons_of_pos (beq_self_eq_true member), hlist⟩
  · have hfound : List.find? (·.1 == member) [(member, Json.list (texts.map .text))] =
        some (member, .list (texts.map .text)) :=
      List.find?_cons_of_pos (beq_self_eq_true member)
    rw [List.reverse_singleton, Shape.complete, hfound]
    rfl

end Json
end FunctionHost
