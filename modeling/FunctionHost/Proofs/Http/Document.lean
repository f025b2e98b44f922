import FunctionHost.Http.Document
import FunctionHost.Proofs.Dictionary
import FunctionHost.Proofs.Http.Base64
import FunctionHost.Proofs.Json.Documents

/-!
# Documents of exchanges are read back

`Request.parse` and `Response.parse` read what a guest sends and what it gets.  Every request, and
every response whose statuses are numbers of 16 bits, is read back from its own document
(`Request.parse_document`, `Response.parse_document`), whatever its texts and its headers are.  The
body stands apart (`ReadsBodies`): it may be missing or null, which means that it is empty, and a
text stands for the bytes that it spells in base64, or the document is refused.
-/
namespace FunctionHost
namespace Http

open Json.Reader

/-! ## Headers and bodies -/

/-- **Headers are what their document says.** -/
theorem headersOf_headersDocument (h : Headers) : headersOf (headersDocument h) = h := by
  rw [headersOf, headersDocument, Json.asMembers, List.foldl_map]
  exact h.foldl_insert_entries

theorem readsAs_u16 {n : Nat} (h : n < UInt16.size) :
    ReadsAs (value .u16) (.nat n) (.nat n) :=
  readsAs_count (by decide) (Nat.le_pred_of_lt h) "u16"

theorem readsAs_headers (h : Headers) :
    ReadsAs (value .textMap) (headersDocument h) (headersDocument h) :=
  readsAs_textMap h.names_nodup

/-- Whether a document is a body: nothing, or the bytes that a text spells. -/
inductive IsBody : Json → Bytes → Prop
  | null : IsBody .null ByteArray.empty
  | text {s : String} {bytes : Bytes} (h : Base64.Spells s bytes.toList) : IsBody (.text s) bytes

theorem IsBody.empty : IsBody (.text "") ByteArray.empty :=
  .text (Base64.decode_eq_ok_iff.mp Base64.decode_empty)

theorem IsBody.readsAs {d : Json} {bytes : Bytes} (h : IsBody d bytes) :
    ReadsAs (value bodyShape) d d := by
  cases h with
  | null => exact readsAs_checkedText_null _
  | text h => exact readsAs_checkedText (by rw [Base64.decode_eq_ok_iff.mpr h])

theorem IsBody.bodyOf {d : Json} {bytes : Bytes} (h : IsBody d bytes) : bodyOf d = bytes := by
  cases h with
  | null =>
    have hnull : Json.asText .null = "" := rfl
    rw [Http.bodyOf, hnull, Base64.decode_empty]
  | text h => rw [Http.bodyOf, Json.asText, Base64.decode_eq_ok_iff.mpr h]

theorem declines_body {s : String} (h : ∀ bytes : Bytes, ¬ Base64.Spells s bytes.toList) :
    Declines (value bodyShape) (.text s) := by
  cases hdecode : Base64.decode s with
  | ok bytes => exact absurd (Base64.decode_eq_ok_iff.mp hdecode) (h bytes)
  | error problem => exact declines_checkedText (by rw [hdecode])

/-- The member for a body. -/
def bodyMember : String × Shape × Option Json := ("body", bodyShape, some (.text ""))

/-- **How a document is parsed that has a body among other members.**  Of the others those must be
there that are required, but the body may be missing.  Then it is empty, and null is as good as no
body.  A text is parsed if and only if it spells bytes in base64; then the body is these bytes, and
the text is the one that is written for them. -/
structure ReadsBodies {α : Type} (parse : Bytes → Except String α) (required : List String)
    (body : α → Bytes) (withBody : α → Bytes → α) (before after : List (String × Json)) : Prop where
  plain : (∃ a, parse (Json.record (before ++ after)).toBytes = .ok a) ↔
    required ⊆ (before ++ after).map (·.1)
  absent : ∀ a, parse (Json.record (before ++ after)).toBytes = .ok a → body a = ByteArray.empty
  null : ∀ a, parse (Json.record (before ++ ("body", .null) :: after)).toBytes = .ok a ↔
    parse (Json.record (before ++ after)).toBytes = .ok a
  text : ∀ s a, parse (Json.record (before ++ ("body", .text s) :: after)).toBytes = .ok a ↔
    ∃ bytes plain, Base64.Spells s bytes.toList ∧ Base64.encode bytes = s ∧
      parse (Json.record (before ++ after)).toBytes = .ok plain ∧ a = withBody plain bytes

/-- **How a body is taken from a document**: the member counts for it alone. -/
structure TakesBody {α : Type} (ofDocument : Json → α) (body : α → Bytes)
    (withBody : α → Bytes → α) : Prop where
  taken : ∀ members d, "body" ∉ members.map (·.1) →
    ofDocument (.record (members ++ [("body", d)])) =
      withBody (ofDocument (.record members)) (bodyOf d)
  body : ∀ a bytes, body (withBody a bytes) = bytes
  again : ∀ a bytes bytes', withBody (withBody a bytes) bytes' = withBody a bytes'

section Bodies

variable {α : Type} {title : String} {front : List (String × Shape × Option Json)}
  {before after found complete : List (String × Json)} {ofDocument : Json → α} {body : α → Bytes}
  {withBody : α → Bytes → α} {d : Json} {bytes : Bytes} {a : α} {s : String}

/-- The body goes to the end of a completed record. -/
theorem complete_bodyMember
    (hfound : ((found.find? (·.1 == "body")).map (·.2)).getD (.text "") = d) :
    Shape.complete found (front ++ [bodyMember]) = .ok complete ↔
      ∃ rest, Shape.complete found front = .ok rest ∧ complete = rest ++ [("body", d)] := by
  induction front generalizing complete with
  | nil =>
    simp [bodyMember, Shape.complete, Except.map, hfound, eq_comm]
  | cons asked front ih =>
    rw [List.cons_append, Shape.complete, Shape.complete]
    split
    · constructor
      · intro h
        cases h
      · rintro ⟨_, h, _⟩
        cases h
    · constructor
      · intro h
        obtain ⟨more, hmore, rfl⟩ := map_eq_ok.mp h
        obtain ⟨rest, hrest, rfl⟩ := ih.mp hmore
        exact ⟨_, map_eq_ok.mpr ⟨rest, hrest, rfl⟩, rfl⟩
      · rintro ⟨_, h, rfl⟩
        obtain ⟨rest, hrest, rfl⟩ := map_eq_ok.mp h
        exact map_eq_ok.mpr ⟨_, ih.mpr ⟨rest, hrest, rfl⟩, rfl⟩

theorem body_not_mem (hnodup : ((front ++ [bodyMember]).map (·.1)).Nodup) :
    "body" ∉ front.map (·.1) := by
  rw [List.map_append] at hnodup
  exact fun hm => (List.nodup_append.mp hnodup).2.2 _ hm _ List.mem_cons_self rfl

/-- No given member has the name of the body. -/
theorem ne_body_of_given (h : Given front found) (hnew : "body" ∉ front.map (·.1)) :
    ∀ member ∈ found, member.1 ≠ "body" := by
  intro member hm heq
  obtain ⟨asked, hasked, hname, -⟩ := h.fits member hm
  exact hnew (List.mem_map.mpr ⟨asked, hasked, hname.trans heq⟩)

/-- The members of a record, with a body somewhere among them. -/
theorem given_body (h : Given front (before ++ after)) (hnew : "body" ∉ front.map (·.1))
    (hd : ReadsAs (value bodyShape) d d) :
    Given (front ++ [bodyMember]) (before ++ ("body", d) :: after) where
  nodup := by
    have hperm : (before ++ ("body", d) :: after).Perm (("body", d) :: (before ++ after)) :=
      List.perm_middle
    refine (hperm.map _).nodup_iff.mpr (List.nodup_cons.mpr ⟨fun hm => ?_, h.nodup⟩)
    obtain ⟨member, hmember, hname⟩ := List.mem_map.mp hm
    exact ne_body_of_given h hnew member hmember hname
  fits member hm := by
    rcases List.mem_cons.mp (List.perm_middle.mem_iff.mp hm) with rfl | hm
    · exact ⟨bodyMember, List.mem_append_right _ List.mem_cons_self, rfl, hd⟩
    · exact (h.append [bodyMember]).fits member hm

/-- A body does not count for what is found under another name. -/
theorem complete_middle (hnew : "body" ∉ front.map (·.1)) :
    Shape.complete (before ++ ("body", d) :: after) front =
      Shape.complete (before ++ after) front := by
  refine complete_congr fun asked hasked => ?_
  have hne : ("body" == asked.1) = false :=
    beq_eq_false_iff_ne.mpr fun heq => hnew (heq ▸ List.mem_map_of_mem hasked)
  rw [List.find?_append, List.find?_append, List.find?_cons, hne]

/-- **What a document holds** is what its other members hold, and its body. -/
theorem parse_given (htakes : TakesBody ofDocument body withBody)
    (hnodup : ((front ++ [bodyMember]).map (·.1)).Nodup) (h : Given (front ++ [bodyMember]) found)
    (hfound : ((found.find? (·.1 == "body")).map (·.2)).getD (.text "") = d) (title : String)
    (a : α) :
    (Json.read (.record title (front ++ [bodyMember])) (Json.record found).toBytes.toList).map
        ofDocument = .ok a ↔
      ∃ rest, Shape.complete found front = .ok rest ∧
        a = withBody (ofDocument (.record rest)) (bodyOf d) := by
  have hnew {rest : List (String × Json)} (hrest : Shape.complete found front = .ok rest) :
      "body" ∉ rest.map (·.1) := names_of_complete hrest ▸ body_not_mem hnodup
  simp only [map_eq_ok, Json.read_given h hnodup, complete_bodyMember hfound]
  constructor
  · rintro ⟨_, ⟨_, ⟨rest, hrest, rfl⟩, rfl⟩, rfl⟩
    exact ⟨rest, hrest, htakes.taken rest d (hnew hrest)⟩
  · rintro ⟨rest, hrest, rfl⟩
    exact ⟨_, ⟨_, ⟨rest, hrest, rfl⟩, rfl⟩, htakes.taken rest d (hnew hrest)⟩

/-- Without a body a document holds an empty one. -/
theorem parse_absent (htakes : TakesBody ofDocument body withBody)
    (hnodup : ((front ++ [bodyMember]).map (·.1)).Nodup) (h : Given front found) (title : String)
    (a : α) :
    (Json.read (.record title (front ++ [bodyMember])) (Json.record found).toBytes.toList).map
        ofDocument = .ok a ↔
      ∃ rest, Shape.complete found front = .ok rest ∧
        a = withBody (ofDocument (.record rest)) ByteArray.empty := by
  have hmissing : found.find? (·.1 == "body") = none :=
    List.find?_eq_none.mpr fun member hm heq =>
      ne_body_of_given h (body_not_mem hnodup) member hm (eq_of_beq heq)
  rw [← IsBody.empty.bodyOf]
  refine parse_given htakes hnodup (h.append [bodyMember]) ?_ title a
  rw [hmissing]
  rfl

/-- With a body a document holds its bytes. -/
theorem parse_present (htakes : TakesBody ofDocument body withBody)
    (hnodup : ((front ++ [bodyMember]).map (·.1)).Nodup) (h : Given front (before ++ after))
    (hbody : IsBody d bytes) (title : String) (a : α) :
    (Json.read (.record title (front ++ [bodyMember]))
        (Json.record (before ++ ("body", d) :: after)).toBytes.toList).map ofDocument = .ok a ↔
      ∃ rest, Shape.complete (before ++ after) front = .ok rest ∧
        a = withBody (ofDocument (.record rest)) bytes := by
  have hnew := body_not_mem hnodup
  have hgiven := given_body h hnew hbody.readsAs
  have hfound : (before ++ ("body", d) :: after).find? (·.1 == "body") = some ("body", d) :=
    find?_of_mem hgiven.nodup (List.mem_append_right before List.mem_cons_self)
  rw [← complete_middle hnew (d := d), ← hbody.bodyOf]
  refine parse_given htakes hnodup hgiven ?_ title a
  rw [hfound]
  rfl

/-- With a body that spells nothing a document holds nothing. -/
theorem parse_unspelled (hnodup : ((front ++ [bodyMember]).map (·.1)).Nodup)
    (h : Given front (before ++ after)) (hbody : ∀ bytes : Bytes, ¬ Base64.Spells s bytes.toList)
    (title : String) (a : α) :
    (Json.read (.record title (front ++ [bodyMember]))
        (Json.record (before ++ ("body", .text s) :: after)).toBytes.toList).map ofDocument ≠
      .ok a := by
  have hknown := (h.append [bodyMember]).knows hnodup
  have hfound := find?_memberReaders hnodup (List.mem_append_right front List.mem_cons_self)
  have hnames : ((before ++ [("body", Json.text s)]).map (·.1)).Nodup := by
    have hbefore := List.nodup_append.mp (List.map_append ▸ h.nodup)
    rw [List.map_append]
    refine List.nodup_append.mpr
      ⟨hbefore.1, List.nodup_singleton _, fun name hname other hother => ?_⟩
    obtain ⟨member, hm, rfl⟩ := List.mem_map.mp hname
    rw [List.mem_singleton.mp hother]
    exact ne_body_of_given h (body_not_mem hnodup) member (List.mem_append_left _ hm)
  have hdeclines : Declines (value (.record title (front ++ [bodyMember])))
      (.record (before ++ ("body", .text s) :: after)) :=
    declines_record (fun member hm => hknown member (List.mem_append_left _ hm)) hfound
      (declines_body hbody) hnames title
  obtain ⟨reason, hread⟩ := Json.read_of_declines hdeclines
  rw [hread]
  exact fun h => nomatch h

/-- **Bodies are read**, whatever the other members are that are given, and wherever they stand. -/
theorem readsBodies (htakes : TakesBody ofDocument body withBody)
    (hnodup : ((front ++ [bodyMember]).map (·.1)).Nodup) (h : Given front (before ++ after))
    (title : String) :
    ReadsBodies (fun bytes =>
      (Json.read (.record title (front ++ [bodyMember])) bytes.toList).map ofDocument)
      ((front.filter (·.2.2.isNone)).map (·.1)) body withBody before after := by
  have habsent := parse_absent htakes hnodup h title
  refine ⟨?_, fun a ha => ?_, fun a => ?_, fun s a => ⟨fun ha => ?_, ?_⟩⟩
  · have hparse : (∃ a, (Json.read (.record title (front ++ [bodyMember]))
        (Json.record (before ++ after)).toBytes.toList).map ofDocument = .ok a) ↔
        ∃ rest, Shape.complete (before ++ after) front = .ok rest :=
      ⟨fun ⟨a, ha⟩ => ((habsent a).mp ha).imp fun _ h => h.1,
        fun ⟨rest, hrest⟩ => ⟨_, (habsent _).mpr ⟨rest, hrest, rfl⟩⟩⟩
    rw [hparse, complete_iff]
    refine ⟨fun hall name hname => ?_, fun hsub asked hasked hnone => hsub ?_⟩
    · obtain ⟨asked, hasked, rfl⟩ := List.mem_map.mp hname
      obtain ⟨hasked, hnone⟩ := List.mem_filter.mp hasked
      exact hall asked hasked (Option.isNone_iff_eq_none.mp hnone)
    · exact List.mem_map_of_mem (List.mem_filter.mpr ⟨hasked, Option.isNone_iff_eq_none.mpr hnone⟩)
  · obtain ⟨rest, -, rfl⟩ := (habsent a).mp ha
    exact htakes.body _ _
  · exact (parse_present htakes hnodup h .null title a).trans (habsent a).symm
  · by_cases hspells : ∃ bytes : Bytes, Base64.Spells s bytes.toList
    · obtain ⟨bytes, hspells⟩ := hspells
      obtain ⟨rest, hrest, rfl⟩ := (parse_present htakes hnodup h (.text hspells) title a).mp ha
      exact ⟨bytes, _, hspells, Base64.encode_of_spells hspells, (habsent _).mpr ⟨rest, hrest, rfl⟩,
        (htakes.again _ _ _).symm⟩
    · exact absurd ha (parse_unspelled hnodup h (fun bytes hs => hspells ⟨bytes, hs⟩) title a)
  · rintro ⟨bytes, plain, hspells, -, hplain, rfl⟩
    obtain ⟨rest, hrest, rfl⟩ := (habsent plain).mp hplain
    exact (parse_present htakes hnodup h (.text hspells) title _).mpr
      ⟨rest, hrest, htakes.again _ _ _⟩

end Bodies

/-! ## Requests -/

theorem child_append_of_ne {name : String} (h : name ≠ "body") (members : List (String × Json))
    (d : Json) :
    (Json.record (members ++ [("body", d)])).child name = (Json.record members).child name := by
  have hne : ("body" == name) = false := beq_eq_false_iff_ne.mpr (Ne.symm h)
  rw [Json.child, Json.member?, List.find?_append, List.find?_cons, hne, List.find?_nil,
    Option.or_none]
  rfl

theorem child_append_self {members : List (String × Json)} (h : "body" ∉ members.map (·.1))
    (d : Json) : (Json.record (members ++ [("body", d)])).child "body" = d := by
  have hmissing : members.find? (·.1 == "body") = none :=
    List.find?_eq_none.mpr fun m hm heq => h (List.mem_map.mpr ⟨m, hm, eq_of_beq heq⟩)
  rw [Json.child, Json.member?, List.find?_append, hmissing]
  rfl

namespace Request

/-- **The request that bytes hold**, or why they hold none. -/
def parse (bytes : Bytes) : Except String Request := (Json.read shape bytes.toList).map ofDocument

/-- **Whether a member belongs to a request** and is no body. -/
inductive IsField : String × Json → Prop
  | method (s : String) : IsField ("method", .text s)
  | url (s : String) : IsField ("url", .text s)
  | headers (h : Headers) : IsField ("headers", headersDocument h)
  | insecure (b : Bool) : IsField ("insecure", .bool b)

/-- The members that a request may have but the body. -/
def front : List (String × Shape × Option Json) := [
  ("method", .text, some (.text "GET")),
  ("url", .text, none),
  ("headers", .textMap, some (.record [])),
  ("insecure", .flag, some (.bool false))]

theorem given_fields {fields : List (String × Json)} (hnodup : (fields.map (·.1)).Nodup)
    (h : ∀ field ∈ fields, IsField field) : Given front fields where
  nodup := hnodup
  fits field hfield := by
    cases h field hfield with
    | method s => exact ⟨_, List.mem_cons_self, rfl, readsAs_text s⟩
    | url s => exact ⟨("url", .text, none), by simp [front], rfl, readsAs_text s⟩
    | headers h =>
      exact ⟨("headers", .textMap, some (.record [])), by simp [front], rfl, readsAs_headers h⟩
    | insecure b =>
      exact ⟨("insecure", .flag, some (.bool false)), by simp [front], rfl, readsAs_flag b⟩

theorem takesBody : TakesBody ofDocument body fun r bytes => { r with body := bytes } where
  taken members d h := by
    rw [ofDocument, child_append_self h]
    simp [ofDocument, child_append_of_ne]
  body _ _ := rfl
  again _ _ _ := rfl

/-- **Bodies of requests are read**, whatever other members there are, and wherever they stand. -/
theorem readsBodies {before after : List (String × Json)}
    (hnodup : ((before ++ after).map (·.1)).Nodup) (h : ∀ field ∈ before ++ after, IsField field) :
    ReadsBodies parse ["url"] body (fun r bytes => { r with body := bytes }) before after :=
  Http.readsBodies takesBody (by decide) (given_fields hnodup h) "HttpClientRequest"

/-- The members of the document of a request but its body. -/
def fields (r : Request) : List (String × Json) := [
  ("method", .text r.method),
  ("url", .text r.url),
  ("headers", headersDocument r.headers),
  ("insecure", .bool r.insecure)]

theorem isField_of_mem_fields (r : Request) : ∀ field ∈ r.fields, IsField field := by
  simp only [fields, List.mem_cons, List.not_mem_nil, or_false]
  rintro field (rfl | rfl | rfl | rfl)
  · exact .method _
  · exact .url _
  · exact .headers _
  · exact .insecure _

/-- **A request is read back** from its document. -/
theorem parse_document (r : Request) : parse r.document.toBytes = .ok r := by
  have hnames : ["method", "url", "headers", "insecure"].Nodup := by decide
  have hgiven : Given front (r.fields ++ []) := given_fields hnames r.isField_of_mem_fields
  have hbody : IsBody (.text (Base64.encode r.body)) r.body := .text (Base64.spells_encode r.body)
  refine (parse_present takesBody (by decide) hgiven hbody "HttpClientRequest" r).mpr
    ⟨r.fields, ?_, ?_⟩
  · simp [Shape.complete, front, fields, Except.map]
  · simp [ofDocument, Json.child, Json.member?, fields, Json.asText, Json.asFlag,
      headersOf_headersDocument]

end Request

/-! ## Responses -/

namespace Response

/-- **The response that bytes hold**, or why they hold none. -/
def parse (bytes : Bytes) : Except String Response := (Json.read shape bytes.toList).map ofDocument

/-- **Whether a member belongs to a response** and is no body. -/
inductive IsField : String × Json → Prop
  | status {code : Nat} (h : code < UInt16.size) (s : String) :
    IsField ("status", .record [("code", .nat code), ("status", .text s)])
  | code {n : Nat} (h : n < UInt16.size) : IsField ("code", .nat n)
  | headers (h : Headers) : IsField ("headers", headersDocument h)

/-- The members that a response may have but the body. -/
def front : List (String × Shape × Option Json) := [
  ("status", .record "CallStatus" [("code", .u16, none), ("status", .text, none)], none),
  ("code", .u16, none),
  ("headers", .textMap, some (.record []))]

theorem readsAs_status {code : Nat} (h : code < UInt16.size) (s : String) :
    ReadsAs (value (.record "CallStatus" [("code", .u16, none), ("status", .text, none)]))
      (.record [("code", .nat code), ("status", .text s)])
      (.record [("code", .nat code), ("status", .text s)]) := by
  have hgiven : Given [("code", .u16, none), ("status", .text, none)]
      [("code", .nat code), ("status", .text s)] := by
    have hnames : ["code", "status"].Nodup := by decide
    refine ⟨hnames, fun member hm => ?_⟩
    simp only [List.mem_cons, List.not_mem_nil, or_false] at hm
    rcases hm with rfl | rfl
    · exact ⟨_, List.mem_cons_self, rfl, readsAs_u16 h⟩
    · exact ⟨_, List.mem_cons_of_mem _ List.mem_cons_self, rfl, readsAs_text s⟩
  exact hgiven.readsAs (by decide) (by simp [Shape.complete, Except.map]) "CallStatus"

theorem given_fields {fields : List (String × Json)} (hnodup : (fields.map (·.1)).Nodup)
    (h : ∀ field ∈ fields, IsField field) : Given front fields where
  nodup := hnodup
  fits field hfield := by
    cases h field hfield with
    | status h s => exact ⟨_, List.mem_cons_self, rfl, readsAs_status h s⟩
    | code h => exact ⟨("code", .u16, none), by simp [front], rfl, readsAs_u16 h⟩
    | headers h =>
      exact ⟨("headers", .textMap, some (.record [])), by simp [front], rfl, readsAs_headers h⟩

theorem takesBody : TakesBody ofDocument body fun r bytes => { r with body := bytes } where
  taken members d h := by
    rw [ofDocument, child_append_self h]
    simp [ofDocument, child_append_of_ne]
  body _ _ := rfl
  again _ _ _ := rfl

/-- **Bodies of responses are read**, whatever other members there are, and wherever they stand. -/
theorem readsBodies {before after : List (String × Json)}
    (hnodup : ((before ++ after).map (·.1)).Nodup) (h : ∀ field ∈ before ++ after, IsField field) :
    ReadsBodies parse ["status", "code"] body (fun r bytes => { r with body := bytes })
      before after :=
  Http.readsBodies takesBody (by decide) (given_fields hnodup h) "HttpClientResponse"

/-- **Whether the statuses of a response are numbers of 16 bits.** -/
structure HasStatuses (r : Response) : Prop where
  status : r.status.code < UInt16.size
  code : r.code < UInt16.size

/-- The members of the document of a response but its body. -/
def fields (r : Response) : List (String × Json) := [
  ("status", .record [("code", .nat r.status.code), ("status", .text r.status.text)]),
  ("code", .nat r.code),
  ("headers", headersDocument r.headers)]

theorem HasStatuses.isField_of_mem_fields {r : Response} (h : r.HasStatuses) :
    ∀ field ∈ r.fields, IsField field := by
  simp only [fields, List.mem_cons, List.not_mem_nil, or_false]
  rintro field (rfl | rfl | rfl)
  · exact .status h.status _
  · exact .code h.code
  · exact .headers _

/-- **A response is read back** from its document. -/
theorem HasStatuses.parse_document {r : Response} (h : r.HasStatuses) :
    parse r.document.toBytes = .ok r := by
  have hnames : ["status", "code", "headers"].Nodup := by decide
  have hgiven : Given front (r.fields ++ []) := given_fields hnames h.isField_of_mem_fields
  have hbody : IsBody (.text (Base64.encode r.body)) r.body := .text (Base64.spells_encode r.body)
  refine (parse_present takesBody (by decide) hgiven hbody "HttpClientResponse" r).mpr
    ⟨r.fields, ?_, ?_⟩
  · simp [Shape.complete, front, fields, Except.map]
  · simp [ofDocument, Json.child, Json.member?, fields, Json.asText, Json.asNat, Json.nat,
      headersOf_headersDocument]

end Response
end Http
end FunctionHost
