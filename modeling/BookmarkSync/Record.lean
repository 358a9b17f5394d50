import BookmarkSync.Types

/-!
# BookmarkSync.Record — the record model and its JSON encoding

`bookmark_sync/record.rs`, over a JSON value type:

* `RawBookmarkItemRecord.deserialize` is serde's derived decoder: a required `id` and
  `type`, every other field optional, absent and `null` both `None`, a present field of
  the wrong type an error naming it, unknown fields ignored;
* `BookmarkItemRecord.deserialize` dispatches on `type`, translating `id` and
  `parentid` with `idToGuid`, and panics on a type it does not know;
* `BookmarkItemRecord.serialize` writes bookmarks, folders and tombstones, and reaches
  `unimplemented!` for queries, livemarks and separators;
* `Payload` (from `sync15`, not in the source) is modelled from the spec: an `id`, a
  `deleted` flag, and the other fields; `fromPayload` and `Payload.fromRecord` connect it
  to records.

A bookmark or folder whose GUIDs are not aliases is encoded and decoded back to itself
(`fromPayload_fromRecord_bookmark`, `fromPayload_fromRecord_folder`); a payload is not:
the encoder writes `parentid` as a Places GUID, where the decoder took it as a record id
(`fromRecord_keeps_parent_guid`).

Objects are field lists read by first match, as the maps serde reads are keyed; which
field a decoding error names when several are wrong follows the struct's field order
here, where serde would name the first bad one in key order.
-/

namespace BookmarkSync

/-- A JSON value. Numbers are integers: every number this code reads is an `i64`. -/
inductive Json where
  | null
  | bool (b : Bool)
  | num (n : Int)
  | str (s : String)
  | arr (items : List Json)
  | obj (fields : List (String × Json))
  deriving Repr

namespace Json

/-- A JSON string. -/
def asString : Json → Option String
  | str s => some s
  | _ => none

/-- A JSON boolean. -/
def asBool : Json → Option Bool
  | bool b => some b
  | _ => none

/-- A JSON integer in the range of `i64`. -/
def asI64 : Json → Option Int
  | num n => if -9223372036854775808 ≤ n ∧ n < 9223372036854775808 then some n else none
  | _ => none

/-- A JSON array of strings (`Vec<String>`, `Vec<SyncGuid>`). -/
def asStrings : Json → Option (List String)
  | arr items => items.mapM asString
  | _ => none

/-- `Option<T>` written by serde: `None` is `null`. -/
def ofOption {α : Type} (f : α → Json) : Option α → Json
  | none => null
  | some a => f a

@[simp] theorem asStrings_strs (l : List String) : asStrings (arr (l.map str)) = some l := by
  induction l with
  | nil => rfl
  | cons s l ih =>
    simp only [asStrings, List.map_cons, List.mapM_cons, asString] at ih ⊢
    rw [ih]; rfl

/-- A string is written as a JSON string and read back as itself. -/
theorem readBack_str (x : Option String) : ∀ s ∈ x, str s ≠ null ∧ asString (str s) = some s :=
  fun _ _ => ⟨nofun, rfl⟩

/-- An integer in the range of `i64` is written as a JSON number and read back as itself. -/
theorem readBack_num {x : Option Int}
    (h : ∀ n ∈ x, -9223372036854775808 ≤ n ∧ n < 9223372036854775808) :
    ∀ n ∈ x, num n ≠ null ∧ asI64 (num n) = some n :=
  fun n hn => ⟨nofun, by simp only [asI64, h n hn, and_self, ite_true]⟩

end Json

/-! ## serde's field semantics -/

section Fields

variable {α : Type} (fields : List (String × Json)) (name : String) (dec : Json → Option α)

/-- A required field: absent is `missing field`, present of another type `invalid type`. -/
def reqField : Except JsonError α :=
  match fields.lookup name with
  | none => .error (.missingField name)
  | some v => match dec v with
    | some a => .ok a
    | none => .error (.invalidType name)

/-- A field with `#[serde(default = ...)]`: absent is the default, present of another type
`invalid type`. -/
def defaultField (default : α) : Except JsonError α :=
  match fields.lookup name with
  | none => .ok default
  | some v => match dec v with
    | some a => .ok a
    | none => .error (.invalidType name)

/-- The value of an `Option<T>` field, if it is there: absent and `null` are `None`. -/
def optValue : Option Json → Except JsonError (Option α)
  | none => .ok none
  | some .null => .ok none
  | some v => match dec v with
    | some a => .ok (some a)
    | none => .error (.invalidType name)

/-- An `Option<T>` field. -/
def optField : Except JsonError (Option α) :=
  optValue name dec (fields.lookup name)

theorem optValue_none : optValue name dec none = .ok none := rfl

theorem optValue_some {v : Json} (hv : v ≠ .null) :
    optValue name dec (some v) = match dec v with
      | some a => .ok (some a)
      | none => .error (.invalidType name) := by
  cases v <;> first | contradiction | rfl

/-- serde reads back an `Option<T>` it wrote, when it reads back every value it wrote for
`Some`. -/
theorem optValue_ofOption {f : α → Json} {x : Option α}
    (hf : ∀ a ∈ x, f a ≠ .null ∧ dec (f a) = some a) :
    optValue name dec (some (Json.ofOption f x)) = .ok x := by
  cases x with
  | none => rfl
  | some a =>
    obtain ⟨hn, hd⟩ := hf a rfl
    simp only [Json.ofOption, optValue]
    split <;> simp_all

/-- Every error of a field read names that field. -/
theorem optField_error_names {e : JsonError} (h : optField fields name dec = .error e) :
    e = .invalidType name := by
  unfold optField optValue at h
  split at h
  · cases h
  · cases h
  · split at h <;> cases h; rfl

theorem reqField_error_names {e : JsonError} (h : reqField fields name dec = .error e) :
    e = .missingField name ∨ e = .invalidType name := by
  unfold reqField at h
  split at h
  · cases h; exact .inl rfl
  · split at h <;> cases h; exact .inr rfl

theorem defaultField_error_names {default : α} {e : JsonError}
    (h : defaultField fields name dec default = .error e) : e = .invalidType name := by
  unfold defaultField at h
  split at h
  · cases h
  · split at h <;> cases h; rfl

/-- A required field read is the field's value, decoded. -/
theorem reqField_ok {a : α} (h : reqField fields name dec = .ok a) :
    ∃ v, fields.lookup name = some v ∧ dec v = some a := by
  unfold reqField at h
  split at h
  · cases h
  · rename_i v _
    split at h <;> cases h
    exact ⟨v, ‹_›, ‹_›⟩

end Fields

/-! ## Records -/

/-- `RawBookmarkItemRecord`: every field a bookmark record can carry. -/
structure RawBookmarkItemRecord where
  id : String
  kind : String
  parentId : Option String
  hasDupe : Option Bool
  parentTitle : Option String
  dateAdded : Option Int
  title : Option String
  url : Option String
  keyword : Option String
  tags : Option (List String)
  tagFolderName : Option String
  children : Option (List String)
  feedUrl : Option String
  siteUrl : Option String
  position : Option Int
  deriving DecidableEq, Repr

/-- `RawBookmarkItemRecord::deserialize`, with the wire names of `#[serde(rename)]` and
`rename_all = "camelCase"`. -/
def RawBookmarkItemRecord.deserialize : Json → Except JsonError RawBookmarkItemRecord
  | .obj fs => do
    let id ← reqField fs "id" Json.asString
    let kind ← reqField fs "type" Json.asString
    let parentId ← optField fs "parentid" Json.asString
    let hasDupe ← optField fs "hasDupe" Json.asBool
    let parentTitle ← optField fs "parentName" Json.asString
    let dateAdded ← optField fs "dateAdded" Json.asI64
    let title ← optField fs "title" Json.asString
    let url ← optField fs "bmkUri" Json.asString
    let keyword ← optField fs "keyword" Json.asString
    let tags ← optField fs "tags" Json.asStrings
    let tagFolderName ← optField fs "folderName" Json.asString
    let children ← optField fs "children" Json.asStrings
    let feedUrl ← optField fs "feedUri" Json.asString
    let siteUrl ← optField fs "siteUri" Json.asString
    let position ← optField fs "pos" Json.asI64
    pure { id, kind, parentId, hasDupe, parentTitle, dateAdded, title, url, keyword, tags,
           tagFolderName, children, feedUrl, siteUrl, position }
  | _ => .error (.invalidType "BookmarkItemRecord")

/-- `BookmarkRecord`. -/
structure BookmarkRecord where
  guid : String
  parentGuid : Option String
  hasDupe : Bool
  parentTitle : Option String
  dateAdded : Option Int
  title : Option String
  url : Option String
  keyword : Option String
  tags : List String
  deriving DecidableEq, Repr

/-- `QueryRecord`. -/
structure QueryRecord where
  guid : String
  parentGuid : Option String
  hasDupe : Bool
  parentTitle : Option String
  dateAdded : Option Int
  title : Option String
  url : Option String
  tagFolderName : Option String
  deriving DecidableEq, Repr

/-- `FolderRecord`. -/
structure FolderRecord where
  guid : String
  parentGuid : Option String
  hasDupe : Bool
  parentTitle : Option String
  dateAdded : Option Int
  title : Option String
  children : List String
  deriving DecidableEq, Repr

/-- `LivemarkRecord`. -/
structure LivemarkRecord where
  guid : String
  parentGuid : Option String
  hasDupe : Bool
  parentTitle : Option String
  dateAdded : Option Int
  title : Option String
  feedUrl : Option String
  siteUrl : Option String
  deriving DecidableEq, Repr

/-- `SeparatorRecord`. -/
structure SeparatorRecord where
  guid : String
  parentGuid : Option String
  hasDupe : Bool
  parentTitle : Option String
  dateAdded : Option Int
  position : Option Int
  deriving DecidableEq, Repr

/-- `BookmarkItemRecord`. -/
inductive BookmarkItemRecord where
  | tombstone (guid : String)
  | bookmark (b : BookmarkRecord)
  | query (q : QueryRecord)
  | folder (f : FolderRecord)
  | livemark (l : LivemarkRecord)
  | separator (s : SeparatorRecord)
  deriving DecidableEq, Repr

namespace BookmarkItemRecord

/-- The GUID a record is about. -/
def guid : BookmarkItemRecord → String
  | tombstone g => g
  | bookmark b => b.guid
  | query q => q.guid
  | folder f => f.guid
  | livemark l => l.guid
  | separator s => s.guid

/-- The children a record lists: a folder's, and none for the other kinds. -/
def children : BookmarkItemRecord → List String
  | folder f => f.children
  | _ => []

/-- Whether a record is a tombstone. -/
def isTombstone : BookmarkItemRecord → Bool
  | tombstone _ => true
  | _ => false

/-- The `type`s `deserialize` knows. -/
def kinds : List String := ["bookmark", "query", "folder", "livemark", "separator"]

/-- `<BookmarkItemRecord as Deserialize>::deserialize`: dispatch on `type`. -/
def deserialize (j : Json) : Result BookmarkItemRecord := do
  let raw ← liftErr (Except.mapError Error.json (RawBookmarkItemRecord.deserialize j))
  match raw.kind with
  | "bookmark" => pure (.bookmark
      { guid := idToGuid raw.id, parentGuid := raw.parentId.map idToGuid,
        hasDupe := raw.hasDupe.getD false, parentTitle := raw.parentTitle,
        dateAdded := raw.dateAdded, title := raw.title, url := raw.url,
        keyword := raw.keyword, tags := raw.tags.getD [] })
  | "query" => pure (.query
      { guid := idToGuid raw.id, parentGuid := raw.parentId.map idToGuid,
        hasDupe := raw.hasDupe.getD false, parentTitle := raw.parentTitle,
        dateAdded := raw.dateAdded, title := raw.title, url := raw.url,
        tagFolderName := raw.tagFolderName })
  | "folder" => pure (.folder
      { guid := idToGuid raw.id, parentGuid := raw.parentId.map idToGuid,
        hasDupe := raw.hasDupe.getD false, parentTitle := raw.parentTitle,
        dateAdded := raw.dateAdded, title := raw.title, children := raw.children.getD [] })
  | "livemark" => pure (.livemark
      { guid := idToGuid raw.id, parentGuid := raw.parentId.map idToGuid,
        hasDupe := raw.hasDupe.getD false, parentTitle := raw.parentTitle,
        dateAdded := raw.dateAdded, title := raw.title, feedUrl := raw.feedUrl,
        siteUrl := raw.siteUrl })
  | "separator" => pure (.separator
      { guid := idToGuid raw.id, parentGuid := raw.parentId.map idToGuid,
        hasDupe := raw.hasDupe.getD false, parentTitle := raw.parentTitle,
        dateAdded := raw.dateAdded, position := raw.position })
  | kind => throw (.panic ("Unsupported bookmark type " ++ kind))

/-- `<BookmarkItemRecord as Serialize>::serialize`, into a JSON object. -/
def serialize : BookmarkItemRecord → Result Json
  | tombstone guid => pure (.obj [("id", .str (guidToId guid)), ("deleted", .bool true)])
  | bookmark b => pure (.obj
      [("id", .str (guidToId b.guid)), ("type", .str "bookmark"),
       ("parentid", Json.ofOption .str b.parentGuid), ("hasDupe", .bool b.hasDupe),
       ("parentName", Json.ofOption .str b.parentTitle),
       ("dateAdded", Json.ofOption .num b.dateAdded), ("title", Json.ofOption .str b.title),
       ("bmkUri", Json.ofOption .str b.url), ("keyword", Json.ofOption .str b.keyword),
       ("tags", .arr (b.tags.map .str))])
  | query _ => throw (.panic "not implemented: TODO: Serialize queries")
  | folder f => pure (.obj
      [("id", .str (guidToId f.guid)), ("type", .str "folder"),
       ("parentid", Json.ofOption .str f.parentGuid), ("hasDupe", .bool f.hasDupe),
       ("parentName", Json.ofOption .str f.parentTitle),
       ("dateAdded", Json.ofOption .num f.dateAdded), ("title", Json.ofOption .str f.title),
       ("children", .arr (f.children.map .str))])
  | livemark _ => throw (.panic "not implemented: TODO: Serialize livemarks")
  | separator _ => throw (.panic "not implemented: TODO: Serialize separators")

end BookmarkItemRecord

/-! ## Payloads -/

/-- Modelled from the spec: `sync15::Payload`, missing from the source. A decrypted
record is its `id`, whether it is a tombstone (`deleted`, absent meaning `false`), and
its other fields. -/
structure Payload where
  id : String
  deleted : Bool
  data : List (String × Json)
  deriving Repr

namespace Payload

/-- Modelled from the spec: `Payload::is_tombstone`, `deleted == true`. -/
def isTombstone (p : Payload) : Bool := p.deleted

/-- Modelled from the spec: `Payload::new_tombstone`, `{id, deleted: true}`. -/
def newTombstone (id : String) : Payload := ⟨id, true, []⟩

/-- Modelled from the spec: the payload as one JSON map, `id` (and `deleted` when set)
put back among the fields. -/
def toJson (p : Payload) : Json :=
  .obj (("id", .str p.id) :: (if p.deleted then [("deleted", .bool true)] else []) ++ p.data)

/-- Modelled from the spec: `Payload::into_record`, the fields decoded as a record. -/
def intoRecord (p : Payload) : Result BookmarkItemRecord :=
  BookmarkItemRecord.deserialize p.toJson

/-- Modelled from the spec: a JSON map read as a payload — `id` required, `deleted`
defaulting to `false`, the other fields kept. -/
def ofJson : Json → Except JsonError Payload
  | .obj fs => do
    let id ← reqField fs "id" Json.asString
    let deleted ← optField fs "deleted" Json.asBool
    pure ⟨id, deleted.getD false, fs.filter fun kv => kv.1 != "id" && kv.1 != "deleted"⟩
  | _ => .error (.invalidType "Payload")

/-- Modelled from the spec: `Payload::from_record`, a record serialized and read back as
a payload. -/
def fromRecord (r : BookmarkItemRecord) : Result Payload := do
  let j ← r.serialize
  liftErr (Except.mapError Error.json (ofJson j))

end Payload

/-- `BookmarkItemRecord::from_payload`: a tombstone keeps the payload's id as it is;
anything else is decoded. -/
def BookmarkItemRecord.fromPayload (payload : Payload) : Result BookmarkItemRecord :=
  if payload.isTombstone then pure (.tombstone payload.id) else payload.intoRecord

/-! ## What decoding can end in -/

/-- A decoded raw record's `id` is the object's `id` field. -/
theorem RawBookmarkItemRecord.deserialize_id {fs : List (String × Json)}
    {raw : RawBookmarkItemRecord} (h : RawBookmarkItemRecord.deserialize (.obj fs) = .ok raw) :
    reqField fs "id" Json.asString = .ok raw.id := by
  simp only [RawBookmarkItemRecord.deserialize] at h
  obtain ⟨id, hid, h⟩ := except_bind_eq_ok h
  repeat obtain ⟨_, -, h⟩ := except_bind_eq_ok h
  cases h
  exact hid

namespace BookmarkItemRecord

/-- A decoded record is about `id_to_guid` of the raw `id`. -/
theorem deserialize_guid {j : Json} {r : BookmarkItemRecord} (h : deserialize j = .ok r) :
    ∃ raw, RawBookmarkItemRecord.deserialize j = .ok raw ∧ r.guid = idToGuid raw.id := by
  obtain ⟨raw, hraw, h⟩ := except_bind_eq_ok h
  refine ⟨raw, ?_, ?_⟩
  · cases hd : RawBookmarkItemRecord.deserialize j <;> simp_all [Except.mapError]
  · split at h <;> cases h <;> rfl

/-- Decoding fails with the error of a field, or panics on a `type` it does not know. -/
theorem deserialize_error {j : Json} {f : Fault} (h : deserialize j = .error f) :
    (∃ e, RawBookmarkItemRecord.deserialize j = .error e ∧ f = .err (.json e)) ∨
      ∃ raw, RawBookmarkItemRecord.deserialize j = .ok raw ∧ raw.kind ∉ kinds ∧
        f = .panic ("Unsupported bookmark type " ++ raw.kind) := by
  unfold deserialize at h
  cases hd : RawBookmarkItemRecord.deserialize j with
  | error e =>
    simp only [hd, Except.mapError, liftErr_error, except_error_bind, Except.error.injEq] at h
    exact .inl ⟨e, rfl, h.symm⟩
  | ok raw =>
    simp only [hd, Except.mapError, liftErr_ok, except_ok_bind] at h
    refine .inr ⟨raw, rfl, ?_⟩
    split at h <;> cases h
    exact ⟨by simp_all [kinds], rfl⟩

/-- The GUID a payload's record is about: the payload's `id` itself for a tombstone,
`id_to_guid` of it for anything else. -/
theorem fromPayload_guid {p : Payload} {r : BookmarkItemRecord} (h : fromPayload p = .ok r) :
    r.guid = if p.isTombstone then p.id else idToGuid p.id := by
  unfold fromPayload at h
  split at h
  · cases h; simp_all [guid]
  · obtain ⟨raw, hraw, hg⟩ := deserialize_guid h
    have hid := RawBookmarkItemRecord.deserialize_id hraw
    simp only [reqField, List.lookup_cons_self, Json.asString, Except.ok.injEq] at hid
    simp_all

/-- A payload fails to decode with the error of a field, or a panic on an unknown `type`;
a tombstone always decodes. -/
theorem fromPayload_error {p : Payload} {f : Fault} (h : fromPayload p = .error f) :
    (∃ e, f = .err (.json e)) ∨ ∃ kind ∉ kinds, f = .panic ("Unsupported bookmark type " ++ kind) := by
  unfold fromPayload at h
  split at h
  · cases h
  · rcases deserialize_error h with ⟨e, -, rfl⟩ | ⟨raw, -, hk, rfl⟩
    · exact .inl ⟨e, rfl⟩
    · exact .inr ⟨raw.kind, hk, rfl⟩

end BookmarkItemRecord

/-! ## What encoding gives -/

/-- An encoded record's payload has the wire id of the record's GUID, and is a tombstone
exactly when the record is one. -/
theorem Payload.fromRecord_id {r : BookmarkItemRecord} {p : Payload}
    (h : Payload.fromRecord r = .ok p) :
    p.id = guidToId r.guid ∧ p.deleted = r.isTombstone := by
  obtain ⟨j, hj, h⟩ := except_bind_eq_ok h
  cases hp : Payload.ofJson j with
  | error e => simp [hp, Except.mapError] at h
  | ok p' =>
    simp only [hp, Except.mapError, liftErr_ok, Except.ok.injEq] at h
    subst h
    cases r <;> cases hj <;>
      simp only [Payload.ofJson, reqField, optField, optValue, List.lookup_cons, List.lookup_nil,
        Json.asString, Json.asBool, BookmarkItemRecord.serialize] at hp <;>
      cases hp <;> exact ⟨rfl, rfl⟩

/-- The encoder's `unimplemented!` for a query. -/
@[simp] theorem Payload.fromRecord_query (q : QueryRecord) :
    Payload.fromRecord (.query q) = .error (.panic "not implemented: TODO: Serialize queries") :=
  rfl

/-- The encoder's `unimplemented!` for a separator. -/
@[simp] theorem Payload.fromRecord_separator (s : SeparatorRecord) :
    Payload.fromRecord (.separator s) =
      .error (.panic "not implemented: TODO: Serialize separators") :=
  rfl

/-- A bookmark whose GUID and parent are not aliases, and whose `dateAdded` is an `i64`,
is encoded and decoded back to itself. -/
theorem fromPayload_fromRecord_bookmark (b : BookmarkRecord)
    (hg : BookmarkRootGuid.fromSyncRecordId b.guid = none)
    (hp : ∀ p ∈ b.parentGuid, BookmarkRootGuid.fromSyncRecordId p = none)
    (hd : ∀ d ∈ b.dateAdded, -9223372036854775808 ≤ d ∧ d < 9223372036854775808) :
    (Payload.fromRecord (.bookmark b) >>= BookmarkItemRecord.fromPayload) = .ok (.bookmark b) := by
  simp [Payload.fromRecord, BookmarkItemRecord.serialize, Payload.ofJson,
    BookmarkItemRecord.fromPayload, Payload.isTombstone, Payload.intoRecord, Payload.toJson,
    BookmarkItemRecord.deserialize, RawBookmarkItemRecord.deserialize, reqField, optField,
    List.lookup_cons, Bool.beq_eq_decide_eq, optValue_none, optValue_some,
    optValue_ofOption _ _ (Json.readBack_num hd), optValue_ofOption _ _ (Json.readBack_str _),
    Json.asString, Json.asBool, Except.mapError, pure, Except.pure, idToGuid_guidToId hg,
    map_idToGuid_of_not_alias hp]

/-- A tagged bookmark in a folder, encoded and decoded. -/
theorem fromPayload_fromRecord_bookmark_sample :
    (Payload.fromRecord (.bookmark ⟨"bookmarkAAAA", some "folderAAAAAA", false, some "F", some 1,
        some "A", some "http://example.com/a", none, ["t"]⟩) >>= BookmarkItemRecord.fromPayload) =
      .ok (.bookmark ⟨"bookmarkAAAA", some "folderAAAAAA", false, some "F", some 1,
        some "A", some "http://example.com/a", none, ["t"]⟩) :=
  fromPayload_fromRecord_bookmark _ rfl (fun _ h => by cases h; rfl) (fun _ h => by cases h; decide)

/-- A folder whose GUID and parent are not aliases, and whose `dateAdded` is an `i64`, is
encoded and decoded back to itself. -/
theorem fromPayload_fromRecord_folder (f : FolderRecord)
    (hg : BookmarkRootGuid.fromSyncRecordId f.guid = none)
    (hp : ∀ p ∈ f.parentGuid, BookmarkRootGuid.fromSyncRecordId p = none)
    (hd : ∀ d ∈ f.dateAdded, -9223372036854775808 ≤ d ∧ d < 9223372036854775808) :
    (Payload.fromRecord (.folder f) >>= BookmarkItemRecord.fromPayload) = .ok (.folder f) := by
  simp [Payload.fromRecord, BookmarkItemRecord.serialize, Payload.ofJson,
    BookmarkItemRecord.fromPayload, Payload.isTombstone, Payload.intoRecord, Payload.toJson,
    BookmarkItemRecord.deserialize, RawBookmarkItemRecord.deserialize, reqField, optField,
    List.lookup_cons, Bool.beq_eq_decide_eq, optValue_none, optValue_some,
    optValue_ofOption _ _ (Json.readBack_num hd), optValue_ofOption _ _ (Json.readBack_str _),
    Json.asString, Json.asBool, Except.mapError, pure, Except.pure, idToGuid_guidToId hg,
    map_idToGuid_of_not_alias hp]

/-- A folder of two children, encoded and decoded. -/
theorem fromPayload_fromRecord_folder_sample :
    (Payload.fromRecord (.folder ⟨"folderAAAAAA", none, true, none, some 1, some "F",
        ["bookmarkAAAA", "bookmarkBBBB"]⟩) >>= BookmarkItemRecord.fromPayload) =
      .ok (.folder ⟨"folderAAAAAA", none, true, none, some 1, some "F",
        ["bookmarkAAAA", "bookmarkBBBB"]⟩) :=
  fromPayload_fromRecord_folder _ rfl (fun _ h => by cases h) (fun _ h => by cases h; decide)

/-! ## A decode and an encode -/

/-- A bookmark filed under the wire alias `unfiled` decodes with the parent
`unfiled_____`, and the encoder writes that GUID back as it is: the payload it gives has
another `parentid` than the one it came from. -/
theorem fromRecord_keeps_parent_guid :
    ∃ q, (BookmarkItemRecord.fromPayload ⟨"bookmarkAAAA", false,
        [("type", .str "bookmark"), ("parentid", .str "unfiled"), ("hasDupe", .bool false),
         ("parentName", .str "Unfiled"), ("dateAdded", .num 1), ("title", .str "A"),
         ("bmkUri", .str "http://example.com/a"), ("keyword", .str "a"), ("tags", .arr [])]⟩ >>=
        Payload.fromRecord) = .ok q ∧
      q.data.lookup "parentid" = some (.str "unfiled_____") :=
  ⟨_, rfl, rfl⟩

end BookmarkSync
