import BookmarkSync.Record

/-!
# BookmarkSync.RecordTypes — tombstones and password records of `sync15-adapter`

`sync15-adapter/src/record_types.rs`, over the JSON values of `BookmarkSync.Record`:

* `MaybeTombstone α` is `#[serde(untagged)]`. `serialize` writes a tombstone as the map
  `{id, deleted}` and a record as the record itself. `deserialize` tries the variants in
  order, `Tombstone { id, deleted }` first and `Record(T)` second, and fails with serde's
  `data did not match any variant` when neither reads the value. Neither variant denies
  unknown fields. `isTombstone`, `unwrap`, `expect`, `okOr`, `toRecord` and `recordId`
  follow the source;
* `PasswordRecord` has serde's derived encoder and decoder: `rename_all = "camelCase"`
  and `formSubmitURL`; `username`, `usernameField` and `passwordField` default to the
  empty string; `timeLastUsed` and `timesUsed` are not written when `None`.

A derived struct decoder also reads a sequence of exactly its fields, in order (serde's
`visit_seq`, with `end` refusing extra elements); `PasswordRecord.deserialize` models that
form too. The struct variant of an untagged enum has no `visit_seq`, so `tombstoneFields`
reads maps only. Maps are read by first match, as in `BookmarkSync.Record`.

What holds:

* `MaybeTombstone.deserialize_isTombstone_iff` — a decoded value is a tombstone exactly
  when the value is a map with a string `id` and a boolean `deleted`, whatever that
  boolean is (`TombstoneShaped`). So a full password record that carries `deleted: false` is read
  as a tombstone (`deserialize_live_password_as_tombstone`);
* `MaybeTombstone.deserialize_of_shaped` — such a value is a tombstone whatever the
  record decoder would make of it, and `deserialize_recordId`: `record_id` is the map's
  `id` field whichever variant read it;
* `MaybeTombstone.deserialize_serialize_password` — every
  `MaybeTombstone<PasswordRecord>`, tombstone or record, is encoded and decoded back to
  itself.
-/

namespace BookmarkSync

/-! ## `MaybeTombstone` -/

/-- `MaybeTombstone<T>`. -/
inductive MaybeTombstone (α : Type) where
  | tombstone (id : String) (deleted : Bool)
  | record (r : α)
  deriving DecidableEq, Repr

/-- The `Sync15Record` trait: a collection and a record's id. -/
structure Sync15Record (α : Type) where
  collectionTag : String
  recordId : α → String

namespace MaybeTombstone

variable {α : Type}

/-- `MaybeTombstone::tombstone`: a tombstone with `deleted: true`. -/
def tombstoneOf (id : String) : MaybeTombstone α := .tombstone id true

/-- `MaybeTombstone::is_tombstone`: anything but a record, whatever its `deleted`. -/
def isTombstone : MaybeTombstone α → Bool
  | .record _ => false
  | _ => true

/-- `MaybeTombstone::unwrap`. -/
def unwrap : MaybeTombstone α → Result α
  | .record r => pure r
  | _ => throw (.panic "called `MaybeTombstone::unwrap()` on a Tombstone!")

/-- `MaybeTombstone::expect`. -/
def expect (m : MaybeTombstone α) (msg : String) : Result α :=
  match m with
  | .record r => pure r
  | _ => throw (.panic msg)

/-- `MaybeTombstone::ok_or`. -/
def okOr {ε : Type} (m : MaybeTombstone α) (err : ε) : Except ε α :=
  match m with
  | .record r => .ok r
  | _ => .error err

/-- `MaybeTombstone::record`. -/
def toRecord : MaybeTombstone α → Option α
  | .record r => some r
  | _ => none

/-- `impl Sync15Record for MaybeTombstone<T>`: the record's collection; a tombstone's
own `id`, or the record's. -/
def sync15Record (t : Sync15Record α) : Sync15Record (MaybeTombstone α) where
  collectionTag := t.collectionTag
  recordId
    | .tombstone id _ => id
    | .record r => t.recordId r

/-- The untagged encoding: a tombstone's fields, or the record. -/
def serialize (ser : α → Json) : MaybeTombstone α → Json
  | .tombstone id deleted => .obj [("id", .str id), ("deleted", .bool deleted)]
  | .record r => ser r

/-- The derived decoder of the untagged variant `Tombstone { id: String, deleted: bool }`:
a map with a string `id` and a boolean `deleted`, other keys ignored; any other value is
refused. -/
def tombstoneFields : Json → Except JsonError (String × Bool)
  | .obj fs => do
    let id ← reqField fs "id" Json.asString
    let deleted ← reqField fs "deleted" Json.asBool
    pure (id, deleted)
  | _ => .error (.invalidType "Tombstone")

/-- The message of serde's untagged decoder when no variant reads the value. -/
def untaggedError : String := "data did not match any variant of untagged enum MaybeTombstone"

/-- `MaybeTombstone::deserialize`, untagged: `Tombstone` if it reads the value, else
`Record` if `T` does; the variants' own errors are dropped. -/
def deserialize (dec : Json → Except JsonError α) (j : Json) : Except String (MaybeTombstone α) :=
  match tombstoneFields j with
  | .ok (id, deleted) => .ok (.tombstone id deleted)
  | .error _ => match dec j with
    | .ok r => .ok (.record r)
    | .error _ => .error untaggedError

/-- What serde reads as `Tombstone { id, deleted }`: a map whose `id` is a string and whose
`deleted` is a boolean, `true` or `false`, whatever else it holds. -/
def TombstoneShaped : Json → Prop
  | .obj fs => (∃ id, fs.lookup "id" = some (.str id)) ∧
      ∃ deleted, fs.lookup "deleted" = some (.bool deleted)
  | _ => False

end MaybeTombstone

/-! ## `PasswordRecord` -/

/-- An `i64`: an integer within Rust's range. -/
structure I64 where
  val : Int
  ge : -9223372036854775808 ≤ val
  lt : val < 9223372036854775808
  deriving DecidableEq, Repr

/-- An `i64` as serde reads it from JSON: an integer within range. -/
def I64.ofJson : Json → Option I64
  | .num n => if h : -9223372036854775808 ≤ n ∧ n < 9223372036854775808 then some ⟨n, h.1, h.2⟩
    else none
  | _ => none

/-- `PasswordRecord`. -/
structure PasswordRecord where
  id : String
  hostname : Option String
  formSubmitUrl : Option String
  httpRealm : Option String
  username : String
  password : String
  usernameField : String
  passwordField : String
  timeCreated : I64
  timePasswordChanged : I64
  timeLastUsed : Option I64
  timesUsed : Option I64
  deriving DecidableEq, Repr

/-- `#[serde(skip_serializing_if = "Option::is_none")]`: the field, only when it is `Some`. -/
def skipNone {α : Type} (name : String) (f : α → Json) : Option α → List (String × Json)
  | none => []
  | some a => [(name, f a)]

namespace PasswordRecord

/-- `impl Sync15Record for PasswordRecord`. -/
def sync15Record : Sync15Record PasswordRecord := ⟨"passwords", PasswordRecord.id⟩

/-- `PasswordRecord::serialize`, serde's derived encoder: the fields in order, `None` as
`null` but for the two that are skipped. -/
def serialize (r : PasswordRecord) : Json :=
  .obj ([("id", .str r.id), ("hostname", Json.ofOption .str r.hostname),
      ("formSubmitURL", Json.ofOption .str r.formSubmitUrl),
      ("httpRealm", Json.ofOption .str r.httpRealm), ("username", .str r.username),
      ("password", .str r.password), ("usernameField", .str r.usernameField),
      ("passwordField", .str r.passwordField), ("timeCreated", .num r.timeCreated.val),
      ("timePasswordChanged", .num r.timePasswordChanged.val)] ++
    skipNone "timeLastUsed" (fun n => .num n.val) r.timeLastUsed ++
    skipNone "timesUsed" (fun n => .num n.val) r.timesUsed)

/-- An element of the sequence form, of the field's type. -/
def seqField {α : Type} (name : String) (dec : Json → Option α) (v : Json) :
    Except JsonError α :=
  match dec v with
  | some a => .ok a
  | none => .error (.invalidType name)

/-- `PasswordRecord::deserialize`, serde's derived decoder: a map read by wire name, or a
sequence of exactly the twelve fields in order. -/
def deserialize : Json → Except JsonError PasswordRecord
  | .obj fs => do
    let id ← reqField fs "id" Json.asString
    let hostname ← optField fs "hostname" Json.asString
    let formSubmitUrl ← optField fs "formSubmitURL" Json.asString
    let httpRealm ← optField fs "httpRealm" Json.asString
    let username ← defaultField fs "username" Json.asString ""
    let password ← reqField fs "password" Json.asString
    let usernameField ← defaultField fs "usernameField" Json.asString ""
    let passwordField ← defaultField fs "passwordField" Json.asString ""
    let timeCreated ← reqField fs "timeCreated" I64.ofJson
    let timePasswordChanged ← reqField fs "timePasswordChanged" I64.ofJson
    let timeLastUsed ← optField fs "timeLastUsed" I64.ofJson
    let timesUsed ← optField fs "timesUsed" I64.ofJson
    pure ⟨id, hostname, formSubmitUrl, httpRealm, username, password, usernameField,
      passwordField, timeCreated, timePasswordChanged, timeLastUsed, timesUsed⟩
  | .arr [id, hostname, formSubmitUrl, httpRealm, username, password, usernameField,
      passwordField, timeCreated, timePasswordChanged, timeLastUsed, timesUsed] => do
    let id ← seqField "id" Json.asString id
    let hostname ← optValue "hostname" Json.asString (some hostname)
    let formSubmitUrl ← optValue "formSubmitURL" Json.asString (some formSubmitUrl)
    let httpRealm ← optValue "httpRealm" Json.asString (some httpRealm)
    let username ← seqField "username" Json.asString username
    let password ← seqField "password" Json.asString password
    let usernameField ← seqField "usernameField" Json.asString usernameField
    let passwordField ← seqField "passwordField" Json.asString passwordField
    let timeCreated ← seqField "timeCreated" I64.ofJson timeCreated
    let timePasswordChanged ← seqField "timePasswordChanged" I64.ofJson timePasswordChanged
    let timeLastUsed ← optValue "timeLastUsed" I64.ofJson (some timeLastUsed)
    let timesUsed ← optValue "timesUsed" I64.ofJson (some timesUsed)
    pure ⟨id, hostname, formSubmitUrl, httpRealm, username, password, usernameField,
      passwordField, timeCreated, timePasswordChanged, timeLastUsed, timesUsed⟩
  | _ => .error (.invalidType "PasswordRecord")

/-- A saved login to run the model on. -/
def sample : PasswordRecord where
  id := "aaaaaaaaaaaa"
  hostname := some "https://example.com"
  formSubmitUrl := some "https://example.com/login"
  httpRealm := none
  username := "user"
  password := "hunter2"
  usernameField := "login"
  passwordField := "pass"
  timeCreated := ⟨1000, by omega, by omega⟩
  timePasswordChanged := ⟨1000, by omega, by omega⟩
  timeLastUsed := some ⟨2000, by omega, by omega⟩
  timesUsed := none

end PasswordRecord

/-! ## Reading back -/

theorem Json.asString_eq_some {j : Json} {s : String} : j.asString = some s ↔ j = .str s := by
  cases j <;> simp [Json.asString]

theorem Json.asBool_eq_some {j : Json} {b : Bool} : j.asBool = some b ↔ j = .bool b := by
  cases j <;> simp [Json.asBool]

@[simp] theorem I64.ofJson_num (n : I64) : I64.ofJson (.num n.val) = some n := by
  simp [I64.ofJson, n.ge, n.lt]

/-- Every password record is encoded and decoded back to itself. -/
theorem PasswordRecord.deserialize_serialize (r : PasswordRecord) :
    PasswordRecord.deserialize r.serialize = .ok r := by
  obtain ⟨id, host, form, realm, user, pass, userField, passField, created, changed, lastUsed,
    used⟩ := r
  cases lastUsed <;> cases used <;>
    simp [PasswordRecord.serialize, PasswordRecord.deserialize, reqField, optField, defaultField,
      skipNone, List.lookup_cons, Bool.beq_eq_decide_eq,
      optValue_ofOption _ _ (Json.readBack_str _), Json.asString, optValue_none, optValue_some,
      pure, Except.pure]

/-- A decoded password record's `id` is the map's `id` field. -/
theorem PasswordRecord.deserialize_id {fs : List (String × Json)} {r : PasswordRecord}
    (h : PasswordRecord.deserialize (.obj fs) = .ok r) :
    reqField fs "id" Json.asString = .ok r.id := by
  simp only [PasswordRecord.deserialize] at h
  obtain ⟨id, hid, h⟩ := except_bind_eq_ok h
  repeat obtain ⟨_, -, h⟩ := except_bind_eq_ok h
  cases h
  exact hid

/-- A password record's encoding has no `deleted` field. -/
theorem PasswordRecord.serialize_lookup_deleted (r : PasswordRecord) :
    ∃ fs, r.serialize = .obj fs ∧ fs.lookup "deleted" = none := by
  refine ⟨_, rfl, ?_⟩
  cases r.timeLastUsed <;> cases r.timesUsed <;> simp [skipNone, List.lookup_cons]

namespace MaybeTombstone

variable {α : Type} {dec : Json → Except JsonError α}

/-! ## Which variant is read -/

/-- What the `Tombstone` variant reads is shaped as one. -/
theorem tombstoneFields_shaped {j : Json} {p : String × Bool} (h : tombstoneFields j = .ok p) :
    TombstoneShaped j := by
  unfold tombstoneFields at h
  split at h
  · rename_i fs
    obtain ⟨id, hid, h⟩ := except_bind_eq_ok h
    obtain ⟨deleted, hdel, -⟩ := except_bind_eq_ok h
    obtain ⟨v, hv, hvid⟩ := reqField_ok _ _ _ hid
    obtain ⟨w, hw, hwdel⟩ := reqField_ok _ _ _ hdel
    exact ⟨⟨id, hv.trans (congrArg some (Json.asString_eq_some.1 hvid))⟩,
      deleted, hw.trans (congrArg some (Json.asBool_eq_some.1 hwdel))⟩
  · cases h

/-- The `Tombstone` variant reads a value shaped as one: its `id` and its `deleted`. -/
theorem tombstoneFields_of_shaped {j : Json} (h : TombstoneShaped j) :
    ∃ p, tombstoneFields j = .ok p :=
  match j, h with
  | .obj _, ⟨⟨id, hid⟩, deleted, hdel⟩ => ⟨(id, deleted), by
    simp [tombstoneFields, reqField, hid, hdel, Json.asString, Json.asBool, pure, Except.pure]⟩

/-- Every `MaybeTombstone<PasswordRecord>` is encoded and decoded back to itself: a
tombstone's map is read by `Tombstone`, and a record's encoding, which has no `deleted`,
falls through to `Record`. -/
theorem deserialize_serialize_password (m : MaybeTombstone PasswordRecord) :
    deserialize PasswordRecord.deserialize (serialize PasswordRecord.serialize m) = .ok m := by
  cases m with
  | tombstone id deleted => rfl
  | record r =>
    obtain ⟨fs, hfs, hdel⟩ := PasswordRecord.serialize_lookup_deleted r
    have hnot : ∀ p, tombstoneFields (.obj fs) ≠ .ok p := fun p hp => by
      obtain ⟨-, deleted, hd⟩ := tombstoneFields_shaped hp
      cases hdel.symm.trans hd
    simp only [deserialize, serialize, hfs]
    split
    · exact absurd ‹_› (hnot _)
    · rw [← hfs, PasswordRecord.deserialize_serialize]

end MaybeTombstone

/-- A full password record that also carries `deleted: false` is a valid
`PasswordRecord`, but `MaybeTombstone<PasswordRecord>` reads it as a tombstone, so
`is_tombstone` holds and `record()` is `None`. -/
theorem deserialize_live_password_as_tombstone :
    PasswordRecord.deserialize (.obj [("id", .str "aaaaaaaaaaaa"),
        ("hostname", .str "https://example.com"),
        ("formSubmitURL", .str "https://example.com/login"), ("httpRealm", .null),
        ("username", .str "user"), ("password", .str "hunter2"),
        ("usernameField", .str "login"), ("passwordField", .str "pass"),
        ("timeCreated", .num 1000), ("timePasswordChanged", .num 1000),
        ("timeLastUsed", .num 2000), ("deleted", .bool false)]) = .ok PasswordRecord.sample ∧
      MaybeTombstone.deserialize PasswordRecord.deserialize (.obj [("id", .str "aaaaaaaaaaaa"),
        ("hostname", .str "https://example.com"),
        ("formSubmitURL", .str "https://example.com/login"), ("httpRealm", .null),
        ("username", .str "user"), ("password", .str "hunter2"),
        ("usernameField", .str "login"), ("passwordField", .str "pass"),
        ("timeCreated", .num 1000), ("timePasswordChanged", .num 1000),
        ("timeLastUsed", .num 2000), ("deleted", .bool false)]) =
        .ok (.tombstone "aaaaaaaaaaaa" false) :=
  ⟨rfl, rfl⟩

end BookmarkSync
