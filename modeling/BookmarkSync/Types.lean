import Mathlib.Data.Rat.Defs

/-!
# BookmarkSync.Types — GUIDs, kinds, timestamps and errors

The vocabulary every other module uses:

* the five reserved roots and the translation between a Places GUID and a Sync
  record id (`idToGuid`, `guidToId`, from `bookmark_sync/record.rs`). The table of
  wire aliases (`BookmarkRootGuid::from_sync_record_id`, `as_sync_record_id`) is not
  in the source we have; it is modelled from the spec, which names the aliases
  `menu`, `toolbar`, `unfiled`, `mobile` and `places`;
* the item kinds and validities of the mirror, and the local item types;
* `ServerTimestamp`, seconds as the server gives them;
* the errors the engine raises, and `Fault`, which also records a panic.

The translation lemmas at the end say exactly where the two id spaces differ:
`guidToId_eq_self_iff` — an emitted id equals the stored GUID unless the GUID is a
reserved root — is what the acknowledgment results of `Finalize` turn on.
-/

namespace BookmarkSync

/-! ## Reserved roots -/

/-- The reserved roots. `storage/bookmarks.rs` in the source has the older
`BookmarkRootGuids` with the same five GUIDs. -/
inductive BookmarkRootGuid where
  | root | menu | toolbar | unfiled | mobile
  deriving DecidableEq, Repr

namespace BookmarkRootGuid

/-- `as_guid`: the 12-character Places GUID of a root. -/
def asGuid : BookmarkRootGuid → String
  | root => "root________"
  | menu => "menu________"
  | toolbar => "toolbar_____"
  | unfiled => "unfiled_____"
  | mobile => "mobile______"

/-- `from_guid`. -/
def fromGuid : String → Option BookmarkRootGuid
  | "root________" => some root
  | "menu________" => some menu
  | "toolbar_____" => some toolbar
  | "unfiled_____" => some unfiled
  | "mobile______" => some mobile
  | _ => none

/-- Modelled from the spec: `as_sync_record_id`, missing from the source. The spec's
reserved id aliases on the wire are `menu`, `toolbar`, `unfiled`, `mobile`, and
`places` for the root. -/
def asSyncRecordId : BookmarkRootGuid → String
  | root => "places"
  | menu => "menu"
  | toolbar => "toolbar"
  | unfiled => "unfiled"
  | mobile => "mobile"

/-- Modelled from the spec: `from_sync_record_id`, missing from the source; the
inverse of `asSyncRecordId` on the five aliases. -/
def fromSyncRecordId : String → Option BookmarkRootGuid
  | "places" => some root
  | "menu" => some menu
  | "toolbar" => some toolbar
  | "unfiled" => some unfiled
  | "mobile" => some mobile
  | _ => none

/-- Modelled from the spec: `user_roots`, the direct user-content roots. -/
def userRoots : List BookmarkRootGuid := [menu, toolbar, unfiled, mobile]

@[simp] theorem fromGuid_asGuid (r : BookmarkRootGuid) : fromGuid r.asGuid = some r := by
  cases r <;> rfl

@[simp] theorem fromSyncRecordId_asSyncRecordId (r : BookmarkRootGuid) :
    fromSyncRecordId r.asSyncRecordId = some r := by
  cases r <;> rfl

@[simp] theorem fromGuid_asSyncRecordId (r : BookmarkRootGuid) :
    fromGuid r.asSyncRecordId = none := by
  cases r <;> rfl

@[simp] theorem fromSyncRecordId_asGuid (r : BookmarkRootGuid) :
    fromSyncRecordId r.asGuid = none := by
  cases r <;> rfl

theorem asGuid_of_fromGuid {g : String} {r : BookmarkRootGuid} (h : fromGuid g = some r) :
    r.asGuid = g := by
  unfold fromGuid at h
  split at h <;> cases h <;> rfl

theorem asSyncRecordId_of_fromSyncRecordId {i : String} {r : BookmarkRootGuid}
    (h : fromSyncRecordId i = some r) : r.asSyncRecordId = i := by
  unfold fromSyncRecordId at h
  split at h <;> cases h <;> rfl

end BookmarkRootGuid

open BookmarkRootGuid

/-! ## Record ids and GUIDs -/

/-- `id_to_guid`: a Sync record id as a Places GUID. Ids are GUIDs except the aliases
of the roots. -/
def idToGuid (id : String) : String :=
  ((fromSyncRecordId id).map asGuid).getD id

/-- `guid_to_id`: a Places GUID as a Sync record id. -/
def guidToId (guid : String) : String :=
  ((fromGuid guid).map asSyncRecordId).getD guid

theorem idToGuid_of_alias {id : String} {r : BookmarkRootGuid}
    (h : fromSyncRecordId id = some r) : idToGuid id = r.asGuid := by
  simp [idToGuid, h]

theorem idToGuid_of_not_alias {id : String} (h : fromSyncRecordId id = none) :
    idToGuid id = id := by
  simp [idToGuid, h]

/-- Decoding leaves an optional id that is not an alias as it is. -/
theorem map_idToGuid_of_not_alias {x : Option String} (h : ∀ id ∈ x, fromSyncRecordId id = none) :
    x.map idToGuid = x := by
  cases x with
  | none => rfl
  | some id => rw [Option.map_some', idToGuid_of_not_alias (h id rfl)]

theorem guidToId_of_root {g : String} {r : BookmarkRootGuid} (h : fromGuid g = some r) :
    guidToId g = r.asSyncRecordId := by
  simp [guidToId, h]

theorem guidToId_of_not_root {g : String} (h : fromGuid g = none) : guidToId g = g := by
  simp [guidToId, h]

/-- The emitted id of a GUID is the GUID itself exactly when it is not a reserved root. -/
theorem guidToId_eq_self_iff (g : String) : guidToId g = g ↔ fromGuid g = none := by
  cases h : fromGuid g with
  | none => simp [guidToId_of_not_root h]
  | some r =>
    rw [guidToId_of_root h, ← asGuid_of_fromGuid h]
    cases r <;> decide

/-- Decoding an emitted id gives the GUID back, unless the GUID is itself an alias. -/
theorem idToGuid_guidToId {g : String} (h : fromSyncRecordId g = none) :
    idToGuid (guidToId g) = g := by
  cases hg : fromGuid g with
  | none => rw [guidToId_of_not_root hg, idToGuid_of_not_alias h]
  | some r => rw [guidToId_of_root hg, idToGuid_of_alias (fromSyncRecordId_asSyncRecordId r),
      asGuid_of_fromGuid hg]

/-- Emitting a decoded id gives the id back, unless the id is itself a root GUID. -/
theorem guidToId_idToGuid {id : String} (h : fromGuid id = none) :
    guidToId (idToGuid id) = id := by
  cases hi : fromSyncRecordId id with
  | none => rw [idToGuid_of_not_alias hi, guidToId_of_not_root h]
  | some r => rw [idToGuid_of_alias hi, guidToId_of_root (fromGuid_asGuid r),
      asSyncRecordId_of_fromSyncRecordId hi]

/-! ## Kinds, validity, local types -/

/-- `SyncedBookmarkKind`: the kind column of the mirror. -/
inductive SyncedBookmarkKind where
  | bookmark | query | folder | livemark | separator
  deriving DecidableEq, Repr

/-- `SyncedBookmarkValidity`: what ingestion decided about a record's content. -/
inductive SyncedBookmarkValidity where
  | valid | reupload | replace
  deriving DecidableEq, Repr

/-- `BookmarkType`, the local item types. The `type` column of `moz_bookmarks` holds
their discriminants, Desktop's `1`, `2`, `3` (the source's `types.rs` is not in src). -/
inductive BookmarkType where
  | bookmark | folder | separator
  deriving DecidableEq, Repr

/-- `BookmarkType as u8`. -/
def BookmarkType.toU8 : BookmarkType → Nat
  | bookmark => 1
  | folder => 2
  | separator => 3

/-- Modelled from the spec: `BookmarkType::from_u8`, missing from the source; the
inverse of `toU8`, and `None` for any other value. -/
def BookmarkType.fromU8 : Nat → Option BookmarkType
  | 1 => some .bookmark
  | 2 => some .folder
  | 3 => some .separator
  | _ => none

/-- `SyncStatus` of a local item. -/
inductive SyncStatus where
  | unknown | new | normal
  deriving DecidableEq, Repr

/-! ## Timestamps -/

/-- `sync15::ServerTimestamp`: seconds, an `f64` in the source and a rational here. -/
structure ServerTimestamp where
  secs : ℚ
  deriving DecidableEq, Repr

/-- `as_millis() as i64`: whole milliseconds, rounded down. -/
def ServerTimestamp.asMillis (t : ServerTimestamp) : Int := Rat.floor (t.secs * 1000)

/-! ## Errors -/

/-- `InvalidPlaceInfo`: why `maybe_store_url` refused a URL, or `insert_bookmark` an item
(a parent GUID that is the root's, a parent that is missing or no folder). -/
inductive InvalidPlaceInfo where
  | urlTooLong | noUrl | invalidGuid | invalidParent
  deriving DecidableEq, Repr

/-- A `serde_json` error, with the field it names. -/
inductive JsonError where
  | missingField (field : String)
  | invalidType (field : String)
  deriving DecidableEq, Repr

/-- The crate's `Error`, with the kinds this code can raise. -/
inductive Error where
  | invalidPlaceInfo (reason : InvalidPlaceInfo)
  /-- `url::ParseError`. -/
  | urlParse
  | json (e : JsonError)
  /-- A `rusqlite` read of a NULL column as a non-optional value. -/
  | invalidColumnType (column : String)
  /-- A `rusqlite` read of an integer out of the range of the type read. -/
  | integralValueOutOfRange (column : String)
  /-- A failed `rusqlite` statement, e.g. a violated constraint. -/
  | sql (msg : String)
  deriving DecidableEq, Repr

/-- How a call ends without a value: an `Err`, or a panic (`panic!`, `unimplemented!`). -/
inductive Fault where
  | err (e : Error)
  | panic (msg : String)
  deriving DecidableEq, Repr

/-- A fallible call of the engine. -/
abbrev Result (α : Type) := Except Fault α

@[simp] theorem Result.map_pure {α β : Type} (f : α → β) (a : α) :
    Except.map f (pure a : Result α) = pure (f a) := rfl

@[simp] theorem except_map_ok {ε α β : Type} (f : α → β) (a : α) :
    Except.map f (.ok a : Except ε α) = .ok (f a) := rfl

@[simp] theorem except_map_error {ε α β : Type} (f : α → β) (e : ε) :
    Except.map f (.error e : Except ε α) = .error e := rfl

@[simp] theorem except_ok_bind {ε α β : Type} (a : α) (f : α → Except ε β) :
    (Except.ok a >>= f) = f a := rfl

@[simp] theorem except_error_bind {ε α β : Type} (e : ε) (f : α → Except ε β) :
    (Except.error e >>= f) = Except.error e := rfl

/-- A chain of `?`s that succeeded: its first step succeeded. -/
theorem except_bind_eq_ok {ε α β : Type} {x : Except ε α} {f : α → Except ε β} {b : β}
    (h : (x >>= f) = .ok b) : ∃ a, x = .ok a ∧ f a = .ok b := by
  cases x with
  | error e => cases h
  | ok a => exact ⟨a, rfl, h⟩

/-- A chain of `?`s that failed: its first step failed, or its rest did. -/
theorem except_bind_eq_error {ε α β : Type} {x : Except ε α} {f : α → Except ε β} {e : ε}
    (h : (x >>= f) = .error e) : x = .error e ∨ ∃ a, x = .ok a ∧ f a = .error e := by
  cases x with
  | error e' => exact .inl (by cases h; rfl)
  | ok a => exact .inr ⟨a, rfl, h⟩

section MapM
variable {α β γ ε : Type} {f : α → Except ε β}

/-- A loop of `?`s over a list succeeds when every step does. -/
theorem mapM_ok_of_ok : ∀ {l : List α}, (∀ a ∈ l, ∃ b, f a = .ok b) → ∃ l', l.mapM f = .ok l'
  | [], _ => ⟨[], rfl⟩
  | a :: l, h => by
    obtain ⟨b, hb⟩ := h a (List.mem_cons_self _ _)
    obtain ⟨l', hl'⟩ := mapM_ok_of_ok fun x hx => h x (List.mem_cons_of_mem _ hx)
    exact ⟨b :: l', by rw [List.mapM_cons, hb, hl']; rfl⟩

/-- A loop of `?`s over a list that succeeded: every step did. -/
theorem ok_of_mapM_ok : ∀ {l : List α} {l' : List β}, l.mapM f = .ok l' →
    ∀ a ∈ l, ∃ b, f a = .ok b
  | [], _, _ => fun _ h => nomatch h
  | a :: l, l', h => by
    simp only [List.mapM_cons] at h
    obtain ⟨b, hb, h⟩ := except_bind_eq_ok h
    obtain ⟨bs, hbs, -⟩ := except_bind_eq_ok h
    exact List.forall_mem_cons.2 ⟨⟨b, hb⟩, ok_of_mapM_ok hbs⟩

/-- What a loop of `?`s that succeeded gives, step by step. -/
theorem map_of_mapM_ok {g : β → γ} {g' : α → γ} (hf : ∀ a b, f a = .ok b → g b = g' a) :
    ∀ {l : List α} {l' : List β}, l.mapM f = .ok l' → l'.map g = l.map g'
  | [], _, h => by cases h; rfl
  | a :: l, l', h => by
    simp only [List.mapM_cons] at h
    obtain ⟨b, hb, h⟩ := except_bind_eq_ok h
    obtain ⟨bs, hbs, h⟩ := except_bind_eq_ok h
    cases h
    simp [hf a b hb, map_of_mapM_ok hf hbs]
end MapM

/-- `?` on a `Result<_, Error>`. -/
def liftErr {α : Type} : Except Error α → Result α
  | .ok a => .ok a
  | .error e => .error (.err e)

@[simp] theorem liftErr_ok {α : Type} (a : α) : liftErr (.ok a : Except Error α) = .ok a := rfl

@[simp] theorem liftErr_error {α : Type} (e : Error) :
    liftErr (.error e : Except Error α) = .error (.err e) := rfl

theorem liftErr_eq_ok {α : Type} {x : Except Error α} {a : α} (h : liftErr x = .ok a) :
    x = .ok a := by
  cases x with
  | error e => cases h
  | ok a => cases h; rfl

theorem liftErr_eq_error {α : Type} {x : Except Error α} {f : Fault} (h : liftErr x = .error f) :
    ∃ e, x = .error e ∧ f = .err e := by
  cases x with
  | error e => cases h; exact ⟨e, rfl, rfl⟩
  | ok a => cases h

end BookmarkSync
