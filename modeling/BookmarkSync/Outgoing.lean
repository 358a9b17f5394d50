import Mathlib.Data.List.Sort
import BookmarkSync.Local
import BookmarkSync.Record

/-!
# BookmarkSync.Outgoing — staging, emitting and acknowledging records

The outgoing half of `bookmark_sync/store.rs`:

* `stageLocalItemsToUpload` fills the scratch tables `idsToWeaklyUpload`,
  `itemsToUpload` and `structureToUpload` from the local tree;
* `fetchOutgoingRecords` turns the staged rows into payloads: a tombstone for a deleted
  row, a record by kind for a live one, livemarks skipped, a folder's children from
  `structureToUpload`. `fetchOutgoingRecords_ids` says which payloads come out, row by
  row, from what one row emits (`outgoingPayload_id`), and `fetchOutgoingRecords_ok_iff`
  when it returns at all: only if no staged row is a query or a separator, which the
  record encoder leaves `unimplemented!`, and no column its kind reads is `NULL`;
* `pushSyncedItems` marks the acknowledged rows as uploaded, which fires the
  `pushUploadedChanges` trigger, advances `bookmarks_last_sync_time`, and empties
  `itemsToUpload`.

The temporary tables' schema is not in the source. The `INSERT OR IGNORE` of staged
tombstones is there for a conflict on `itemsToUpload.guid`, so the model takes a
`UNIQUE` GUID as that table's one constraint; `structureToUpload` has none. The
`pushUploadedChanges` trigger is modelled from the spec.
-/

namespace BookmarkSync

/-- `LAST_SYNC_META_KEY`. -/
def lastSyncMetaKey : String := "bookmarks_last_sync_time"

/-- `put_meta`: `REPLACE INTO moz_meta`. -/
def putMeta (key : String) (value : Int) (db : Db) : Db :=
  { db with meta := replaceBy Prod.fst (key, value) db.meta }

/-! ## Staging -/

/-- `INSERT OR IGNORE` into a table keyed by its whole row. -/
def insertOrIgnore {α : Type} [DecidableEq α] (rows t : List α) : List α :=
  rows.foldl (fun t r => if r ∈ t then t else t ++ [r]) t

/-- The ids the first statement of `stage_local_items_to_upload` stages weakly: local
items whose merged item took the remote side and whose local `dateAdded` is older than
the mirror's. -/
def weaklyUploadedIds (db : Db) : List Int :=
  db.bookmarks.flatMap fun b => db.mergedTree.flatMap fun r =>
    (db.synced.filter fun v => r.mergedGuid = b.guid ∧ r.remoteGuid = some v.guid ∧
      r.useRemote = true ∧ v.dateAdded.any (b.dateAdded < ·)).map fun _ => b.id

/-- The `itemsToUpload` row staged for a local item, its URL read through `placeId`. -/
def UploadRow.ofLocalItem (places : List PlaceRow) (s : LocalItem) : UploadRow :=
  let url := (places.find? fun h => s.placeId = some h.id).map PlaceRow.url
  { id := some s.id, guid := s.guid, syncChangeCounter := s.syncChangeCounter,
    isDeleted := false, parentGuid := some s.parentGuid, parentTitle := s.parentTitle,
    dateAdded := some s.dateAdded, title := s.title, placeId := s.placeId,
    kind := some (typeToKind s.type url), url, keyword := none, position := some s.position,
    tagFolderName := none, uploadedAt := none }

/-- The rows the second statement stages: local items with a change counter, or staged
weakly. -/
def stagedItems (db : Db) : List UploadRow :=
  ((localItems db.bookmarks).filter fun s =>
    s.syncChangeCounter ≥ 1 ∨ s.id ∈ db.idsToWeaklyUpload).map (UploadRow.ofLocalItem db.places)

/-- `INSERT INTO itemsToUpload`: a row whose GUID is already staged breaks the table's
`UNIQUE` GUID. -/
def insertItemsToUpload : List UploadRow → List UploadRow → Except Error (List UploadRow)
  | [], t => .ok t
  | r :: rs, t =>
    if t.any (·.guid == r.guid) then .error (.sql "UNIQUE constraint failed: itemsToUpload.guid")
    else insertItemsToUpload rs (t ++ [r])

/-- The rows the third statement stages: every child of a staged row, by the row's id. -/
def stagedStructure (db : Db) : List StructureUploadRow :=
  db.bookmarks.flatMap fun b =>
    (db.itemsToUpload.filter fun o => o.id = some b.parent).map fun _ => ⟨b.guid, b.parent, b.position⟩

/-- A staged tombstone: `(guid, syncChangeCounter, isDeleted) = (guid, 1, 1)`. -/
def UploadRow.tombstone (guid : String) : UploadRow :=
  { id := none, guid, syncChangeCounter := 1, isDeleted := true, parentGuid := none,
    parentTitle := none, dateAdded := none, title := none, placeId := none, kind := none,
    url := none, keyword := none, position := none, tagFolderName := none, uploadedAt := none }

/-- The fourth statement: `INSERT OR IGNORE` a tombstone per local tombstone. -/
def insertTombstones (guids : List String) (t : List UploadRow) : List UploadRow :=
  guids.foldl (fun t g => if t.any (·.guid == g) then t else t ++ [UploadRow.tombstone g]) t

/-- `stage_local_items_to_upload`. -/
def stageLocalItemsToUpload (db : Db) : Result Db := do
  let db := { db with idsToWeaklyUpload := insertOrIgnore (weaklyUploadedIds db) db.idsToWeaklyUpload }
  let items ← liftErr (insertItemsToUpload (stagedItems db) db.itemsToUpload)
  let db := { db with itemsToUpload := items }
  let db := { db with structureToUpload := db.structureToUpload ++ stagedStructure db }
  pure { db with itemsToUpload := insertTombstones db.bookmarksDeleted db.itemsToUpload }

/-- `INSERT OR IGNORE` keeps what was there and adds what was not. -/
theorem mem_insertOrIgnore {α : Type} [DecidableEq α] {x : α} :
    ∀ {rows t : List α}, x ∈ insertOrIgnore rows t ↔ x ∈ rows ∨ x ∈ t
  | [], _ => by simp [insertOrIgnore]
  | r :: rows, t => by
    rw [insertOrIgnore, List.foldl_cons, ← insertOrIgnore, mem_insertOrIgnore]
    split_ifs with hr
    · by_cases hx : x = r <;> simp [hx, hr]
    · simp only [List.mem_append, List.mem_singleton, List.mem_cons]; tauto

/-- The rows after the tombstones are staged are the rows before, and tombstones. -/
theorem forall_mem_insertTombstones {P : UploadRow → Prop} (hP : ∀ g, P (UploadRow.tombstone g)) :
    ∀ {guids : List String} {t : List UploadRow},
      (∀ row ∈ insertTombstones guids t, P row) ↔ ∀ row ∈ t, P row
  | [], _ => Iff.rfl
  | g :: guids, t => by
    rw [insertTombstones, List.foldl_cons, ← insertTombstones, forall_mem_insertTombstones hP]
    split_ifs
    · rfl
    · simp only [List.mem_append, List.mem_singleton, or_imp, forall_and, forall_eq, hP, and_true]

/-- An `INSERT` of rows that succeeded appended them. -/
theorem insertItemsToUpload_eq_ok : ∀ {rows t t' : List UploadRow},
    insertItemsToUpload rows t = .ok t' → t' = t ++ rows
  | [], _, _, h => by cases h; simp
  | r :: rows, t, t', h => by
    unfold insertItemsToUpload at h
    split_ifs at h
    rw [insertItemsToUpload_eq_ok h, List.append_assoc, List.singleton_append]

/-- What a staging that succeeded leaves in `itemsToUpload`: the rows already there, the
local items it stages, and the tombstones. -/
theorem stageLocalItemsToUpload_itemsToUpload {db db' : Db}
    (h : stageLocalItemsToUpload db = .ok db') :
    db'.itemsToUpload = insertTombstones db.bookmarksDeleted (db.itemsToUpload ++ stagedItems
      { db with idsToWeaklyUpload := insertOrIgnore (weaklyUploadedIds db) db.idsToWeaklyUpload }) := by
  obtain ⟨items, hitems, h⟩ := except_bind_eq_ok h
  cases h
  rw [insertItemsToUpload_eq_ok (liftErr_eq_ok hitems)]

/-! ## Emitting -/

/-- `OutgoingChangeset`: the collection, the timestamp, and the payloads to upload. -/
structure OutgoingChangeset where
  collection : String
  timestamp : ServerTimestamp
  changes : List Payload
  deriving Repr

/-- `row.get_checked` of a column that must not be `NULL`. -/
def getChecked {α : Type} (column : String) : Option α → Result α
  | some a => pure a
  | none => throw (.err (.invalidColumnType column))

@[simp] theorem getChecked_some {α : Type} (column : String) (a : α) :
    getChecked column (some a) = .ok a := rfl

@[simp] theorem getChecked_none {α : Type} (column : String) :
    getChecked column (none : Option α) = .error (.err (.invalidColumnType column)) := rfl

/-- A column is read exactly when it is not `NULL`. -/
@[simp] theorem getChecked_eq_ok {α : Type} {column : String} {o : Option α} {a : α} :
    getChecked column o = .ok a ↔ o = some a := by
  cases o <;> simp [getChecked, pure, Except.pure]

/-- The staged children of the folder with local id `parentId`, as
`ORDER BY parentId, position` lists them. -/
def childGuids (staged : List StructureUploadRow) (parentId : Int) : List String :=
  ((staged.filter (·.parentId = parentId)).insertionSort
    fun a b => a.position ≤ b.position).map (·.guid)

/-- The body of `fetch_outgoing_records`' loop for one staged row: the payload it emits,
if any, and the folders whose children have been taken out of the map. -/
def outgoingPayload (staged : List StructureUploadRow) (taken : List Int) (row : UploadRow) :
    Result (Option Payload × List Int) :=
  if row.isDeleted then pure (some (Payload.newTombstone (guidToId row.guid)), taken)
  else do
    let parentGuid ← getChecked "parentGuid" row.parentGuid
    let parentTitle := row.parentTitle.getD ""
    let dateAdded ← getChecked "dateAdded" row.dateAdded
    let kind ← getChecked "kind" row.kind
    let (record, taken) ← match kind with
      | .bookmark => do
        let title := row.title.getD ""
        let url ← getChecked "url" row.url
        pure (some (BookmarkItemRecord.bookmark
          { guid := row.guid, parentGuid := some parentGuid, hasDupe := true,
            parentTitle := some parentTitle, dateAdded := some dateAdded, title := some title,
            url := some url, keyword := none, tags := [] }), taken)
      | .query => do
        let title := row.title.getD ""
        let url ← getChecked "url" row.url
        pure (some (BookmarkItemRecord.query
          { guid := row.guid, parentGuid := some parentGuid, hasDupe := true,
            parentTitle := some parentTitle, dateAdded := some dateAdded, title := some title,
            url := some url, tagFolderName := none }), taken)
      | .folder => do
        let title := row.title.getD ""
        let localId ← getChecked "id" row.id
        let children := if localId ∈ taken then [] else childGuids staged localId
        pure (some (BookmarkItemRecord.folder
          { guid := row.guid, parentGuid := some parentGuid, hasDupe := true,
            parentTitle := some parentTitle, dateAdded := some dateAdded, title := some title,
            children }), localId :: taken)
      | .livemark => pure (none, taken)
      | .separator => do
        let position ← getChecked "position" row.position
        pure (some (BookmarkItemRecord.separator
          { guid := row.guid, parentGuid := some parentGuid, hasDupe := true,
            parentTitle := some parentTitle, dateAdded := some dateAdded,
            position := some position }), taken)
    match record with
    | none => pure (none, taken)
    | some r => do
      let p ← Payload.fromRecord r
      pure (some p, taken)

/-- What one row emits: a tombstone under the wire id of a deleted row's GUID, nothing for
a livemark, and a live record under the wire id of its GUID for any other kind. -/
theorem outgoingPayload_id {staged : List StructureUploadRow} {taken taken' : List Int}
    {row : UploadRow} {po : Option Payload}
    (h : outgoingPayload staged taken row = .ok (po, taken')) :
    po.map (fun p => (p.id, p.deleted)) =
      if row.isDeleted then some (guidToId row.guid, true)
      else if row.kind = some .livemark then none else some (guidToId row.guid, false) := by
  unfold outgoingPayload at h
  split_ifs at h ⊢ with hd hk
  · cases h; rfl
  all_goals
    obtain ⟨_, -, h⟩ := except_bind_eq_ok h
    obtain ⟨_, -, h⟩ := except_bind_eq_ok h
    obtain ⟨k, hk', h⟩ := except_bind_eq_ok h
    rw [getChecked_eq_ok] at hk'
  · cases hk.symm.trans hk'
    cases h; rfl
  · have hkl : k ≠ .livemark := by rintro rfl; exact hk hk'
    cases k <;> simp only [ne_eq, not_true_eq_false] at hkl <;>
    ( dsimp only at h
      obtain ⟨_, -, h⟩ := except_bind_eq_ok h
      simp only [pure_bind] at h
      obtain ⟨p, hp, h⟩ := except_bind_eq_ok h
      cases h
      obtain ⟨hi, hdel⟩ := Payload.fromRecord_id hp
      simp only [Option.map_some', hi, hdel]
      rfl)

/-- The loop of `fetch_outgoing_records` over the staged rows. -/
def outgoingPayloads (staged : List StructureUploadRow) :
    List Int → List UploadRow → Result (List Payload)
  | _, [] => pure []
  | taken, row :: rows => do
    let (p, taken) ← outgoingPayload staged taken row
    let ps ← outgoingPayloads staged taken rows
    pure (p.toList ++ ps)

/-- The loop emits, row by row, what each row emits on its own, whatever the folders
taken so far. -/
theorem outgoingPayloads_ids (staged : List StructureUploadRow) :
    ∀ {taken : List Int} {rows : List UploadRow} {ps : List Payload},
      outgoingPayloads staged taken rows = .ok ps →
      ps.map (fun p => (p.id, p.deleted)) = rows.filterMap fun row =>
        if row.isDeleted then some (guidToId row.guid, true)
        else if row.kind = some .livemark then none else some (guidToId row.guid, false)
  | _, [], _, h => by cases h; rfl
  | _, row :: rows, _, h => by
    obtain ⟨⟨po, _⟩, hrow, h⟩ := except_bind_eq_ok h
    obtain ⟨ps, hps, h⟩ := except_bind_eq_ok h
    cases h
    rw [List.map_append, outgoingPayloads_ids staged hps, List.filterMap_cons,
      ← outgoingPayload_id hrow]
    cases po <;> rfl

/-- `fetch_outgoing_records`. -/
def fetchOutgoingRecords (timestamp : ServerTimestamp) (db : Db) : Result OutgoingChangeset := do
  let changes ← outgoingPayloads db.structureToUpload [] db.itemsToUpload
  pure ⟨"bookmarks", timestamp, changes⟩

/-- Every staged row but a livemark is emitted as one payload, in the order of
`itemsToUpload`: a deleted row as a tombstone, a live one as a record, each under the
wire id of its GUID. -/
theorem fetchOutgoingRecords_ids (timestamp : ServerTimestamp) (db : Db) (o : OutgoingChangeset)
    (h : fetchOutgoingRecords timestamp db = .ok o) :
    o.changes.map (fun p => (p.id, p.deleted)) = db.itemsToUpload.filterMap fun row =>
      if row.isDeleted then some (guidToId row.guid, true)
      else if row.kind = some .livemark then none else some (guidToId row.guid, false) := by
  obtain ⟨ps, hps, h⟩ := except_bind_eq_ok h
  cases h
  exact outgoingPayloads_ids _ hps

/-- A staged tombstone, livemark and root: the livemark is skipped, and the root goes
out under its wire id. -/
theorem fetchOutgoingRecords_ids_staged :
    match fetchOutgoingRecords ⟨0⟩ { Db.empty with
        itemsToUpload := [UploadRow.tombstone "bookmarkAAAA",
          { (UploadRow.tombstone "livemarkAAAA") with
            isDeleted := false, parentGuid := some "menu________", dateAdded := some 0,
            kind := some .livemark },
          { (UploadRow.tombstone "unfiled_____") with
            isDeleted := false, id := some 2, parentGuid := some "root________",
            dateAdded := some 0, kind := some .folder }] } with
    | .ok o => o.changes.map (fun p => (p.id, p.deleted)) = [("bookmarkAAAA", true), ("unfiled", false)]
    | .error _ => False := by
  split
  next _ h => exact (fetchOutgoingRecords_ids _ _ _ h).trans (by decide)
  next h => cases h

/-! ## What the loop can emit -/

/-- A staged row `fetch_outgoing_records` can emit: a tombstone, or a live row with the
columns the loop reads for its kind, of a kind the record encoder implements (a bookmark
with a URL, a folder with a local id), or a livemark, which it skips. -/
def UploadRow.Emittable (row : UploadRow) : Prop :=
  row.isDeleted = true ∨ row.parentGuid.isSome ∧ row.dateAdded.isSome ∧
    (row.kind = some .bookmark ∧ row.url.isSome ∨ row.kind = some .folder ∧ row.id.isSome ∨
      row.kind = some .livemark)

instance : DecidablePred UploadRow.Emittable := fun _ => inferInstanceAs (Decidable (_ ∨ _))

/-- What the loop fails with: a `NULL` in a column it reads, or the record encoder's
`unimplemented!` for a query or a separator. -/
def outgoingFaults : List Fault :=
  (["parentGuid", "dateAdded", "kind", "url", "id", "position"].map
      fun column => .err (.invalidColumnType column)) ++
    [.panic "not implemented: TODO: Serialize queries",
     .panic "not implemented: TODO: Serialize separators"]

/-- One row is emitted exactly when it is emittable, and fails otherwise with one of
`outgoingFaults`. -/
theorem outgoingPayload_cases (staged : List StructureUploadRow) (taken : List Int)
    (row : UploadRow) :
    (∃ x, outgoingPayload staged taken row = .ok x) ∧ row.Emittable ∨
      ∃ f ∈ outgoingFaults, outgoingPayload staged taken row = .error f ∧ ¬row.Emittable := by
  obtain ⟨id, guid, counter, deleted, pg, pt, da, title, pl, kind, url, kw, pos, tfn, up⟩ := row
  unfold outgoingPayload UploadRow.Emittable
  cases deleted
  case true => simp [pure, Except.pure]
  case false =>
  cases pg; · simp [outgoingFaults]
  cases da; · simp [outgoingFaults]
  cases kind with
  | none => simp [outgoingFaults]
  | some k =>
  cases k
  case bookmark =>
    cases url
    · simp [outgoingFaults]
    · simpa using ⟨_, _, rfl⟩
  case query => cases url <;> simp [outgoingFaults]
  case folder =>
    cases id
    · simp [outgoingFaults]
    · simpa using ⟨_, _, rfl⟩
  case livemark => simp [pure, Except.pure]
  case separator => cases pos <;> simp [outgoingFaults]

/-- The loop emits its rows exactly when each is emittable, whatever the folders taken,
and fails otherwise with one of `outgoingFaults`. -/
theorem outgoingPayloads_cases (staged : List StructureUploadRow) :
    ∀ (taken : List Int) (rows : List UploadRow),
      (∃ ps, outgoingPayloads staged taken rows = .ok ps) ∧ (∀ row ∈ rows, row.Emittable) ∨
        ∃ f ∈ outgoingFaults, outgoingPayloads staged taken rows = .error f ∧
          ¬∀ row ∈ rows, row.Emittable
  | _, [] => .inl ⟨⟨[], rfl⟩, fun _ h => nomatch h⟩
  | taken, row :: rows => by
    rcases outgoingPayload_cases staged taken row with ⟨⟨⟨po, taken'⟩, h⟩, he⟩ | ⟨f, hf, h, he⟩
    · rcases outgoingPayloads_cases staged taken' rows with ⟨⟨ps, hs⟩, hall⟩ | ⟨f, hf, hs, hall⟩
      · exact .inl ⟨⟨_, by simp only [outgoingPayloads, h, hs, except_ok_bind]; rfl⟩,
          List.forall_mem_cons.2 ⟨he, hall⟩⟩
      · exact .inr ⟨f, hf, by simp only [outgoingPayloads, h, hs, except_ok_bind, except_error_bind],
          fun hall' => hall (List.forall_mem_cons.1 hall').2⟩
    · exact .inr ⟨f, hf, by simp only [outgoingPayloads, h, except_error_bind],
        fun hall => he (hall _ (List.mem_cons_self _ _))⟩

/-- `fetch_outgoing_records` returns a changeset exactly when every staged row is
emittable. -/
theorem exists_fetchOutgoingRecords_ok (timestamp : ServerTimestamp) (db : Db) :
    (∃ o, fetchOutgoingRecords timestamp db = .ok o) ↔ ∀ row ∈ db.itemsToUpload, row.Emittable := by
  rcases outgoingPayloads_cases db.structureToUpload [] db.itemsToUpload with
    ⟨⟨ps, h⟩, hall⟩ | ⟨f, -, h, hall⟩
  · simpa [fetchOutgoingRecords, h, pure, Except.pure] using hall
  · simp [fetchOutgoingRecords, h, hall]

/-- `fetch_outgoing_records` returns a changeset exactly when every staged row is
emittable: one staged query or separator, or one `NULL` in a column its kind reads, and
it fails. It fails only with a `NULL` column or the encoder's `unimplemented!`. -/
theorem fetchOutgoingRecords_ok_iff (timestamp : ServerTimestamp) (db : Db) :
    ((∃ o, fetchOutgoingRecords timestamp db = .ok o) ↔ ∀ row ∈ db.itemsToUpload, row.Emittable) ∧
      ∀ f, fetchOutgoingRecords timestamp db = .error f → f ∈ outgoingFaults := by
  refine ⟨exists_fetchOutgoingRecords_ok timestamp db, fun f h => ?_⟩
  rcases outgoingPayloads_cases db.structureToUpload [] db.itemsToUpload with
    ⟨⟨ps, hps⟩, -⟩ | ⟨f', hf', hps, -⟩ <;>
    simp only [fetchOutgoingRecords, hps, except_ok_bind, except_error_bind] at h
  · cases h
  · cases h; exact hf'

/-- The row staged for a local item is emittable exactly when the item is a folder, or a
bookmark whose place has a URL that is not a `place:` query. -/
theorem UploadRow.ofLocalItem_emittable_iff (places : List PlaceRow) (s : LocalItem) :
    (UploadRow.ofLocalItem places s).Emittable ↔ s.type = BookmarkType.folder.toU8 ∨
      s.type = BookmarkType.bookmark.toU8 ∧
        ∃ h ∈ places.find? (fun h => s.placeId = some h.id), h.url.take 6 ≠ "place:" := by
  unfold UploadRow.Emittable UploadRow.ofLocalItem
  generalize places.find? (fun h => s.placeId = some h.id) = o
  cases o <;> simp only [typeToKind, Option.map_some', Option.map_none'] <;> split_ifs <;>
    simp_all [BookmarkType.toU8]

/-! ## Acknowledging -/

/-- The `UPDATE itemsToUpload SET uploadedAt = ... WHERE guid IN (...)` of
`push_synced_items`, over all its chunks. -/
def markUploaded (uploadedAt : Int) (guids : List String) (rows : List UploadRow) :
    List UploadRow :=
  rows.map fun r => if r.guid ∈ guids then { r with uploadedAt := some uploadedAt } else r

/-- Modelled from the spec: the `pushUploadedChanges` trigger, missing from the source,
for the rows an `UPDATE` marked. A live item's change counter goes down by the counter
staged for it and its status becomes `Normal`; an uploaded tombstone leaves
`moz_bookmarks_deleted`. The trigger's refresh of the mirror row is not modelled. -/
def pushUploadedChanges (uploaded : List UploadRow) (db : Db) : Db :=
  { db with
    bookmarks := db.bookmarks.map fun b =>
      match uploaded.find? fun u => !u.isDeleted && u.guid == b.guid with
      | some u => { b with syncChangeCounter := b.syncChangeCounter - u.syncChangeCounter,
                           syncStatus := .normal }
      | none => b
    bookmarksDeleted := db.bookmarksDeleted.filter fun g =>
      !uploaded.any fun u => u.isDeleted && u.guid == g }

/-- `push_synced_items`. -/
def pushSyncedItems (uploadedAt : ServerTimestamp) (guids : List String) (db : Db) : Result Db :=
  let marked := db.itemsToUpload.filter fun r => r.guid ∈ guids
  let db := { db with itemsToUpload := markUploaded uploadedAt.asMillis guids db.itemsToUpload }
  let db := pushUploadedChanges marked db
  let db := putMeta lastSyncMetaKey uploadedAt.asMillis db
  pure { db with itemsToUpload := [] }

end BookmarkSync
