import BookmarkSync.Trees

/-!
# BookmarkSync.Engine — sync cycles

`BookmarksStore` as the `Store` the sync driver calls: `apply_incoming` ingests a batch,
records the server's timestamp, merges (`dogear`), applies the merge and stages outgoing
items in one transaction, and returns the outgoing changeset; the uploader then calls
`sync_finished` with the ids the server acknowledged, or fails and never calls it.

What the source does not define is gathered in `Merger`: `dogear`'s merge and the
triggers of the temporary merge tables. A transaction that fails rolls back, which here
is the caller keeping the connection it had; `applyIncoming` and `syncFinished` return
the connection they leave next to their result, so that a run of cycles can go on after
a failure. A batch that fails part-way is not kept at all, where the source keeps the
chunks its time-chunked transaction committed before the failing record.

`Merger.ofDogear` is the merger `dogear` makes of the store: the four fetches of
`BookmarkSync.Trees`, then its own merge, which is a parameter. A new remote bookmark
whose URL ingestion refused, filed in a folder, makes the fetch of new remote contents
fail, and with it every later cycle (`syncCycle_wedged`).

The record encoder implements bookmarks and folders only: after staging, the upload
returns a changeset exactly when every local item staged is a folder or a bookmark with a
URL that is not a `place:` query (`stageLocalItemsToUpload_fetch_ok_iff`), so a changed
separator fails every upload.
-/

namespace BookmarkSync

/-- What the local side takes from outside and the source does not define. -/
structure Merger where
  /-- `dogear`'s merge of the trees `fetch_local_tree` and `fetch_remote_tree` build: the
  merged descendants and the deletions. -/
  merge : Db → Result (List MergedTreeRow × List ItemToRemoveRow)
  /-- The triggers the `DELETE`s of `update_local_items` fire: they make `moz_bookmarks`
  match `mergedTree` and carry out `itemsToRemove`. -/
  applyMergeTriggers : Db → Result Db

/-- The `Merger` of `dogear`'s `merge_with_driver`: the four fetches, then `dogear`'s
merge. The fetches only read, so their order decides only which error comes first. -/
def Merger.ofDogear (clock : Clock) (d : Dogear) (applyMergeTriggers : Db → Result Db) :
    Merger where
  merge db := do
    let localTree ← fetchLocalTree clock db
    let newLocalContents ← fetchNewLocalContents db
    let remoteTree ← fetchRemoteTree clock db
    let newRemoteContents ← fetchNewRemoteContents db
    d.merge localTree newLocalContents remoteTree newRemoteContents
  applyMergeTriggers := applyMergeTriggers

/-- `update_local_items`: the merged descendants into `mergedTree`, the deletions into
`itemsToRemove`, the triggers, and `itemsToRemove` emptied. -/
def updateLocalItems (m : Merger) (descendants : List MergedTreeRow)
    (deletions : List ItemToRemoveRow) (db : Db) : Result Db := do
  let db := { db with mergedTree := db.mergedTree ++ descendants,
                      itemsToRemove := db.itemsToRemove ++ deletions }
  let db ← m.applyMergeTriggers db
  pure { db with itemsToRemove := [] }

/-- `BookmarksStore::apply`: nothing when there are no changes; else update the local
tree, stage the outgoing items, and empty `mergedTree` and `idsToWeaklyUpload`, all in one
transaction. -/
def apply (m : Merger) (descendants : List MergedTreeRow) (deletions : List ItemToRemoveRow)
    (db : Db) : Result Db :=
  if hasChanges db then do
    let db ← updateLocalItems m descendants deletions db
    let db ← stageLocalItemsToUpload db
    pure { db with mergedTree := [], idsToWeaklyUpload := [] }
  else pure db

/-- `dogear::Store::merge_with_driver`: merge, then `apply`. -/
def mergeWithDriver (m : Merger) (db : Db) : Result Db := do
  let (descendants, deletions) ← m.merge db
  apply m descendants deletions db

/-- `sync15::IncomingChangeset`: the batch, each payload with its own timestamp, and the
server's timestamp. -/
structure IncomingChangeset where
  changes : List (Payload × ServerTimestamp)
  timestamp : ServerTimestamp

/-- `Store::apply_incoming`, with the connection it leaves. Every payload is ingested with
the batch's timestamp. -/
def applyIncoming (env : Env) (m : Merger) (inbound : IncomingChangeset) (db : Db) :
    Db × Result OutgoingChangeset :=
  match ingestAll env (inbound.changes.map fun c => (inbound.timestamp, c.1)) db with
  | .error e => (db, .error e)
  | .ok db =>
    let db := putMeta lastSyncMetaKey inbound.timestamp.asMillis db
    match mergeWithDriver m db with
    | .error e => (db, .error e)
    | .ok db => (db, fetchOutgoingRecords inbound.timestamp db)

/-- `Store::sync_finished`, with the connection it leaves. -/
def syncFinished (newTimestamp : ServerTimestamp) (recordsSynced : List String) (db : Db) :
    Db × Result Unit :=
  match pushSyncedItems newTimestamp recordsSynced db with
  | .ok db' => (db', .ok ())
  | .error e => (db, .error e)

/-- How the uploader ends a cycle whose `apply_incoming` returned a changeset: it calls
`sync_finished` with a timestamp and the acknowledged ids, or it fails and does not. A
`sync_finished` that fails rolls back, which leaves the connection as not calling it. -/
inductive Finish where
  | finished (newTimestamp : ServerTimestamp) (acks : List String)
  | skipped

/-- One sync cycle: `apply_incoming`, then the uploader's end of it. -/
def syncCycle (env : Env) (m : Merger) (inbound : IncomingChangeset) (finish : Finish)
    (db : Db) : Db × Result OutgoingChangeset :=
  match applyIncoming env m inbound db, finish with
  | (db, .ok out), .finished t acks => ((syncFinished t acks db).1, .ok out)
  | r, _ => r

/-! ## Runs of cycles on the local tree of `test_apply` -/

/-- A merger with nothing to merge, whose triggers change nothing: the merge of a local
tree with no remote changes. -/
def Merger.idle : Merger := ⟨fun _ => pure ([], []), pure⟩

/-- The local tree of `test_apply`, cut down: the root, `unfiled`, and one new bookmark
`A` in it, with `A`'s URL interned; `unfiled` and `A` have changes to upload. -/
def testApplyTree : Db :=
  { Db.empty with
    bookmarks := [
      ⟨1, "root________", 0, 0, 2, none, none, 0, 0, 0, .normal⟩,
      ⟨2, "unfiled_____", 1, 3, 2, some "unfiled", none, 0, 0, 1, .normal⟩,
      ⟨3, "bookmarkAAAA", 2, 0, 1, some "A", some 1, 0, 0, 1, .new⟩],
    places := [⟨1, "placeAAAAAAA", "http://example.com/a", 20⟩] }

/-- The scratch tables outlive their cycle. After a cycle whose `sync_finished` succeeds,
`structureToUpload` still holds the cycle's row for `A`, so the next cycle that stages
`unfiled` emits it with `A` listed twice. After a cycle whose `sync_finished` is never
called, `itemsToUpload` still holds the cycle's rows, and the next cycle fails to stage
them again. -/
theorem syncCycle_keeps_scratch_rows :
    (syncCycle Env.sample Merger.idle ⟨[], ⟨0⟩⟩ (.finished ⟨0⟩ ["unfiled", "bookmarkAAAA"])
        testApplyTree).1.structureToUpload = [⟨"bookmarkAAAA", 2, 0⟩] ∧
    Except.map (fun o => o.changes.map fun p => (p.id, p.data.lookup "children"))
        (syncCycle Env.sample Merger.idle ⟨[], ⟨0⟩⟩ .skipped
          (syncCycle Env.sample Merger.idle ⟨[], ⟨0⟩⟩
            (.finished ⟨0⟩ ["unfiled", "bookmarkAAAA"]) testApplyTree).1).2 =
      .ok [("unfiled", some (.arr [.str "bookmarkAAAA", .str "bookmarkAAAA"]))] ∧
    (syncCycle Env.sample Merger.idle ⟨[], ⟨0⟩⟩ .skipped testApplyTree).1.itemsToUpload ≠ [] ∧
    (syncCycle Env.sample Merger.idle ⟨[], ⟨0⟩⟩ .skipped
        (syncCycle Env.sample Merger.idle ⟨[], ⟨0⟩⟩ .skipped testApplyTree).1).2 =
      .error (.err (.sql "UNIQUE constraint failed: itemsToUpload.guid")) :=
  ⟨by decide, rfl, by decide, rfl⟩

/-- Acknowledgments are matched against stored GUIDs, not against the ids emitted.
`apply_incoming` emits `unfiled` for the root `unfiled_____`; acknowledged by that id,
the root's row is not marked as uploaded, and its change counter stays where it was,
while `A`, whose id is its GUID, is marked and its counter goes down. -/
theorem pushSyncedItems_misses_root_ack :
    Except.map (fun o => o.changes.map (·.id))
        (applyIncoming Env.sample Merger.idle ⟨[], ⟨0⟩⟩ testApplyTree).2 =
      .ok ["unfiled", "bookmarkAAAA"] ∧
    (markUploaded 0 ["unfiled", "bookmarkAAAA"]
        (applyIncoming Env.sample Merger.idle ⟨[], ⟨0⟩⟩ testApplyTree).1.itemsToUpload).map
        (fun r => (r.guid, r.uploadedAt)) =
      [("unfiled_____", none), ("bookmarkAAAA", some 0)] ∧
    (syncFinished ⟨0⟩ ["unfiled", "bookmarkAAAA"]
        (applyIncoming Env.sample Merger.idle ⟨[], ⟨0⟩⟩ testApplyTree).1).1.bookmarks.map
        (fun b => (b.guid, b.syncChangeCounter)) =
      [("root________", 0), ("unfiled_____", 1), ("bookmarkAAAA", 0)] :=
  ⟨rfl, by decide, by decide⟩

/-- `testApplyTree` with a new separator in `unfiled` in place of the bookmark. -/
def separatorTree : Db :=
  { Db.empty with
    bookmarks := [
      ⟨1, "root________", 0, 0, 2, none, none, 0, 0, 0, .normal⟩,
      ⟨2, "unfiled_____", 1, 3, 2, some "unfiled", none, 0, 0, 1, .normal⟩,
      ⟨3, "separatorAAA", 2, 0, 3, none, none, 0, 0, 1, .new⟩] }

/-- A staged separator reaches the `unimplemented!` of the record encoder: the cycle's
`apply_incoming` panics after staging it. -/
theorem applyIncoming_separator_panics :
    (applyIncoming Env.sample Merger.idle ⟨[], ⟨0⟩⟩ separatorTree).2 =
      .error (.panic "not implemented: TODO: Serialize separators") :=
  rfl

/-- What follows staging in `apply` and `apply_incoming`: `fetch_outgoing_records` returns
a changeset exactly when the rows staged before are emittable and every local item the
staging picked (one with a change counter, or one to upload weakly) is a folder, or a
bookmark whose place has a URL that is not a `place:` query. A changed separator or query
in the local tree fails every upload. -/
theorem stageLocalItemsToUpload_fetch_ok_iff (timestamp : ServerTimestamp) {db db' : Db}
    (h : stageLocalItemsToUpload db = .ok db') :
    (∃ o, fetchOutgoingRecords timestamp db' = .ok o) ↔
      (∀ row ∈ db.itemsToUpload, row.Emittable) ∧
      ∀ s ∈ localItems db.bookmarks,
        (s.syncChangeCounter ≥ 1 ∨ s.id ∈ weaklyUploadedIds db ∨ s.id ∈ db.idsToWeaklyUpload) →
        s.type = BookmarkType.folder.toU8 ∨ s.type = BookmarkType.bookmark.toU8 ∧
          ∃ h ∈ db.places.find? (fun h => s.placeId = some h.id), h.url.take 6 ≠ "place:" := by
  rw [exists_fetchOutgoingRecords_ok, stageLocalItemsToUpload_itemsToUpload h,
    forall_mem_insertTombstones (fun _ => .inl rfl), List.forall_mem_append]
  simp only [stagedItems, List.forall_mem_map, List.forall_mem_filter,
    UploadRow.ofLocalItem_emittable_iff, mem_insertOrIgnore, decide_eq_true_eq]

/-- Staging the separator of `separatorTree` succeeds, and the upload after it fails. -/
theorem stageLocalItemsToUpload_fetch_separator :
    ∃ db', stageLocalItemsToUpload separatorTree = .ok db' ∧
      ¬∃ o, fetchOutgoingRecords ⟨0⟩ db' = .ok o :=
  ⟨_, rfl, fun h =>
    absurd ((@stageLocalItemsToUpload_fetch_ok_iff ⟨0⟩ separatorTree _ rfl).1 h) (by decide)⟩

/-! ## A merge that cannot start -/

section Wedged

variable {env : Env} {clock : Clock} {d : Dogear} {triggers : Db → Result Db}

/-- One sync cycle whose batch is empty, however the uploader ends it. -/
def EmptyCycle (env : Env) (m : Merger) (db db' : Db) : Prop :=
  ∃ ts finish, (syncCycle env m ⟨[], ts⟩ finish db).1 = db'

/-- `dogear`'s merge fails when the new remote contents cannot be fetched. -/
theorem Merger.ofDogear_merge_error {db : Db} (h : db.UrllessNewRemote) :
    ∃ f, (Merger.ofDogear clock d triggers).merge db = .error f := by
  obtain ⟨f, hf⟩ := fetchNewRemoteContents_error h
  simp only [Merger.ofDogear]
  cases fetchLocalTree clock db <;> cases fetchNewLocalContents db <;>
    cases fetchRemoteTree clock db <;> simp [hf]

/-- An empty cycle from such a connection fails in the merge, and leaves the connection
with the batch's timestamp recorded and nothing else changed. -/
theorem syncCycle_ofDogear_error (ts : ServerTimestamp) (finish : Finish) {db : Db}
    (h : db.UrllessNewRemote) :
    ∃ f, syncCycle env (Merger.ofDogear clock d triggers) ⟨[], ts⟩ finish db =
      (putMeta lastSyncMetaKey ts.asMillis db, .error f) := by
  have hput : (putMeta lastSyncMetaKey ts.asMillis db).UrllessNewRemote := h
  obtain ⟨f, hf⟩ := @Merger.ofDogear_merge_error clock d triggers _ hput
  have h0 : ingestAll env [] db = .ok db := rfl
  have hw : mergeWithDriver (Merger.ofDogear clock d triggers)
      (putMeta lastSyncMetaKey ts.asMillis db) = .error f := by
    simp [mergeWithDriver, hf]
  refine ⟨f, ?_⟩
  simp only [syncCycle, applyIncoming, List.map_nil, h0, hw]

/-- An empty cycle keeps such a row: its merge fails, so only the timestamp is recorded. -/
theorem EmptyCycle.urllessNewRemote {db db' : Db}
    (hstep : EmptyCycle env (Merger.ofDogear clock d triggers) db db')
    (h : db.UrllessNewRemote) : db'.UrllessNewRemote := by
  obtain ⟨ts, finish, rfl⟩ := hstep
  obtain ⟨f, hf⟩ := @syncCycle_ofDogear_error env clock d triggers ts finish _ h
  rw [hf]
  exact h

end Wedged

/-- Once the mirror holds a new remote bookmark or query, filed in a folder, whose URL
ingestion refused, every later sync cycle with an empty batch fails in the merge, whatever
`dogear` would merge, and however the uploader ended the cycles in between: the row stays
in the mirror, still to merge. -/
theorem syncCycle_wedged (env : Env) (clock : Clock) (d : Dogear) (triggers : Db → Result Db)
    {db db' : Db} (h : db.UrllessNewRemote)
    (hrun : Relation.ReflTransGen (EmptyCycle env (Merger.ofDogear clock d triggers)) db db')
    (ts : ServerTimestamp) (finish : Finish) :
    ∃ f, (syncCycle env (Merger.ofDogear clock d triggers) ⟨[], ts⟩ finish db').2 = .error f := by
  have h' : db'.UrllessNewRemote := by
    induction hrun with
    | refl => exact h
    | tail _ hstep ih => exact hstep.urllessNewRemote ih
  obtain ⟨f, hf⟩ := @syncCycle_ofDogear_error env clock d triggers ts finish _ h'
  exact ⟨f, by rw [hf]⟩

/-- A bookmark whose URL does not parse, filed in a folder: the next empty cycle fails. -/
theorem syncCycle_wedged_unparsable_url :
    match ingestAll Env.sample
        [(⟨1⟩, ⟨"folderAAAAAA", false, [("type", .str "folder"),
            ("children", .arr [.str "bookmarkAAAA"])]⟩),
         (⟨1⟩, ⟨"bookmarkAAAA", false, [("type", .str "bookmark"), ("bmkUri", .str "notaurl")]⟩)]
        Db.empty with
    | .ok db => ∃ f, (syncCycle Env.sample
        (Merger.ofDogear ⟨fun _ => none, fun _ => none⟩ ⟨fun _ _ _ _ => pure ([], [])⟩ pure)
        ⟨[], ⟨2⟩⟩ .skipped db).2 = .error f
    | .error _ => False := by
  split
  next _ h =>
    cases h
    exact syncCycle_wedged Env.sample _ _ _
      ⟨⟨"bookmarkAAAA", some .bookmark, "", none, 0⟩, by decide, .inl rfl, rfl⟩ .refl _ _
  next h => cases h

end BookmarkSync
