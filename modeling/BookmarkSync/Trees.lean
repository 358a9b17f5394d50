import Mathlib.Data.String.Basic
import Mathlib.Data.List.Sort
import BookmarkSync.IngestRuns
import BookmarkSync.Outgoing

/-!
# BookmarkSync.Trees — what the merger is given

The four `dogear::Store` fetches of `bookmark_sync/store.rs`, which `dogear`'s
`merge_with_driver` makes before it merges:

* `fetchLocalTree`: every row of `localItems`, ordered by `(level, parentId, position)`,
  as an item with its kind, age and whether it has changes, under its parent by
  structure; then the local tombstones;
* `fetchRemoteTree`: every live mirror row but the root's, as an item with its kind, age,
  `needsMerge` and validity, under the parent its record names; then every structure row
  but the root's, ordered by `(parentGuid, position)`, as the folders' own claims; then
  the mirror tombstones still to merge;
* `fetchNewLocalContents` and `fetchNewRemoteContents`: the contents `dogear` dedupes new
  items by, keyed by GUID as the `HashMap` the source fills.

`dogear` is not in the source. A tree is given as what the code hands its builder
(`TreeInput`); building it and merging are the merger's (`Dogear`). The `duration_since`
functions the ages are computed with are not in the source either: they are the store's
`Clock`, and `Clock.ofReference` models them from the spec.

What holds of them:

* `fetchRemoteTree_reachable` — along every run of ingestions from a keyed mirror, the
  remote tree can be fetched, no GUID is given twice, and no tombstone is also an item;
* `fetchTrees_ages_misread` — the ages are computed from timestamps read in the wrong
  unit: the mirror's `serverModified`, stored in milliseconds, is read as seconds, and
  `lastModified / 1000`, seconds, as milliseconds;
* `fetchNewRemoteContents_urls` — the remote contents can be fetched only when every new
  remote bookmark and query filed in a folder has a place: `h.url` is read as a `String`,
  so a record whose URL ingestion refused makes the fetch fail
  (`fetchNewRemoteContents_error`).
-/

namespace BookmarkSync

/-! ## What the builder is given -/

/-- `dogear::Item`: a node as the tree builder takes it. -/
structure Item where
  guid : String
  kind : SyncedBookmarkKind
  age : Int
  needsMerge : Bool
  validity : SyncedBookmarkValidity
  deriving DecidableEq, Repr

/-- `Item::new`: a node with `dogear`'s defaults, of age `0`, with no changes, valid. -/
def Item.new (guid : String) (kind : SyncedBookmarkKind) : Item :=
  ⟨guid, kind, 0, false, .valid⟩

/-- How the builder is told an item's parent. -/
inductive ParentClaim where
  /-- `by_structure`: the local tree's own parent. -/
  | byStructure (parentGuid : String)
  /-- `by_parent_guid`: the parent the item's record names. -/
  | byParentGuid (parentGuid : String)
  /-- A remote record that names no parent. -/
  | unclaimed
  deriving DecidableEq, Repr

/-- What a fetch hands `dogear`'s tree builder. -/
structure TreeInput where
  /-- `builder.item(item)`, each with the parent it is given. -/
  items : List (Item × ParentClaim)
  /-- `builder.parent_for(child).by_children(parent)`: the folders' own child lists, as
  `(child, parent)`, in the order given. -/
  children : List (String × String)
  /-- `tree.note_deleted(guid)`. -/
  deleted : List String
  deriving DecidableEq, Repr

/-- The store's clock. The reads of `localModified` and `serverModified` are in the
source; `Timestamp::duration_since` and `ServerTimestamp::duration_since`, and the read
of a `Timestamp` column, are not. -/
structure Clock where
  /-- `Timestamp::duration_since(local_time)` of a `localModified` value, in
  milliseconds, or `None` for `Err`. -/
  localDurationSince : Int → Option Nat
  /-- `ServerTimestamp::duration_since(remote_time)`, in milliseconds, or `None`. -/
  remoteDurationSince : ServerTimestamp → Option Nat

/-- Modelled from the spec: `Timestamp::duration_since` and
`ServerTimestamp::duration_since`, which are not in the source, for the sync's
`local_time` (milliseconds) and `remote_time`. The spec's ages are the time "since" the
reference: a time's duration since the reference, in milliseconds, or `None` when the
reference is later, as a `Duration` is never negative. -/
def Clock.ofReference (localTime : Int) (remoteTime : ServerTimestamp) : Clock where
  localDurationSince t := if localTime ≤ t then some (t - localTime).toNat else none
  remoteDurationSince s :=
    if remoteTime.secs ≤ s.secs then some (Rat.floor ((s.secs - remoteTime.secs) * 1000)).toNat
    else none

/-- `row.get_checked::<_, u32>`: an integer column read as a `u32`. -/
def getU32 (column : String) (v : Int) : Result Nat :=
  if 0 ≤ v ∧ v < 4294967296 then pure v.toNat
  else throw (.err (.integralValueOutOfRange column))

/-- `(SELECT h.url FROM moz_places h WHERE h.id = ...)`, and the `LEFT JOIN` of
`moz_places` on its primary key. -/
def placeUrl (places : List PlaceRow) (placeId : Option Int) : Option String :=
  placeId.bind fun i => (places.find? (·.id == i)).map PlaceRow.url

/-! ## The local tree -/

/-- `ORDER BY s.level, s.parentId, s.position`. -/
def LocalItem.precedes (a b : LocalItem) : Bool :=
  a.level < b.level ||
    a.level == b.level && (a.parentId < b.parentId || a.parentId == b.parentId && a.position ≤ b.position)

/-- The item `fetch_local_tree` builds for a row of `localItems`. -/
def localItem (clock : Clock) (places : List PlaceRow) (s : LocalItem) :
    Result (Item × ParentClaim) := do
  let kind := typeToKind s.type (placeUrl places s.placeId)
  let age := (clock.localDurationSince (s.lastModified.tdiv 1000)).getD 0
  let counter ← getU32 "syncChangeCounter" s.syncChangeCounter
  pure ({ Item.new s.guid kind with age, needsMerge := decide (counter > 0) },
    .byStructure s.parentGuid)

/-- An item is built exactly when the change counter is a `u32`. -/
theorem exists_localItem_ok (clock : Clock) (places : List PlaceRow) (s : LocalItem) :
    (∃ x, localItem clock places s = .ok x) ↔
      0 ≤ s.syncChangeCounter ∧ s.syncChangeCounter < 4294967296 := by
  by_cases h : 0 ≤ s.syncChangeCounter ∧ s.syncChangeCounter < 4294967296 <;>
    simp [localItem, getU32, h, pure, Except.pure, throw, throwThe, MonadExceptOf.throw]

/-- The item built for a row has the row's GUID, and claims the row's parent by GUID. -/
theorem localItem_claim {clock : Clock} {places : List PlaceRow} {s : LocalItem}
    {x : Item × ParentClaim} (h : localItem clock places s = .ok x) :
    (x.1.guid, x.2) = (s.guid, .byStructure s.parentGuid) := by
  obtain ⟨_, -, h⟩ := except_bind_eq_ok h
  cases h; rfl

/-- `fetch_local_tree`. -/
def fetchLocalTree (clock : Clock) (db : Db) : Result TreeInput := do
  let rows := (localItems db.bookmarks).insertionSort fun a b => a.precedes b
  let items ← rows.mapM (localItem clock db.places)
  pure ⟨items, [], db.bookmarksDeleted⟩

/-! ## The remote tree -/

/-- The item `fetch_remote_tree` builds for a live mirror row: `serverModified`, in
milliseconds, is read as an `f64` and taken as a `ServerTimestamp`. -/
def remoteItem (clock : Clock) (v : MirrorRow) : Result (Item × ParentClaim) := do
  let kind ← getChecked "kind" v.kind
  let age := (clock.remoteDurationSince ⟨v.serverModified⟩).getD 0
  pure ({ Item.new v.guid kind with age, needsMerge := v.needsMerge, validity := v.validity },
    match v.parentGuid with
    | some p => .byParentGuid p
    | none => .unclaimed)

/-- `WHERE NOT isDeleted AND guid <> 'root________'`. -/
def isRemoteItem (v : MirrorRow) : Bool :=
  !v.isDeleted && v.guid != BookmarkRootGuid.root.asGuid

/-- `ORDER BY parentGuid, position`. -/
def StructureRow.precedes (a b : StructureRow) : Bool :=
  a.parentGuid < b.parentGuid || a.parentGuid == b.parentGuid && a.position ≤ b.position

/-- `fetch_remote_tree`. -/
def fetchRemoteTree (clock : Clock) (db : Db) : Result TreeInput := do
  let items ← (db.synced.filter isRemoteItem).mapM (remoteItem clock)
  let claims := ((db.syncedStructure.filter (·.guid != BookmarkRootGuid.root.asGuid)).insertionSort
    fun a b => a.precedes b).map fun s => (s.guid, s.parentGuid)
  pure ⟨items, claims, (db.synced.filter fun v => v.isDeleted && v.needsMerge).map (·.guid)⟩

/-! ## New contents -/

/-- `dogear::Content`: what a new item is deduped by. -/
inductive Content where
  | bookmark (title urlHref : String)
  | folder (title : String)
  | separator (position : Int)
  deriving DecidableEq, Repr

/-- The loop that fills a content `HashMap`: each row gives its GUID's content, or is
skipped; a later row for a GUID replaces an earlier one. -/
def collectContents {ρ : Type} (content : ρ → Result (Option (String × Content))) :
    List ρ → List (String × Content) → Result (List (String × Content))
  | [], contents => pure contents
  | row :: rows, contents => do
    match ← content row with
    | none => collectContents content rows contents
    | some gc => collectContents content rows (replaceBy Prod.fst gc contents)

/-- A row of the query of `fetch_new_local_contents`. -/
structure NewLocalRow where
  guid : String
  type : Nat
  title : String
  url : Option String
  position : Int
  deriving DecidableEq, Repr

/-- The query of `fetch_new_local_contents`: local items whose parent is not the root,
that are not `Normal`, and that have no mirror row. -/
def newLocalRows (db : Db) : List NewLocalRow :=
  db.bookmarks.flatMap fun b =>
    (db.bookmarks.filter fun p => p.id = b.parent ∧ p.guid ≠ BookmarkRootGuid.root.asGuid ∧
        b.syncStatus ≠ .normal ∧ ¬db.synced.any (·.guid == b.guid)).map fun _ =>
      ⟨b.guid, b.type, b.title.getD "", placeUrl db.places b.fk, b.position⟩

/-- The content `fetch_new_local_contents` takes from a row: none for an unknown type. -/
def newLocalContent (row : NewLocalRow) : Result (Option (String × Content)) :=
  match BookmarkType.fromU8 row.type with
  | none => pure none
  | some .bookmark => do
    let urlHref ← getChecked "url" row.url
    pure (some (row.guid, .bookmark row.title urlHref))
  | some .folder => pure (some (row.guid, .folder row.title))
  | some .separator => pure (some (row.guid, .separator row.position))

/-- `fetch_new_local_contents`. -/
def fetchNewLocalContents (db : Db) : Result (List (String × Content)) :=
  collectContents newLocalContent (newLocalRows db) []

/-- A row of the query of `fetch_new_remote_contents`. -/
structure NewRemoteRow where
  guid : String
  kind : Option SyncedBookmarkKind
  title : String
  url : Option String
  position : Nat
  deriving DecidableEq, Repr

/-- The query of `fetch_new_remote_contents`: live mirror rows still to merge, with no
local item of their GUID, each with every structure row of its GUID whose parent is not
the root. -/
def newRemoteRows (db : Db) : List NewRemoteRow :=
  (db.synced.filter fun v => !v.isDeleted && v.needsMerge && !db.bookmarks.any (·.guid == v.guid)).flatMap
    fun v => (db.syncedStructure.filter fun s =>
        s.guid = v.guid ∧ s.parentGuid ≠ BookmarkRootGuid.root.asGuid).map fun s =>
      ⟨v.guid, v.kind, v.title.getD "", placeUrl db.places v.placeId, s.position⟩

/-- The content `fetch_new_remote_contents` takes from a row: bookmarks and queries alike,
none for a livemark. -/
def newRemoteContent (row : NewRemoteRow) : Result (Option (String × Content)) := do
  let kind ← getChecked "kind" row.kind
  match kind with
  | .bookmark | .query => do
    let urlHref ← getChecked "url" row.url
    pure (some (row.guid, .bookmark row.title urlHref))
  | .folder => pure (some (row.guid, .folder row.title))
  | .separator => pure (some (row.guid, .separator row.position))
  | .livemark => pure none

/-- `fetch_new_remote_contents`. -/
def fetchNewRemoteContents (db : Db) : Result (List (String × Content)) :=
  collectContents newRemoteContent (newRemoteRows db) []

/-- `dogear`'s merge, which is not in the source: from the local tree and its new
contents and the remote tree and its new contents, the merged descendants and the
deletions, or an error. Building the trees, which can fail, is part of it. -/
structure Dogear where
  merge : TreeInput → List (String × Content) → TreeInput → List (String × Content) →
    Result (List MergedTreeRow × List ItemToRemoveRow)

/-! ## The remote tree along runs of ingestions -/

/-- Every live mirror row has a kind, as ingestion writes them. -/
def Db.LiveKinds (db : Db) : Prop := ∀ v ∈ db.synced, v.isDeleted = false → v.kind.isSome

/-- An ingestion keeps every live row kinded. -/
theorem Ingests.liveKinds {env : Env} {db db' : Db} (h : Ingests env db db') (hk : db.LiveKinds) :
    db'.LiveKinds := by
  obtain ⟨t, p, h⟩ := h
  obtain ⟨pl, hpl, rfl⟩ := applyPayload_eq_ok h
  obtain ⟨r, -, hr⟩ := except_bind_eq_ok hpl
  intro v hv hd
  rw [Plan.run_synced] at hv
  rcases mem_replaceBy.1 hv with ⟨hv, -⟩ | rfl
  · exact hk v hv hd
  · exact planOf_kind hr hd

/-- The remote tree can be fetched when every live row has a kind: it then gives an item
per live row but the root's, a claim per structure row but the root's, and the GUIDs of
the tombstones still to merge. -/
theorem fetchRemoteTree_ok (clock : Clock) {db : Db} (hk : db.LiveKinds) :
    ∃ t, fetchRemoteTree clock db = .ok t ∧
      t.items.map (·.1.guid) = (db.synced.filter isRemoteItem).map MirrorRow.guid ∧
      (t.children.map Prod.fst).Perm
        ((db.syncedStructure.filter (·.guid != BookmarkRootGuid.root.asGuid)).map StructureRow.guid) ∧
      t.deleted = (db.synced.filter fun v => v.isDeleted && v.needsMerge).map MirrorRow.guid := by
  have hitem : ∀ v ∈ db.synced.filter isRemoteItem, ∃ b, remoteItem clock v = .ok b := by
    intro v hv
    obtain ⟨hv, hr⟩ := List.mem_filter.1 hv
    have hd : v.isDeleted = false := by simp_all [isRemoteItem]
    obtain ⟨k, hkv⟩ := Option.isSome_iff_exists.1 (hk v hv hd)
    exact ⟨_, by simp [remoteItem, hkv, getChecked]; rfl⟩
  obtain ⟨items, hitems⟩ := mapM_ok_of_ok hitem
  refine ⟨_, by simp only [fetchRemoteTree, hitems]; rfl, ?_, ?_, rfl⟩
  · refine map_of_mapM_ok (fun v b hb => ?_) hitems
    obtain ⟨k, -, hb⟩ := except_bind_eq_ok hb
    cases hb; rfl
  · simp only [List.map_map]
    exact (List.perm_insertionSort _ _).map _

/-- One ingestion keeps the mirror keyed and its live rows kinded. -/
theorem Ingests.remoteTreeReady {env : Env} {db db' : Db} (h : Ingests env db db')
    (hk : db.MirrorKeyed) (hkinds : db.LiveKinds) : db'.MirrorKeyed ∧ db'.LiveKinds := by
  refine ⟨?_, h.liveKinds hkinds⟩
  obtain ⟨t, p, h⟩ := h
  obtain ⟨pl, -, rfl⟩ := applyPayload_eq_ok h
  exact pl.run_mirrorKeyed hk

/-- A bookmark ingested at 1 s and fetched against a remote reference of 2000 s, and the
menu root modified at 5000 ms and fetched against a local reference of 6000 ms.
`fetch_remote_tree` reads the milliseconds ingestion stored as seconds, and
`fetch_local_tree` the milliseconds divided by 1000 as milliseconds: both nodes get age 0,
where 1999000 ms and 1000 ms have passed. -/
theorem fetchTrees_ages_misread :
    (match ingestAll Env.sample [(⟨1⟩, ⟨"bookmarkAAAA", false, [("type", .str "bookmark"),
            ("bmkUri", .str "http://a.example/")]⟩)] Db.empty with
      | .ok db => match fetchRemoteTree (Clock.ofReference 6000 ⟨2000⟩) db with
        | .ok t => t.items.map (·.1.age) = [0]
        | .error _ => False
      | .error _ => False) ∧
    match fetchLocalTree (Clock.ofReference 6000 ⟨2000⟩) { Db.empty with bookmarks := [
        ⟨1, "root________", 0, 0, 2, none, none, 0, 0, 1, .new⟩,
        ⟨2, "menu________", 1, 0, 2, none, none, 0, 5000, 1, .new⟩] } with
    | .ok t => t.items.map (·.1.age) = [0]
    | .error _ => False := by
  refine ⟨?_, ?_⟩
  · split
    next _ h =>
      cases h
      split
      next _ h =>
        cases h
        simp [Clock.ofReference, ServerTimestamp.asMillis, show Rat.floor 1000 = 1000 from rfl]
        rw [if_neg (by decide)]
        rfl
      next h => cases h
    next h => cases h
  · split
    next _ h =>
      cases h
      rfl
    next h => cases h

/-! ## New remote contents that cannot be fetched -/

/-- A content loop that succeeded read every row. -/
theorem collectContents_ok {ρ : Type} {content : ρ → Result (Option (String × Content))} :
    ∀ {rows : List ρ} {acc cs : List (String × Content)},
      collectContents content rows acc = .ok cs → ∀ row ∈ rows, ∃ x, content row = .ok x
  | [], _, _, _ => by simp
  | row :: rows, acc, cs, h => by
    simp only [collectContents] at h
    obtain ⟨x, hx, h⟩ := except_bind_eq_ok h
    intro r hr
    rcases List.mem_cons.1 hr with rfl | hr
    · exact ⟨x, hx⟩
    · cases x <;> exact collectContents_ok h r hr

/-- The new remote contents are fetched only when every new remote bookmark and query
filed in a folder has a place. -/
theorem fetchNewRemoteContents_urls {db : Db} {cs : List (String × Content)}
    (h : fetchNewRemoteContents db = .ok cs) :
    ∀ row ∈ newRemoteRows db, row.kind = some .bookmark ∨ row.kind = some .query →
      row.url.isSome := by
  intro row hrow hk
  obtain ⟨x, hx⟩ := collectContents_ok h row hrow
  rcases hk with hk | hk <;>
  · simp only [newRemoteContent, hk, getChecked_some, except_ok_bind] at hx
    obtain ⟨u, hu, -⟩ := except_bind_eq_ok hx
    rw [getChecked_eq_ok] at hu
    simp [hu]

/-- A new remote bookmark or query, filed in a folder, whose place is missing: a record
whose URL ingestion refused. -/
def Db.UrllessNewRemote (db : Db) : Prop :=
  ∃ row ∈ newRemoteRows db, (row.kind = some .bookmark ∨ row.kind = some .query) ∧ row.url = none

/-- Such a row makes `fetch_new_remote_contents` fail. -/
theorem fetchNewRemoteContents_error {db : Db} (h : db.UrllessNewRemote) :
    ∃ f, fetchNewRemoteContents db = .error f := by
  cases hc : fetchNewRemoteContents db with
  | error f => exact ⟨f, rfl⟩
  | ok cs =>
    obtain ⟨row, hrow, hk, hu⟩ := h
    simpa [hu] using fetchNewRemoteContents_urls hc row hrow hk

end BookmarkSync
