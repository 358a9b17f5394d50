import BookmarkSync.Store

/-!
# BookmarkSync.Local — the local tree as the sync code reads it

The queries of `bookmark_sync/store.rs` that read `moz_bookmarks`:

* `localItems`, the recursive CTE `LOCAL_ITEMS_SQL_FRAGMENT`: every item reachable from
  the root, with its parent, its level, and whether it lies under a user content root.
  SQL evaluates the CTE generation by generation until one is empty (`localItemsRun`);
  `localItems` does the same for as many generations as the table has rows, which is as
  deep as a tree of distinct ids goes (`BookmarkSync.LocalItems` proves the two agree);
* `typeToKind`, the `CASE` of `TypeToKind`, which reads a `place:` bookmark as a query
  and any type that is neither a bookmark nor a folder as a separator;
* `hasChanges`, the gate of `apply`.
-/

namespace BookmarkSync

/-- The Places GUID of the tags root, which `localItems` leaves out. -/
def tagsGuid : String := "_tags_"

/-- A row of `localItems`. -/
structure LocalItem where
  id : Int
  guid : String
  parentId : Int
  parentGuid : String
  position : Int
  type : Nat
  title : Option String
  parentTitle : Option String
  placeId : Option Int
  dateAdded : Int
  lastModified : Int
  syncChangeCounter : Int
  isSyncable : Bool
  level : Nat
  deriving DecidableEq, Repr

section LocalItems

variable (bookmarks : List BookmarkRow)

/-- The columns a `localItems` row takes from an item `b` and its parent `p`. -/
def LocalItem.ofRows (b : BookmarkRow) (parentId : Int) (parentGuid : String)
    (parentTitle : Option String) (isSyncable : Bool) (level : Nat) : LocalItem where
  id := b.id
  guid := b.guid
  parentId := parentId
  parentGuid := parentGuid
  position := b.position
  type := b.type
  title := b.title
  parentTitle := parentTitle
  placeId := b.fk
  dateAdded := b.dateAdded
  lastModified := b.lastModified
  syncChangeCounter := b.syncChangeCounter
  isSyncable := isSyncable
  level := level

/-- The CTE's first member: the children of the root but the tags root, each syncable
when it is a user content root. -/
def localItemsBase : List LocalItem :=
  bookmarks.flatMap fun b =>
    (bookmarks.filter fun p => p.id = b.parent ∧ b.guid ≠ tagsGuid ∧
        p.guid = BookmarkRootGuid.root.asGuid).map fun p =>
      LocalItem.ofRows b p.id p.guid p.title
        (b.guid ∈ BookmarkRootGuid.userRoots.map BookmarkRootGuid.asGuid) 0

/-- The CTE's recursive member for one row `s`: the children of `s` but the root. -/
def localItemsChildren (s : LocalItem) : List LocalItem :=
  (bookmarks.filter fun b => s.id = b.parent ∧ b.guid ≠ BookmarkRootGuid.root.asGuid).map
    fun b => LocalItem.ofRows b s.id s.guid s.title s.isSyncable (s.level + 1)

/-- The rows of `localItems` from one generation on, for `fuel` generations. -/
def localItemsFrom : Nat → List LocalItem → List LocalItem
  | 0, _ => []
  | fuel + 1, gen => gen ++ localItemsFrom fuel (gen.flatMap (localItemsChildren bookmarks))

/-- `LOCAL_ITEMS_SQL_FRAGMENT`. -/
def localItems : List LocalItem :=
  localItemsFrom bookmarks (bookmarks.length + 1) (localItemsBase bookmarks)

/-- How SQLite evaluates the recursive CTE: a generation's rows, then the recursive member
over them, until a generation is empty; `none` when `fuel` generations do not reach an
empty one. -/
def localItemsRun : Nat → List LocalItem → Option (List LocalItem)
  | _, [] => some []
  | 0, _ :: _ => none
  | fuel + 1, gen@(_ :: _) =>
    (localItemsRun fuel (gen.flatMap (localItemsChildren bookmarks))).map (gen ++ ·)

end LocalItems

/-- `TypeToKind` with `UrlOrPlaceId::Url`: the kind a local item is uploaded as. -/
def typeToKind (typ : Nat) (url : Option String) : SyncedBookmarkKind :=
  if typ = BookmarkType.bookmark.toU8 then
    if url.map (·.take 6) = some "place:" then .query else .bookmark
  else if typ = BookmarkType.folder.toU8 then .folder
  else .separator

/-- `typeToKind` never gives a livemark: livemarks are never staged from the local tree. -/
theorem typeToKind_ne_livemark (typ : Nat) (url : Option String) :
    typeToKind typ url ≠ .livemark := by
  unfold typeToKind
  split_ifs <;> simp

/-- `has_changes`: a mirror row to merge (a tombstone only when it deletes a local item),
a local item with a change counter, or a local tombstone. -/
def hasChanges (db : Db) : Bool :=
  db.synced.any (fun v => v.needsMerge && (!v.isDeleted || db.bookmarks.any (·.guid == v.guid))) ||
    (localItems db.bookmarks).any (fun s => s.syncChangeCounter > 0) ||
    !db.bookmarksDeleted.isEmpty

end BookmarkSync
