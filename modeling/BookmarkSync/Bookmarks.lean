import BookmarkSync.Trees

/-!
# BookmarkSync.Bookmarks — inserting bookmarks and trees

The local editing API of `storage/bookmarks.rs`:

* `getRawBookmark`, `get_raw_bookmark`: a row of `moz_bookmarks` by GUID, joined to its
  parent and its page, read by `RawBookmark::from_row`;
* `insertBookmark`, `insert_bookmark`: refuse the root and anything but a folder as the
  parent, make room at the position asked for, find or make the page of a bookmark's URL,
  and `INSERT` the row;
* `addSubtreeInfos` and `insertTree`, `add_subtree_infos` and `insert_tree`: flatten a
  tree into insertables, then insert them one by one.

None of these runs in a transaction, so a call that fails keeps what its statements wrote
before the failure; the model returns the connection with the result. What the source
does not have is gathered in `StorageEnv`: `fetch_page_info` and `new_page_info` of
`storage/mod.rs`, `SyncGuid::new()` (random; the model draws the `n`-th GUID of a
sequence, and `Conn` counts the draws), `Timestamp::now()`, `Url::parse`, and how
`moz_bookmarks`, whose schema is not in the source, takes an `INSERT`.

What holds, for every connection and environment:

* `insertBookmark_ok` — a successful insert adds one row after the position dance;
* `insertBookmark_specific_shifts` — with `Specific(i)` the rows moved up are the
  children of the parent's own parent: `:parent` is bound to `parent.parent_id`;
* `insertAll_error`, `insertTree_error_rows` — a failing `insert_tree` keeps one row for
  each insert before the one that failed;
* `insertTree_leading_folder_fails` — `add_subtree_infos` lists a folder after its
  descendants, so a tree that starts with a non-empty folder new to the table fails
  before writing anything.
-/

namespace BookmarkSync

/-! ## Insertables and trees -/

/-- `BookmarkPosition`. -/
inductive BookmarkPosition where
  | specific (index : Nat)
  | append
  deriving DecidableEq, Repr

/-- `InsertableBookmarkItem`. Timestamps are milliseconds. -/
structure InsertableBookmarkItem where
  parentGuid : String
  position : BookmarkPosition
  dateAdded : Option Int
  lastModified : Option Int
  guid : Option String
  url : Url
  title : Option String
  deriving DecidableEq, Repr

/-- `InsertableBookmarkSeparator`: the fields every insertable has. -/
structure InsertableBookmarkSeparator where
  parentGuid : String
  position : BookmarkPosition
  dateAdded : Option Int
  lastModified : Option Int
  guid : Option String
  deriving DecidableEq, Repr

/-- `InsertableBookmarkFolder`. -/
structure InsertableBookmarkFolder where
  parentGuid : String
  position : BookmarkPosition
  dateAdded : Option Int
  lastModified : Option Int
  guid : Option String
  title : Option String
  deriving DecidableEq, Repr

/-- `InsertableBookmark`. -/
inductive InsertableBookmark where
  | bookmarkType (b : InsertableBookmarkItem)
  | bookmarkSeparator (s : InsertableBookmarkSeparator)
  | bookmarkFolder (f : InsertableBookmarkFolder)
  deriving DecidableEq, Repr

namespace InsertableBookmark

/-- `bookmark_type()` (the variant `BookmarkType` has the name). -/
def toBookmarkType : InsertableBookmark → BookmarkType
  | bookmarkType _ => .bookmark
  | bookmarkSeparator _ => .separator
  | bookmarkFolder _ => .folder

/-- What `impl_common_bookmark_getter!` reads: the fields every variant has. -/
def common : InsertableBookmark → InsertableBookmarkSeparator
  | bookmarkType b => ⟨b.parentGuid, b.position, b.dateAdded, b.lastModified, b.guid⟩
  | bookmarkSeparator s => s
  | bookmarkFolder f => ⟨f.parentGuid, f.position, f.dateAdded, f.lastModified, f.guid⟩

/-- `impl_common_bookmark_getter!(parent_guid, SyncGuid)`. -/
def parentGuid (bm : InsertableBookmark) : String := bm.common.parentGuid

/-- `impl_common_bookmark_getter!(position, BookmarkPosition)`. -/
def position (bm : InsertableBookmark) : BookmarkPosition := bm.common.position

/-- `impl_common_bookmark_getter!(date_added, Option<Timestamp>)`. -/
def dateAdded (bm : InsertableBookmark) : Option Int := bm.common.dateAdded

/-- `impl_common_bookmark_getter!(last_modified, Option<Timestamp>)`. -/
def lastModified (bm : InsertableBookmark) : Option Int := bm.common.lastModified

/-- `impl_common_bookmark_getter!(guid, Option<SyncGuid>)`. -/
def guid (bm : InsertableBookmark) : Option String := bm.common.guid

end InsertableBookmark

/-- `BookmarkTreeBookmark`. -/
structure BookmarkTreeBookmark where
  guid : Option String
  dateAdded : Option Int
  lastModified : Option Int
  title : Option String
  url : Url
  deriving DecidableEq, Repr

/-- `BookmarkTreeSeparator`. -/
structure BookmarkTreeSeparator where
  guid : Option String
  dateAdded : Option Int
  lastModified : Option Int
  deriving DecidableEq, Repr

/-- `BookmarkTreeNode`; a folder carries the fields of `BookmarkTreeFolder`. -/
inductive BookmarkTreeNode where
  | bookmarkType (b : BookmarkTreeBookmark)
  | bookmarkSeparator (s : BookmarkTreeSeparator)
  | bookmarkFolder (guid : Option String) (dateAdded lastModified : Option Int)
      (title : Option String) (children : List BookmarkTreeNode)

/-- `BookmarkTreeFolder`. -/
structure BookmarkTreeFolder where
  guid : Option String
  dateAdded : Option Int
  lastModified : Option Int
  title : Option String
  children : List BookmarkTreeNode

/-! ## Reading a bookmark -/

/-- The row `get_raw_bookmark`'s query selects for a bookmark `b`: `b`'s columns, the
GUID and parent of its parent `p` and the URL of its page `h` (`NULL` when the `LEFT JOIN`
finds no row), and `b`'s number of children. -/
structure RawBookmarkRow where
  guid : String
  parentGuid : Option String
  index : Int
  dateAdded : Int
  lastModified : Int
  type : Nat
  title : Option String
  url : Option String
  id : Int
  parentId : Int
  childCount : Nat
  grandParentId : Option Int
  syncStatus : SyncStatus
  fk : Option Int
  syncChangeCounter : Int
  deriving DecidableEq, Repr

/-- The query of `get_raw_bookmark`, `WHERE b.guid = :guid`: its first row. -/
def rawBookmarkRow (db : Db) (guid : String) : Option RawBookmarkRow :=
  (db.bookmarks.find? (·.guid == guid)).map fun b =>
    let p := db.bookmarks.find? (·.id == b.parent)
    { guid := b.guid, parentGuid := p.map BookmarkRow.guid, index := b.position,
      dateAdded := b.dateAdded, lastModified := b.lastModified, type := b.type,
      title := b.title, url := placeUrl db.places b.fk, id := b.id, parentId := b.parent,
      childCount := (db.bookmarks.filter (·.parent == b.id)).length,
      grandParentId := p.map BookmarkRow.parent, syncStatus := b.syncStatus, fk := b.fk,
      syncChangeCounter := b.syncChangeCounter }

/-- `RawBookmark`. -/
structure RawBookmark where
  placeId : Option Int
  rowId : Int
  bookmarkType : BookmarkType
  parentId : Int
  parentGuid : String
  position : Nat
  title : Option String
  url : Option Url
  dateAdded : Int
  dateModified : Int
  guid : String
  syncStatus : SyncStatus
  syncChangeCounter : Nat
  childCount : Nat
  grandparentId : Int
  deriving DecidableEq, Repr

/-- `row.get_checked::<_, u8>`. -/
def getU8 (column : String) (v : Nat) : Result Nat :=
  if v < 256 then pure v else throw (.err (.integralValueOutOfRange column))

/-- `match url { Some(s) => Some(Url::parse(&s)?), None => None }`. -/
def parseOptionalUrl (parseUrl : String → Option Url) : Option String → Result (Option Url)
  | some s =>
    match parseUrl s with
    | some u => pure (some u)
    | none => throw (.err .urlParse)
  | none => pure none

/-- `RawBookmark::from_row`, reading the columns in the order the source does; `rusqlite`
finds `_grandparentId` under the query's `_grandParentId`, as it matches column names
without regard to case. A type `BookmarkType::from_u8` does not know is a bookmark when
the row has a page, else a folder. The `FromSql` of `Timestamp` is not in the source; the
model reads the integer. -/
def RawBookmark.fromRow (parseUrl : String → Option Url) (r : RawBookmarkRow) :
    Result RawBookmark := do
  let type ← getU8 "type" r.type
  let parentGuid ← getChecked "parentGuid" r.parentGuid
  let position ← getU32 "index" r.index
  let url ← parseOptionalUrl parseUrl r.url
  let syncChangeCounter ← getU32 "syncChangeCounter" r.syncChangeCounter
  let childCount ← getU32 "_childCount" r.childCount
  let grandparentId ← getChecked "_grandparentId" r.grandParentId
  pure
    { placeId := r.fk
      rowId := r.id
      bookmarkType := (BookmarkType.fromU8 type).getD (if r.fk.isSome then .bookmark else .folder)
      parentId := r.parentId
      parentGuid := parentGuid
      position := position
      title := r.title
      url := url
      dateAdded := r.dateAdded
      dateModified := r.lastModified
      guid := r.guid
      syncStatus := r.syncStatus
      syncChangeCounter := syncChangeCounter
      childCount := childCount
      grandparentId := grandparentId }

/-- `get_raw_bookmark`. -/
def getRawBookmark (parseUrl : String → Option Url) (db : Db) (guid : String) :
    Result (Option RawBookmark) :=
  match rawBookmarkRow db guid with
  | some r => (RawBookmark.fromRow parseUrl r).map some
  | none => pure none

/-! ## Inserting -/

/-- The values `insert_bookmark` binds in its `INSERT INTO moz_bookmarks`; an unbound
parameter is `NULL`. -/
structure BookmarkInsert where
  fk : Option Int
  type : Nat
  parent : Int
  position : Nat
  title : Option String
  dateAdded : Option Int
  lastModified : Option Int
  guid : Option String
  syncStatus : Option SyncStatus
  syncChangeCounter : Option Int
  deriving DecidableEq, Repr

/-- What `storage/bookmarks.rs` uses and the source does not have. -/
structure StorageEnv where
  /-- `Url::parse`. -/
  parseUrl : String → Option Url
  /-- `fetch_page_info`: the row id of the page of a URL, when `moz_places` has one. -/
  fetchPageInfo : Url → List PlaceRow → Result (Option Int)
  /-- `new_page_info`: `moz_places` after its `INSERT` of a page for the URL, and the
  page's row id. -/
  newPageInfo : Url → List PlaceRow → List PlaceRow × Result Int
  /-- `SyncGuid::new()`: the `n`-th GUID drawn. -/
  randomGuid : Nat → String
  /-- `Timestamp::now()`, in milliseconds. -/
  now : Int
  /-- The row `moz_bookmarks` adds for an `INSERT` of these values, or the constraint
  they break; the table's schema is not in the source. -/
  newBookmarkRow : BookmarkInsert → List BookmarkRow → Except Error BookmarkRow

/-- The connection: its tables, and how many GUIDs `SyncGuid::new()` has drawn. -/
structure Conn where
  db : Db
  draws : Nat

/-- `UPDATE moz_bookmarks SET position = position + 1 WHERE parent = :parent AND
position >= :index`. -/
def shiftPositions (parent : Int) (index : Nat) (bookmarks : List BookmarkRow) :
    List BookmarkRow :=
  bookmarks.map fun b =>
    if b.parent = parent ∧ (index : Int) ≤ b.position then { b with position := b.position + 1 } else b

/-- The "position dance" of `insert_bookmark`: the position the item gets, and the rows
after the room made for it. `:parent` is bound to `parent.parent_id`. -/
def positionDance (parent : RawBookmark) (position : BookmarkPosition)
    (bookmarks : List BookmarkRow) : Nat × List BookmarkRow :=
  match position with
  | .specific index =>
    let actual := min index parent.childCount
    (actual, shiftPositions parent.parentId actual bookmarks)
  | .append => (parent.childCount, bookmarks)

/-- The `fk` of the new row: the page of a bookmark's URL, found by `fetch_page_info` or
made by `new_page_info`; none for a folder or a separator. -/
def pageRowId (env : StorageEnv) (bm : InsertableBookmark) (places : List PlaceRow) :
    List PlaceRow × Result (Option Int) :=
  match bm with
  | .bookmarkType b =>
    match env.fetchPageInfo b.url places with
    | .ok (some rowId) => (places, pure (some rowId))
    | .ok none =>
      match env.newPageInfo b.url places with
      | (places, .ok rowId) => (places, pure (some rowId))
      | (places, .error e) => (places, .error e)
    | .error e => (places, .error e)
  | _ => (places, pure none)

/-- The parameters `insert_bookmark` binds, by kind: a separator binds its type, parent
and position, a folder also its title, and every other parameter of theirs is unbound. -/
def insertValues (bm : InsertableBookmark) (fk : Option Int) (parent : Int) (index : Nat)
    (dateAdded lastModified : Int) (guid : String) : BookmarkInsert :=
  match bm with
  | .bookmarkType b =>
    ⟨fk, BookmarkType.bookmark.toU8, parent, index, b.title, some dateAdded, some lastModified,
      some guid, some .new, some 1⟩
  | .bookmarkSeparator _ =>
    ⟨none, BookmarkType.separator.toU8, parent, index, none, none, none, none, none, none⟩
  | .bookmarkFolder f =>
    ⟨none, BookmarkType.folder.toU8, parent, index, f.title, none, none, none, none, none⟩

/-- `guid.clone().unwrap_or_else(|| SyncGuid::new())`: the GUID given, or the next one
drawn, with the count of draws after it. -/
def StorageEnv.guidOrNew (env : StorageEnv) (guid : Option String) (draws : Nat) :
    String × Nat :=
  match guid with
  | some g => (g, draws)
  | none => (env.randomGuid draws, draws + 1)

/-- `insert_bookmark`. -/
def insertBookmark (env : StorageEnv) (bm : InsertableBookmark) (c : Conn) :
    Conn × Result String :=
  if BookmarkRootGuid.fromGuid bm.parentGuid = some .root then
    (c, throw (.err (.invalidPlaceInfo .invalidGuid)))
  else
    match getRawBookmark env.parseUrl c.db bm.parentGuid with
    | .error e => (c, .error e)
    | .ok none => (c, throw (.err (.invalidPlaceInfo .invalidParent)))
    | .ok (some parent) =>
      if parent.bookmarkType ≠ .folder then (c, throw (.err (.invalidPlaceInfo .invalidParent)))
      else
        let dance := positionDance parent bm.position c.db.bookmarks
        match pageRowId env bm c.db.places with
        | (places, .error e) => (⟨{ c.db with bookmarks := dance.2, places }, c.draws⟩, .error e)
        | (places, .ok fk) =>
          let guid := env.guidOrNew bm.guid c.draws
          let values := insertValues bm fk parent.rowId dance.1 (bm.dateAdded.getD env.now)
            (bm.lastModified.getD env.now) guid.1
          match env.newBookmarkRow values dance.2 with
          | .ok row => (⟨{ c.db with bookmarks := dance.2 ++ [row], places }, guid.2⟩, pure guid.1)
          | .error e => (⟨{ c.db with bookmarks := dance.2, places }, guid.2⟩, throw (.err e))

mutual

/-- The loop body of `add_subtree_infos` for one child of the folder with GUID `parent`:
its insertable, appended, after the insertables of its own subtree for a folder. A folder
without a GUID gets the next one drawn. -/
def childInfos (env : StorageEnv) (parent : String) :
    BookmarkTreeNode → Nat → List InsertableBookmark × Nat
  | .bookmarkType b, n =>
    ([.bookmarkType ⟨parent, .append, b.dateAdded, b.lastModified, b.guid, b.url, b.title⟩], n)
  | .bookmarkSeparator s, n =>
    ([.bookmarkSeparator ⟨parent, .append, s.dateAdded, s.lastModified, s.guid⟩], n)
  | .bookmarkFolder guid dateAdded lastModified title children, n =>
    let parentGuid := env.guidOrNew guid n
    let infos := addSubtreeInfos env parentGuid.1 children parentGuid.2
    (infos.1 ++
      [.bookmarkFolder ⟨parent, .append, dateAdded, lastModified, some parentGuid.1, title⟩],
      infos.2)

/-- `add_subtree_infos`: the insertables of the children of the folder with GUID
`parent`, in the order the source pushes them. It never fails. -/
def addSubtreeInfos (env : StorageEnv) (parent : String) :
    List BookmarkTreeNode → Nat → List InsertableBookmark × Nat
  | [], n => ([], n)
  | child :: rest, n =>
    let infos := childInfos env parent child n
    let more := addSubtreeInfos env parent rest infos.2
    (infos.1 ++ more.1, more.2)

end

/-- The loop of `insert_tree`: each insertable in turn, up to the first error. -/
def insertAll (env : StorageEnv) : List InsertableBookmark → Conn → Conn × Result Unit
  | [], c => (c, pure ())
  | bm :: rest, c =>
    match insertBookmark env bm c with
    | (c, .ok _) => insertAll env rest c
    | (c, .error e) => (c, .error e)

/-- `insert_tree`. -/
def insertTree (env : StorageEnv) (parent : String) (tree : BookmarkTreeFolder) (c : Conn) :
    Conn × Result Unit :=
  let infos := addSubtreeInfos env parent tree.children c.draws
  insertAll env infos.1 { c with draws := infos.2 }

/-- Whether a tree node is a folder. -/
def BookmarkTreeNode.isFolder : BookmarkTreeNode → Bool
  | .bookmarkFolder .. => true
  | _ => false

/-! ## The roots -/

/-- `create_root`: an `INSERT` of a folder whose parent is the first row with parent 0, or
0 when there is none (`IFNULL((SELECT id FROM moz_bookmarks WHERE parent = 0), 0)`). -/
def createRoot (env : StorageEnv) (title guid : String) (position : Nat) (now : Int) (c : Conn) :
    Conn × Result Unit :=
  let parent := ((c.db.bookmarks.find? (·.parent == 0)).map BookmarkRow.id).getD 0
  match env.newBookmarkRow ⟨none, BookmarkType.folder.toU8, parent, position, some title,
      some now, some now, some guid, some .new, some 1⟩ c.db.bookmarks with
  | .ok row => (⟨{ c.db with bookmarks := c.db.bookmarks ++ [row] }, c.draws⟩, pure ())
  | .error e => (c, throw (.err e))

/-- The roots `create_bookmark_roots` makes, in order: title, GUID and position. -/
def bookmarkRoots : List (String × BookmarkRootGuid × Nat) :=
  [("root", .root, 0), ("menu", .menu, 0), ("toolbar", .toolbar, 1), ("unfiled", .unfiled, 2),
    ("mobile", .mobile, 3)]

/-- `create_root` for each root in turn, up to the first error. -/
def createRoots (env : StorageEnv) (now : Int) :
    List (String × BookmarkRootGuid × Nat) → Conn → Conn × Result Unit
  | [], c => (c, pure ())
  | (title, guid, position) :: rest, c =>
    match createRoot env title guid.asGuid position now c with
    | (c, .ok _) => createRoots env now rest c
    | (c, .error e) => (c, .error e)

/-- `create_bookmark_roots`, with one `Timestamp::now()` for every root. -/
def createBookmarkRoots (env : StorageEnv) (c : Conn) : Conn × Result Unit :=
  createRoots env env.now bookmarkRoots c

/-! ## Running the model -/

/-- An environment to run the model on: URLs as `Env.sample` parses them, a page found by
its URL and else appended, GUIDs `guidAAAAAAA0`, `guidAAAAAAA1`, ..., the clock at `0`,
and a `moz_bookmarks` that refuses a `NULL` GUID, timestamp, status or counter, and a GUID
it has; it gives a new row the next id. -/
def StorageEnv.sample : StorageEnv where
  parseUrl := Env.sample.parseUrl
  fetchPageInfo u places := pure ((places.find? (·.url == u.serialization)).map PlaceRow.id)
  newPageInfo u places :=
    let id := nextRowId places
    (places ++ [⟨id, "pageAAAAAAAA", u.serialization, u.serialization.length⟩], pure id)
  randomGuid n := "guidAAAAAAA" ++ toString n
  now := 0
  newBookmarkRow v t :=
    match v.guid, v.dateAdded, v.lastModified, v.syncStatus, v.syncChangeCounter with
    | some guid, some dateAdded, some lastModified, some syncStatus, some counter =>
      if t.any (·.guid == guid) then .error (.sql "UNIQUE constraint failed: moz_bookmarks.guid")
      else .ok ⟨((t.map BookmarkRow.id).max?.map (· + 1)).getD 1, guid, v.parent, v.position,
        v.type, v.title, v.fk, dateAdded, lastModified, counter, syncStatus⟩
    | _, _, _, _, _ => .error (.sql "NOT NULL constraint failed")

/-- A connection to run the model on: the five roots, a bookmark in Unfiled, and its
page. -/
def Conn.sample : Conn where
  db := { Db.empty with
    bookmarks := [⟨1, "root________", 0, 0, 2, none, none, 0, 0, 1, .new⟩,
      ⟨2, "menu________", 1, 0, 2, none, none, 0, 0, 1, .new⟩,
      ⟨3, "toolbar_____", 1, 1, 2, none, none, 0, 0, 1, .new⟩,
      ⟨4, "unfiled_____", 1, 2, 2, none, none, 0, 0, 1, .new⟩,
      ⟨5, "mobile______", 1, 3, 2, none, none, 0, 0, 1, .new⟩,
      ⟨6, "bookmarkCCCC", 4, 0, 1, none, some 1, 0, 0, 1, .new⟩]
    places := [⟨1, "pageAAAAAAAA", "http://a.example/", 17⟩] }
  draws := 0

/-- A tree of one folder, `folderAAAAAA`, that holds one bookmark, `bookmarkBBBB`. -/
def BookmarkTreeFolder.nestedSample : BookmarkTreeFolder :=
  ⟨none, none, none, none,
    [.bookmarkFolder (some "folderAAAAAA") none none none
      [.bookmarkType ⟨some "bookmarkBBBB", none, none, none, ⟨"http://a.example/", "/"⟩⟩]]⟩

/-- A bookmark, `bookmarkAAAA`, followed by the folder of `nestedSample`. -/
def BookmarkTreeFolder.mixedSample : BookmarkTreeFolder :=
  ⟨none, none, none, none,
    .bookmarkType ⟨some "bookmarkAAAA", none, none, none, ⟨"http://a.example/", "/"⟩⟩ ::
      BookmarkTreeFolder.nestedSample.children⟩

/-! ## Reading a bookmark, proved -/

theorem getU8_ok {column : String} {v n : Nat} (h : getU8 column v = .ok n) : n = v := by
  unfold getU8 at h
  split_ifs at h
  cases h
  rfl

theorem getU32_ok {column : String} {v : Int} {n : Nat} (h : getU32 column v = .ok n) :
    (n : Int) = v := by
  unfold getU32 at h
  split_ifs at h with hv
  all_goals cases h
  omega

/-- What `RawBookmark::from_row` keeps of the row it reads. -/
theorem RawBookmark.fromRow_ok {parseUrl : String → Option Url} {r : RawBookmarkRow}
    {raw : RawBookmark} (h : RawBookmark.fromRow parseUrl r = .ok raw) :
    raw.rowId = r.id ∧ raw.parentId = r.parentId ∧ raw.childCount = r.childCount ∧
      raw.bookmarkType = (BookmarkType.fromU8 r.type).getD
        (if r.fk.isSome then .bookmark else .folder) := by
  unfold RawBookmark.fromRow at h
  obtain ⟨t, ht, h⟩ := except_bind_eq_ok h
  obtain ⟨_, -, h⟩ := except_bind_eq_ok h
  obtain ⟨_, -, h⟩ := except_bind_eq_ok h
  obtain ⟨_, -, h⟩ := except_bind_eq_ok h
  obtain ⟨_, -, h⟩ := except_bind_eq_ok h
  obtain ⟨n, hn, h⟩ := except_bind_eq_ok h
  obtain ⟨_, -, h⟩ := except_bind_eq_ok h
  cases h
  exact ⟨rfl, rfl, Int.ofNat_inj.1 (getU32_ok hn), by rw [getU8_ok ht]⟩

theorem except_map_some_eq_ok {ε α : Type} {x : Except ε α} {a : α}
    (h : x.map some = .ok (some a)) : x = .ok a := by
  cases x <;> simp_all [Except.map]

/-- The bookmark `get_raw_bookmark` finds is a row of the table with the GUID: its id,
its own parent column, and its number of children. -/
theorem getRawBookmark_some {parseUrl : String → Option Url} {db : Db} {guid : String}
    {parent : RawBookmark} (h : getRawBookmark parseUrl db guid = .ok (some parent)) :
    ∃ P ∈ db.bookmarks, P.guid = guid ∧ parent.rowId = P.id ∧ parent.parentId = P.parent ∧
      parent.childCount = (db.bookmarks.filter (·.parent == P.id)).length := by
  unfold getRawBookmark at h
  split at h
  · rename_i r hr
    simp only [rawBookmarkRow, Option.map_eq_some'] at hr
    obtain ⟨P, hP, rfl⟩ := hr
    obtain ⟨h₁, h₂, h₃, -⟩ := RawBookmark.fromRow_ok (except_map_some_eq_ok h)
    exact ⟨P, List.mem_of_find?_eq_some hP, by simpa using List.find?_some hP, h₁, h₂, h₃⟩
  · cases h

/-- The kind `get_raw_bookmark` reads for a row: its `type`, or for a type
`BookmarkType::from_u8` does not know, a bookmark when the row has a page. -/
theorem getRawBookmark_type {parseUrl : String → Option Url} {db : Db} {guid : String}
    {parent : RawBookmark} (h : getRawBookmark parseUrl db guid = .ok (some parent)) :
    ∃ P ∈ db.bookmarks, P.guid = guid ∧ parent.rowId = P.id ∧
      parent.bookmarkType = (BookmarkType.fromU8 P.type).getD
        (if P.fk.isSome then .bookmark else .folder) := by
  unfold getRawBookmark at h
  split at h
  · rename_i r hr
    simp only [rawBookmarkRow, Option.map_eq_some'] at hr
    obtain ⟨P, hP, rfl⟩ := hr
    obtain ⟨h₁, -, -, h₄⟩ := RawBookmark.fromRow_ok (except_map_some_eq_ok h)
    exact ⟨P, List.mem_of_find?_eq_some hP, by simpa using List.find?_some hP, h₁, h₄⟩
  · cases h

/-- `get_raw_bookmark` of a GUID no row has finds nothing. -/
theorem getRawBookmark_none {parseUrl : String → Option Url} {db : Db} {guid : String}
    (h : ∀ b ∈ db.bookmarks, b.guid ≠ guid) : getRawBookmark parseUrl db guid = .ok none := by
  have : db.bookmarks.find? (·.guid == guid) = none :=
    List.find?_eq_none.2 fun b hb => by simpa using h b hb
  simp [getRawBookmark, rawBookmarkRow, this, pure, Except.pure]

/-! ## Inserting, proved -/

section Insert

variable {env : StorageEnv}

/-- Everything `insert_bookmark` can do to `moz_bookmarks`: fail before writing, or find a
folder, not the root, for the parent GUID, and then either fail after the position dance
or add the row `moz_bookmarks` makes of the values bound to the rows the dance left. -/
theorem insertBookmark_cases {bm : InsertableBookmark} {c c' : Conn} {r : Result String}
    (h : insertBookmark env bm c = (c', r)) :
    (c'.db.bookmarks = c.db.bookmarks ∧ ∃ e, r = .error e) ∨
    ∃ parent, BookmarkRootGuid.fromGuid bm.parentGuid ≠ some .root ∧
      getRawBookmark env.parseUrl c.db bm.parentGuid = .ok (some parent) ∧
      parent.bookmarkType = .folder ∧
      ((c'.db.bookmarks = (positionDance parent bm.position c.db.bookmarks).2 ∧
          ∃ e, r = .error e) ∨
        ∃ v row g,
          env.newBookmarkRow v (positionDance parent bm.position c.db.bookmarks).2 = .ok row ∧
          v.parent = parent.rowId ∧ v.position = (positionDance parent bm.position c.db.bookmarks).1 ∧
          v.type = bm.toBookmarkType.toU8 ∧
          c'.db.bookmarks = (positionDance parent bm.position c.db.bookmarks).2 ++ [row] ∧
          r = .ok g) := by
  unfold insertBookmark at h
  split_ifs at h with hroot
  · cases h
    exact .inl ⟨rfl, _, rfl⟩
  split at h
  · cases h
    exact .inl ⟨rfl, _, rfl⟩
  · cases h
    exact .inl ⟨rfl, _, rfl⟩
  · rename_i parent hget
    split_ifs at h with hfolder
    · cases h
      exact .inl ⟨rfl, _, rfl⟩
    refine .inr ⟨parent, hroot, hget, not_not.1 hfolder, ?_⟩
    split at h
    · cases h
      exact .inl ⟨rfl, _, rfl⟩
    · dsimp only at h
      split at h
      · rename_i hrow
        cases h
        exact .inr ⟨_, _, _, hrow, by cases bm <;> rfl, by cases bm <;> rfl, by cases bm <;> rfl,
          rfl, rfl⟩
      · cases h
        exact .inl ⟨rfl, _, rfl⟩

/-- A successful `insert_bookmark` found a folder for the parent GUID and added one row
to the rows the position dance left. -/
theorem insertBookmark_ok {bm : InsertableBookmark} {c c' : Conn} {g : String}
    (h : insertBookmark env bm c = (c', .ok g)) :
    ∃ parent, getRawBookmark env.parseUrl c.db bm.parentGuid = .ok (some parent) ∧
      parent.bookmarkType = .folder ∧
      ∃ row, c'.db.bookmarks = (positionDance parent bm.position c.db.bookmarks).2 ++ [row] := by
  obtain ⟨-, e, he⟩ | ⟨parent, -, hget, hfolder, ⟨-, e, he⟩ | ⟨-, row, -, -, -, -, -, hrow, -⟩⟩ :=
    insertBookmark_cases h
  · cases he
  · cases he
  · exact ⟨parent, hget, hfolder, row, hrow⟩

/-- A failed `insert_bookmark` of an item appended at the end writes no row. -/
theorem insertBookmark_error_append {bm : InsertableBookmark} {c c' : Conn} {e : Fault}
    (h : insertBookmark env bm c = (c', .error e)) (hpos : bm.position = .append) :
    c'.db.bookmarks = c.db.bookmarks := by
  obtain ⟨hrows, -⟩ | ⟨parent, -, -, -, ⟨hrows, -⟩ | ⟨-, row, g, -, -, -, -, -, hg⟩⟩ :=
    insertBookmark_cases h
  · exact hrows
  · rw [hrows, hpos, positionDance]
  · cases hg

/-- `insert_bookmark` under a parent GUID no row has fails before writing anything. -/
theorem insertBookmark_missing_parent {bm : InsertableBookmark} {c : Conn}
    (hnew : ∀ b ∈ c.db.bookmarks, b.guid ≠ bm.parentGuid) :
    ∃ e, insertBookmark env bm c = (c, .error e) := by
  unfold insertBookmark
  split_ifs
  · exact ⟨_, rfl⟩
  · rw [getRawBookmark_none hnew]
    exact ⟨_, rfl⟩

/-- Inserting into Unfiled, which has one child at position 0, at `Specific(0)`: the new
row and the old child are both at position 0, and the roots under the root move up. -/
theorem insertBookmark_specific_collides :
    insertBookmark StorageEnv.sample (.bookmarkType ⟨"unfiled_____", .specific 0, none, none,
        some "bookmarkBBBB", ⟨"http://a.example/", "/"⟩, none⟩) Conn.sample =
      (⟨{ Conn.sample.db with
          bookmarks := [⟨1, "root________", 0, 0, 2, none, none, 0, 0, 1, .new⟩,
            ⟨2, "menu________", 1, 1, 2, none, none, 0, 0, 1, .new⟩,
            ⟨3, "toolbar_____", 1, 2, 2, none, none, 0, 0, 1, .new⟩,
            ⟨4, "unfiled_____", 1, 3, 2, none, none, 0, 0, 1, .new⟩,
            ⟨5, "mobile______", 1, 4, 2, none, none, 0, 0, 1, .new⟩,
            ⟨6, "bookmarkCCCC", 4, 0, 1, none, some 1, 0, 0, 1, .new⟩,
            ⟨7, "bookmarkBBBB", 4, 0, 1, none, some 1, 0, 0, 1, .new⟩] }, 0⟩,
        .ok "bookmarkBBBB") :=
  rfl

end Insert

/-! ## Inserting a tree, proved -/

section Tree

variable (env : StorageEnv)

mutual

/-- Every insertable `add_subtree_infos` makes for a child is appended. -/
theorem childInfos_append (parent : String) :
    ∀ (child : BookmarkTreeNode) (n : Nat), ∀ bm ∈ (childInfos env parent child n).1,
      bm.position = .append
  | .bookmarkType _, _, bm, hbm => by
    simp only [childInfos, List.mem_singleton] at hbm
    subst hbm
    rfl
  | .bookmarkSeparator _, _, bm, hbm => by
    simp only [childInfos, List.mem_singleton] at hbm
    subst hbm
    rfl
  | .bookmarkFolder _ _ _ _ children, _, bm, hbm => by
    simp only [childInfos, List.mem_append, List.mem_singleton] at hbm
    rcases hbm with hbm | rfl
    · exact addSubtreeInfos_append _ children _ bm hbm
    · rfl

/-- Every insertable `add_subtree_infos` makes is appended. -/
theorem addSubtreeInfos_append (parent : String) :
    ∀ (children : List BookmarkTreeNode) (n : Nat), ∀ bm ∈ (addSubtreeInfos env parent children n).1,
      bm.position = .append
  | [], _, bm, hbm => by simp [addSubtreeInfos] at hbm
  | child :: rest, n, bm, hbm => by
    simp only [addSubtreeInfos, List.mem_append] at hbm
    rcases hbm with hbm | hbm
    · exact childInfos_append parent child n bm hbm
    · exact addSubtreeInfos_append parent rest _ bm hbm

end

variable {env}

/-- `insert_tree` inserts one by one, with no transaction: when an insert fails, every
insert before it has succeeded, and what it wrote stays. -/
theorem insertAll_error {infos : List InsertableBookmark} {c c' : Conn} {e : Fault}
    (h : insertAll env infos c = (c', .error e)) :
    ∃ pre bm post c₁, infos = pre ++ bm :: post ∧ insertAll env pre c = (c₁, .ok ()) ∧
      insertBookmark env bm c₁ = (c', .error e) := by
  induction infos generalizing c with
  | nil => cases h
  | cons bm rest ih =>
    simp only [insertAll] at h
    split at h
    · rename_i c₁ g hbm
      obtain ⟨pre, bm', post, c₂, rfl, hpre, hfail⟩ := ih h
      exact ⟨bm :: pre, bm', post, c₂, rfl, by simp [insertAll, hbm, hpre], hfail⟩
    · rename_i c₁ e' hbm
      cases h
      exact ⟨[], bm, rest, c, rfl, rfl, hbm⟩

/-- Appended inserts that all succeed add one row each after the rows there were. -/
theorem insertAll_ok_rows {infos : List InsertableBookmark} {c c₁ : Conn}
    (hpos : ∀ bm ∈ infos, bm.position = .append) (h : insertAll env infos c = (c₁, .ok ())) :
    ∃ rows, rows.length = infos.length ∧ c₁.db.bookmarks = c.db.bookmarks ++ rows := by
  induction infos generalizing c with
  | nil =>
    cases h
    exact ⟨[], rfl, by simp⟩
  | cons bm rest ih =>
    simp only [insertAll] at h
    split at h
    · rename_i c₂ g hbm
      obtain ⟨parent, -, -, row, hrow⟩ := insertBookmark_ok hbm
      obtain ⟨rows, hlen, hrows⟩ := ih (fun b hb => hpos b (.tail _ hb)) h
      refine ⟨row :: rows, by simp [hlen], ?_⟩
      rw [hrows, hrow, hpos bm (.head _)]
      simp [positionDance]
    · cases h

/-- A failed `insert_tree` keeps one row for each insertable `add_subtree_infos` listed
before the one that failed: `moz_bookmarks` is as before only when the first insert
fails. -/
theorem insertTree_error_rows {parent : String} {tree : BookmarkTreeFolder} {c c' : Conn}
    {e : Fault} (h : insertTree env parent tree c = (c', .error e)) :
    ∃ pre bm post, (addSubtreeInfos env parent tree.children c.draws).1 = pre ++ bm :: post ∧
      ∃ rows, rows.length = pre.length ∧ c'.db.bookmarks = c.db.bookmarks ++ rows := by
  obtain ⟨pre, bm, post, c₁, hinfos, hpre, hbm⟩ := insertAll_error h
  have hpos := addSubtreeInfos_append env parent tree.children c.draws
  rw [hinfos] at hpos
  obtain ⟨rows, hlen, hrows⟩ :=
    insertAll_ok_rows (fun b hb => hpos b (List.mem_append_left _ hb)) hpre
  refine ⟨pre, bm, post, hinfos, rows, hlen, ?_⟩
  rw [insertBookmark_error_append hbm (hpos bm (by simp)), hrows]

theorem insertTree_error_rows_sample :
    (insertTree StorageEnv.sample "unfiled_____" BookmarkTreeFolder.mixedSample Conn.sample).2 =
        .error (.err (.invalidPlaceInfo .invalidParent)) ∧
      ∃ pre bm post, (addSubtreeInfos StorageEnv.sample "unfiled_____"
          BookmarkTreeFolder.mixedSample.children Conn.sample.draws).1 = pre ++ bm :: post ∧
        ∃ rows, rows.length = pre.length ∧
          (insertTree StorageEnv.sample "unfiled_____" BookmarkTreeFolder.mixedSample
            Conn.sample).1.db.bookmarks = Conn.sample.db.bookmarks ++ rows :=
  ⟨rfl, insertTree_error_rows rfl⟩

/-- A tree whose first child is a folder with a GUID, led by a bookmark or a separator,
lists that bookmark or separator first: `add_subtree_infos` pushes the folder after its
children. -/
theorem addSubtreeInfos_leading_folder {parent g : String} {da lm : Option Int}
    {t : Option String} {child : BookmarkTreeNode} {cs rest : List BookmarkTreeNode} {n : Nat}
    (hchild : child.isFolder = false) :
    ∃ bm tail, (addSubtreeInfos env parent
        (.bookmarkFolder (some g) da lm t (child :: cs) :: rest) n).1 = bm :: tail ∧
      bm.parentGuid = g := by
  cases child with
  | bookmarkType b => exact ⟨_, _, rfl, rfl⟩
  | bookmarkSeparator s => exact ⟨_, _, rfl, rfl⟩
  | bookmarkFolder => cases hchild

/-- A tree that starts with a non-empty folder new to the table, whose first child is a
bookmark or a separator, fails at its first insert: the child's parent GUID names a row
that is not there yet. Nothing is written. -/
theorem insertTree_leading_folder_fails {parent g : String} {tree : BookmarkTreeFolder}
    {c : Conn} {da lm : Option Int} {t : Option String} {child : BookmarkTreeNode}
    {cs rest : List BookmarkTreeNode}
    (htree : tree.children = .bookmarkFolder (some g) da lm t (child :: cs) :: rest)
    (hchild : child.isFolder = false) (hnew : ∀ b ∈ c.db.bookmarks, b.guid ≠ g) :
    (insertTree env parent tree c).1.db = c.db ∧ ∃ e, (insertTree env parent tree c).2 = .error e := by
  obtain ⟨bm, tail, hinfos, hguid⟩ :=
    @addSubtreeInfos_leading_folder env parent g da lm t child cs rest c.draws hchild
  obtain ⟨e, he⟩ := @insertBookmark_missing_parent env bm
    { c with draws := (addSubtreeInfos env parent tree.children c.draws).2 } (hguid ▸ hnew)
  rw [htree] at he
  simp only [insertTree, htree, hinfos, insertAll, he]
  exact ⟨trivial, e, rfl⟩

theorem insertTree_leading_folder_fails_sample :
    (insertTree StorageEnv.sample "unfiled_____" BookmarkTreeFolder.nestedSample
        Conn.sample).1.db = Conn.sample.db ∧
      ∃ e, (insertTree StorageEnv.sample "unfiled_____" BookmarkTreeFolder.nestedSample
        Conn.sample).2 = .error e :=
  insertTree_leading_folder_fails rfl rfl (by decide)

/-- Inserting into Unfiled a tree of one folder that holds one bookmark fails with
`InvalidParent`: the bookmark is inserted first, under a folder GUID no row has yet. -/
theorem insertTree_nested_folder_fails :
    insertTree StorageEnv.sample "unfiled_____" BookmarkTreeFolder.nestedSample Conn.sample =
      (Conn.sample, .error (.err (.invalidPlaceInfo .invalidParent))) := rfl

/-- Inserting into Unfiled a bookmark followed by a non-empty folder fails at the folder's
child, and the bookmark inserted before stays in `moz_bookmarks`. -/
theorem insertTree_failure_keeps_rows :
    insertTree StorageEnv.sample "unfiled_____" BookmarkTreeFolder.mixedSample Conn.sample =
      (⟨{ Conn.sample.db with bookmarks := Conn.sample.db.bookmarks ++
          [⟨7, "bookmarkAAAA", 4, 1, 1, none, some 1, 0, 0, 1, .new⟩] }, 0⟩,
        .error (.err (.invalidPlaceInfo .invalidParent))) := rfl

end Tree

end BookmarkSync
