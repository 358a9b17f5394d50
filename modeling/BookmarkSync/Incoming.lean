import BookmarkSync.Record
import BookmarkSync.Store

/-!
# BookmarkSync.Incoming — writing incoming records into the mirror

`BookmarksStore::apply_payload` and the `store_incoming_*` functions of
`bookmark_sync/store.rs` (`bookmark_sync/incoming.rs` has an `IncomingApplicator` with
the same bodies). Each decodes nothing itself: `apply_payload` decodes the payload
(`BookmarkItemRecord.fromPayload`) and hands the record to the function for its kind,
which interns URLs in `moz_places`, decides a validity, and `REPLACE`s one mirror row;
a folder also `REPLACE`s one structure row per child.

The second half abstracts this into a `Plan`: the row a record writes (its `placeId`
aside), the URL it interns, and the children it lists. `planOf` computes the plan from
the record alone, and `applyPayload_eq` says that ingesting a payload is carrying out
its plan on the connection. Every ingestion theorem is proved from that equation,
without unfolding the store functions again. The model's statements do not fail: an
I/O error of the store, or a constraint of the schema the source does not show, is not
modelled.
-/

namespace BookmarkSync

/-! ## Helpers of the source -/

/-- `RESULTS_AS_TAG_CONTENTS`: Desktop's query `type` for the contents of a tag. -/
def resultsAsTagContents : String := "7"

/-- Unicode `White_Space`: what `str::trim` strips. -/
def isWhiteSpace (c : Char) : Bool :=
  let n := c.toNat
  (0x9 ≤ n && n ≤ 0xD) || n == 0x20 || n == 0x85 || n == 0xA0 || n == 0x1680 ||
    (0x2000 ≤ n && n ≤ 0x200A) || n == 0x2028 || n == 0x2029 || n == 0x202F ||
    n == 0x205F || n == 0x3000

/-- `str::trim`. -/
def strTrim (s : String) : String :=
  (s.dropWhile isWhiteSpace).dropRightWhile isWhiteSpace

/-- `NULLIF(:title, "")`. -/
def nullIf : Option String → Option String
  | some "" => none
  | t => t

/-- The longest prefix of `cs` that fits in `n` UTF-8 bytes. -/
def takeUtf8 : Nat → List Char → List Char
  | _, [] => []
  | n, c :: cs => if c.utf8Size ≤ n then c :: takeUtf8 (n - c.utf8Size) cs else []

section Incoming

variable (env : Env)

/-- Modelled from the spec: `maybe_truncate_title`, missing from the source. A title is
truncated to `TITLE_LENGTH_MAX` bytes, at a character boundary. -/
def maybeTruncateTitle (title : Option String) : Option String :=
  title.map fun t => ⟨takeUtf8 env.titleLengthMax t.data⟩

/-- `Url::parse`, as a `Result`. -/
def urlParse (s : String) : Except Error Url :=
  match env.parseUrl s with
  | some u => .ok u
  | none => .error .urlParse

/-- `validate_tag`: a trimmed tag, dropped when empty or oversized. -/
def validateTag : Option String → Option String
  | none => none
  | some t =>
    let t := strTrim t
    if t.utf8ByteSize = 0 ∨ t.utf8ByteSize > env.tagLengthMax then none else some t

/-- `maybe_store_url`: refuse an absent or too long URL, else intern it. -/
def maybeStoreUrl (url : Option Url) (places : List PlaceRow) :
    Except Error (Url × List PlaceRow) :=
  match url with
  | some url =>
    if url.serialization.utf8ByteSize > env.urlLengthMax then
      .error (.invalidPlaceInfo .urlTooLong)
    else .ok (url, insertPlace env url.serialization places)
  | none => .error (.invalidPlaceInfo .noUrl)

/-- `maybe_store_href`: parse, then `maybe_store_url`. -/
def maybeStoreHref (href : Option String) (places : List PlaceRow) :
    Except Error (Url × List PlaceRow) :=
  match href with
  | some href => do
    let url ← urlParse env href
    maybeStoreUrl env (some url) places
  | none => maybeStoreUrl env none places

/-- `store_incoming_bookmark`. A URL that cannot be stored makes the row `Replace`. -/
def storeIncomingBookmark (modified : ServerTimestamp) (b : BookmarkRecord) (db : Db) :
    Result Db :=
  let (url, validity, places) : Option String × SyncedBookmarkValidity × List PlaceRow :=
    match maybeStoreHref env b.url db.places with
    | .ok (url, places) => (some url.serialization, .valid, places)
    | .error _ => (none, .replace, db.places)
  pure { db with
    places
    synced := replaceBy MirrorRow.guid
      { MirrorRow.empty b.guid with
        parentGuid := b.parentGuid, serverModified := modified.asMillis, needsMerge := true,
        kind := some .bookmark, dateAdded := b.dateAdded,
        title := nullIf (maybeTruncateTitle env b.title), keyword := b.keyword, validity,
        placeId := placeIdFor env url places } db.synced }

/-- The loop of `store_incoming_folder`: one `REPLACE INTO
moz_bookmarks_synced_structure` per child, at its index. -/
def replaceChildren (folderGuid : String) : Nat → List String → List StructureRow →
    List StructureRow
  | _, [], t => t
  | i, c :: cs, t =>
    replaceChildren folderGuid (i + 1) cs (replaceBy StructureRow.guid ⟨c, folderGuid, i⟩ t)

@[simp] theorem replaceChildren_nil (g : String) (i : Nat) (t : List StructureRow) :
    replaceChildren g i [] t = t := rfl

/-- `store_incoming_folder`. -/
def storeIncomingFolder (modified : ServerTimestamp) (f : FolderRecord) (db : Db) :
    Result Db :=
  pure { db with
    synced := replaceBy MirrorRow.guid
      { MirrorRow.empty f.guid with
        parentGuid := f.parentGuid, serverModified := modified.asMillis, needsMerge := true,
        kind := some .folder, dateAdded := f.dateAdded,
        title := nullIf (maybeTruncateTitle env f.title) } db.synced
    syncedStructure := replaceChildren f.guid 0 f.children db.syncedStructure }

/-- `store_incoming_tombstone`. -/
def storeIncomingTombstone (modified : ServerTimestamp) (guid : String) (db : Db) :
    Result Db :=
  pure { db with
    synced := replaceBy MirrorRow.guid
      { MirrorRow.empty guid with
        serverModified := modified.asMillis, needsMerge := true, dateAdded := some 0,
        isDeleted := true } db.synced }

/-- The first half of `determine_query_url_and_validity`: the URL a query should have,
and its validity, before the URL is stored. The "parameters" of a `place:` URL are its
path. -/
def rewriteQueryUrl (q : QueryRecord) (url : Url) :
    Except Error (Option Url × SyncedBookmarkValidity) :=
  let parse := env.formUrlencodedParse url.path
  if parse.any fun kv => kv.1 == "type" && kv.2 == resultsAsTagContents then
    match validateTag env q.tagFolderName with
    | some tag => do
      let u ← urlParse env ("place:tag=" ++ tag)
      pure (some u, .reupload)
    | none => pure (none, .replace)
  else if parse.any fun kv => kv.1 == "folder" then
    if parse.any fun kv => kv.1 == "excludeItems" && kv.2 == "1" then pure (some url, .valid)
    else do
      let tail := env.formUrlencodedSerialize (parse ++ [("excludeItems", "1")])
      let u ← urlParse env ("place:" ++ tail)
      pure (some u, .reupload)
  else pure (some url, .valid)

/-- `determine_query_url_and_validity`: rewrite, then store; a URL that cannot be
stored makes the row `Replace`. -/
def determineQueryUrlAndValidity (q : QueryRecord) (url : Url) (places : List PlaceRow) :
    Except Error (Option Url × SyncedBookmarkValidity × List PlaceRow) := do
  let (maybeUrl, validity) ← rewriteQueryUrl env q url
  pure <| match maybeStoreUrl env maybeUrl places with
    | .ok (url, places) => (some url, validity, places)
    | .error _ => (none, .replace, places)

/-- `store_incoming_query`. Its `placeId` subquery has no `CASE WHEN :url ISNULL` guard;
`url = NULL` matches no row, so a `NULL` URL gets a `NULL` placeId all the same (and
`test_apply_query` ingests such a record without an error). -/
def storeIncomingQuery (modified : ServerTimestamp) (q : QueryRecord) (db : Db) :
    Result Db := do
  let (url, validity, places) ← match q.url.bind env.parseUrl with
    | some url => liftErr (determineQueryUrlAndValidity env q url db.places)
    | none => pure (none, .replace, db.places)
  pure { db with
    places
    synced := replaceBy MirrorRow.guid
      { MirrorRow.empty q.guid with
        parentGuid := q.parentGuid, serverModified := modified.asMillis, needsMerge := true,
        kind := some .query, dateAdded := q.dateAdded,
        title := nullIf (maybeTruncateTitle env q.title), validity,
        placeId := placeIdFor env (url.map Url.serialization) places } db.synced }

/-- `validate_href` of `store_incoming_livemark`: a parsed URL within the length limit,
else nothing. -/
def validateHref (h : Option String) : Option String :=
  match h with
  | some h => match env.parseUrl h with
    | some url =>
      if url.serialization.utf8ByteSize > env.urlLengthMax then none else some url.serialization
    | none => none
  | none => none

/-- `store_incoming_livemark`. Livemarks are not interned, and the title is bound as it
came. -/
def storeIncomingLivemark (modified : ServerTimestamp) (l : LivemarkRecord) (db : Db) :
    Result Db :=
  let feedUrl := validateHref env l.feedUrl
  let siteUrl := validateHref env l.siteUrl
  let validity : SyncedBookmarkValidity := if feedUrl.isSome then .valid else .replace
  pure { db with
    synced := replaceBy MirrorRow.guid
      { MirrorRow.empty l.guid with
        parentGuid := l.parentGuid, serverModified := modified.asMillis, needsMerge := true,
        kind := some .livemark, dateAdded := l.dateAdded, title := l.title, feedUrl,
        siteUrl, validity } db.synced }

/-- `store_incoming_sep`. -/
def storeIncomingSep (modified : ServerTimestamp) (s : SeparatorRecord) (db : Db) :
    Result Db :=
  pure { db with
    synced := replaceBy MirrorRow.guid
      { MirrorRow.empty s.guid with
        parentGuid := s.parentGuid, serverModified := modified.asMillis, needsMerge := true,
        kind := some .separator, dateAdded := s.dateAdded } db.synced }

/-- `BookmarksStore::apply_payload`. -/
def applyPayload (timestamp : ServerTimestamp) (payload : Payload) (db : Db) : Result Db := do
  let item ← BookmarkItemRecord.fromPayload payload
  match item with
  | .tombstone guid => storeIncomingTombstone timestamp guid db
  | .bookmark b => storeIncomingBookmark env timestamp b db
  | .query q => storeIncomingQuery env timestamp q db
  | .folder f => storeIncomingFolder env timestamp f db
  | .livemark l => storeIncomingLivemark env timestamp l db
  | .separator s => storeIncomingSep timestamp s db

end Incoming

/-! ## Plans -/

/-- What ingesting one record does, whatever the connection: the mirror row it writes
(its `placeId` aside), the URL it interns and points `placeId` at, and the children it
lists (a folder's, at their indices). -/
structure Plan where
  row : MirrorRow
  url : Option String
  children : List String
  deriving DecidableEq, Repr

section Plans

variable (env : Env)

/-- A plan carried out on a connection. -/
def Plan.run (pl : Plan) (db : Db) : Db :=
  let places := (pl.url.map fun u => insertPlace env u db.places).getD db.places
  { db with
    places
    synced := replaceBy MirrorRow.guid
      { pl.row with placeId := placeIdFor env pl.url places } db.synced
    syncedStructure := replaceChildren pl.row.guid 0 pl.children db.syncedStructure }

/-- A URL `maybe_store_url` accepts. -/
def storableUrl (url : Url) : Option Url :=
  if url.serialization.utf8ByteSize > env.urlLengthMax then none else some url

/-- The plan of a record, or the error its ingestion ends in. -/
def planOf (modified : ServerTimestamp) : BookmarkItemRecord → Result Plan
  | .tombstone guid => pure
      ⟨{ MirrorRow.empty guid with
          serverModified := modified.asMillis, needsMerge := true, dateAdded := some 0,
          isDeleted := true }, none, []⟩
  | .bookmark b =>
    let url := ((b.url.bind env.parseUrl).bind (storableUrl env)).map Url.serialization
    pure ⟨{ MirrorRow.empty b.guid with
        parentGuid := b.parentGuid, serverModified := modified.asMillis, needsMerge := true,
        kind := some .bookmark, dateAdded := b.dateAdded,
        title := nullIf (maybeTruncateTitle env b.title), keyword := b.keyword,
        validity := if url.isSome then .valid else .replace }, url, []⟩
  | .query q => do
    let (maybeUrl, validity) ← match q.url.bind env.parseUrl with
      | some url => liftErr (rewriteQueryUrl env q url)
      | none => pure (none, .replace)
    let url := (maybeUrl.bind (storableUrl env)).map Url.serialization
    pure ⟨{ MirrorRow.empty q.guid with
        parentGuid := q.parentGuid, serverModified := modified.asMillis, needsMerge := true,
        kind := some .query, dateAdded := q.dateAdded,
        title := nullIf (maybeTruncateTitle env q.title),
        validity := if url.isSome then validity else .replace }, url, []⟩
  | .folder f => pure
      ⟨{ MirrorRow.empty f.guid with
          parentGuid := f.parentGuid, serverModified := modified.asMillis, needsMerge := true,
          kind := some .folder, dateAdded := f.dateAdded,
          title := nullIf (maybeTruncateTitle env f.title) }, none, f.children⟩
  | .livemark l =>
    let feedUrl := validateHref env l.feedUrl
    pure ⟨{ MirrorRow.empty l.guid with
        parentGuid := l.parentGuid, serverModified := modified.asMillis, needsMerge := true,
        kind := some .livemark, dateAdded := l.dateAdded, title := l.title, feedUrl,
        siteUrl := validateHref env l.siteUrl,
        validity := if feedUrl.isSome then .valid else .replace }, none, []⟩
  | .separator s => pure
      ⟨{ MirrorRow.empty s.guid with
          parentGuid := s.parentGuid, serverModified := modified.asMillis, needsMerge := true,
          kind := some .separator, dateAdded := s.dateAdded }, none, []⟩

/-- The plan of a payload: decode, then plan. -/
def payloadPlan (timestamp : ServerTimestamp) (payload : Payload) : Result Plan :=
  BookmarkItemRecord.fromPayload payload >>= planOf env timestamp

variable {env}

theorem storeIncomingBookmark_eq (modified : ServerTimestamp) (b : BookmarkRecord) (db : Db) :
    storeIncomingBookmark env modified b db =
      (planOf env modified (.bookmark b)).map (Plan.run env · db) := by
  rcases hu : b.url with _ | h
  · simp [storeIncomingBookmark, planOf, Plan.run, maybeStoreHref, maybeStoreUrl, hu]
  rcases hp : env.parseUrl h with _ | u
  · simp [storeIncomingBookmark, planOf, Plan.run, maybeStoreHref, urlParse, hu, hp]
  by_cases hl : u.serialization.utf8ByteSize > env.urlLengthMax
  · simp [storeIncomingBookmark, planOf, Plan.run, maybeStoreHref, maybeStoreUrl, urlParse,
      storableUrl, hu, hp, hl]
  · simp [storeIncomingBookmark, planOf, Plan.run, maybeStoreHref, maybeStoreUrl, urlParse,
      storableUrl, hu, hp, hl]

theorem storeIncomingQuery_eq (modified : ServerTimestamp) (q : QueryRecord) (db : Db) :
    storeIncomingQuery env modified q db =
      (planOf env modified (.query q)).map (Plan.run env · db) := by
  rcases hu : q.url.bind env.parseUrl with _ | url
  · simp [storeIncomingQuery, planOf, Plan.run, hu]
  rcases hr : rewriteQueryUrl env q url with e | ⟨_ | u, validity⟩
  · simp [storeIncomingQuery, planOf, hu, hr, determineQueryUrlAndValidity]
  · simp [storeIncomingQuery, planOf, Plan.run, hu, hr, determineQueryUrlAndValidity,
      maybeStoreUrl]
  · by_cases hl : u.serialization.utf8ByteSize > env.urlLengthMax <;>
      simp [storeIncomingQuery, planOf, Plan.run, hu, hr, determineQueryUrlAndValidity,
        maybeStoreUrl, storableUrl, hl]

/-- Ingesting a payload is carrying out its plan. -/
theorem applyPayload_eq (timestamp : ServerTimestamp) (payload : Payload) (db : Db) :
    applyPayload env timestamp payload db =
      (payloadPlan env timestamp payload).map (Plan.run env · db) := by
  unfold applyPayload payloadPlan
  cases BookmarkItemRecord.fromPayload payload with
  | error e => rfl
  | ok item =>
    cases item with
    | bookmark b => exact storeIncomingBookmark_eq timestamp b db
    | query q => exact storeIncomingQuery_eq timestamp q db
    | tombstone g => simp [storeIncomingTombstone, planOf, Plan.run, placeIdFor, MirrorRow.empty]
    | folder f => simp [storeIncomingFolder, planOf, Plan.run, placeIdFor, MirrorRow.empty]
    | livemark l => simp [storeIncomingLivemark, planOf, Plan.run, placeIdFor, MirrorRow.empty]
    | separator s => simp [storeIncomingSep, planOf, Plan.run, placeIdFor, MirrorRow.empty]

/-- An ingestion that succeeds has carried out its payload's plan. -/
theorem applyPayload_eq_ok {t : ServerTimestamp} {p : Payload} {db db' : Db}
    (h : applyPayload env t p db = .ok db') : ∃ pl, payloadPlan env t p = .ok pl ∧ pl.run env db = db' := by
  rw [applyPayload_eq] at h
  cases hpl : payloadPlan env t p with
  | error e => simp [hpl] at h
  | ok pl => exact ⟨pl, rfl, by simpa [hpl] using h⟩

/-- Every plan writes one mirror row, for the record's GUID and marked for merging, and
lists the record's children. -/
theorem planOf_ok {modified : ServerTimestamp} {r : BookmarkItemRecord} {pl : Plan}
    (h : planOf env modified r = .ok pl) :
    pl.row.guid = r.guid ∧ pl.row.needsMerge = true ∧ pl.children = r.children := by
  cases r with
  | query q =>
    simp only [planOf] at h
    split at h
    · obtain ⟨⟨_, _⟩, -, h⟩ := except_bind_eq_ok h
      cases h; exact ⟨rfl, rfl, rfl⟩
    · cases h; exact ⟨rfl, rfl, rfl⟩
  | _ => cases h; exact ⟨rfl, rfl, rfl⟩

/-- Every live row a plan writes has a kind. -/
theorem planOf_kind {modified : ServerTimestamp} {r : BookmarkItemRecord} {pl : Plan}
    (h : planOf env modified r = .ok pl) (hd : pl.row.isDeleted = false) : pl.row.kind.isSome := by
  cases r with
  | tombstone g => cases h; cases hd
  | query q =>
    simp only [planOf] at h
    split at h
    · obtain ⟨_, -, h⟩ := except_bind_eq_ok h
      cases h; rfl
    · cases h; rfl
  | _ => cases h; rfl

/-- A query's URL rewrite fails only to parse the URL it builds. -/
theorem rewriteQueryUrl_error {q : QueryRecord} {url : Url} {e : Error}
    (h : rewriteQueryUrl env q url = .error e) : e = .urlParse := by
  simp only [rewriteQueryUrl, urlParse] at h
  split_ifs at h <;> (repeat' split at h) <;> cases h <;> rfl

/-- A record fails to plan only when a query's rewritten URL does not parse. -/
theorem planOf_error {modified : ServerTimestamp} {r : BookmarkItemRecord} {f : Fault}
    (h : planOf env modified r = .error f) : f = .err .urlParse := by
  cases r with
  | query q =>
    simp only [planOf] at h
    split at h
    · rcases except_bind_eq_error h with h | ⟨_, -, h⟩
      · obtain ⟨e, he, rfl⟩ := liftErr_eq_error h
        rw [rewriteQueryUrl_error he]
      · cases h
    · cases h
  | _ => cases h

/-- A payload's plan writes one mirror row, for the GUID of the payload's record and
marked for merging, and lists the record's children. -/
theorem payloadPlan_ok {t : ServerTimestamp} {p : Payload} {pl : Plan}
    (h : payloadPlan env t p = .ok pl) :
    ∃ r, BookmarkItemRecord.fromPayload p = .ok r ∧ pl.row.guid = r.guid ∧
      pl.row.needsMerge = true ∧ pl.children = r.children := by
  obtain ⟨r, hr, h⟩ := except_bind_eq_ok h
  exact ⟨r, hr, planOf_ok h⟩

/-- A payload fails to plan when it fails to decode, or when a query's rewritten URL
does not parse. -/
theorem payloadPlan_error {t : ServerTimestamp} {p : Payload} {f : Fault}
    (h : payloadPlan env t p = .error f) :
    BookmarkItemRecord.fromPayload p = .error f ∨ f = .err .urlParse := by
  rcases except_bind_eq_error h with h | ⟨_, -, h⟩
  · exact .inl h
  · exact .inr (planOf_error h)

end Plans

end BookmarkSync
