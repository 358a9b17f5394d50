import BookmarkSync.Trees

/-!
# BookmarkSync.History — the history store of the `places` crate

`src/places/src/storage.rs`, over the two tables of `src/places/src/schema.rs` it writes:
`moz_places`, a row per page, and `moz_historyvisits`, a row per visit.

* `applyObservationDirect`: find the page an observation names (`fetchPageInfo`) or make
  it (`newPageInfo`), record the visit (`addVisit`), then update the page's title,
  counters, last visit dates and frecency. It runs in no transaction of its own, so it
  returns the connection it leaves beside its result;
* `ManyVisitObservations`: a buffer of observations handed to `applyObservations` in
  batches.

What the crate takes from outside is `HistoryEnv`: `Url::parse`, the `hash()` SQL
function, `random_guid`, `Timestamp::now` and `frecency::calculate_frecency`, none of
which is in the source.

What holds:

* `applyObservationDirect_new_page_fails` — the `INSERT` of `new_page_info` names no
  `origin_id`, which the schema declares `NOT NULL` with no default: an observation of a
  URL that has no page fails, and changes nothing;
* so along every run from an empty database there is no page and no visit
  (`observeAll_empty`): every page agrees with its visits
  (`observeAll_visitCountsAgree`), and no observation of a URL panics
  (`applyObservationDirect_reachable_no_panic`);
* `applyObservationDirect_visit_disagrees` — where a page exists, agreement is not kept:
  `add_visit` is handed `is_remote` as `is_local`, so a visit is recorded under the other
  locality than the counter it raises;
* `ManyVisitObservations.handed_new` — without a limit, `add` hands `apply_observations`
  the buffer, which nothing fills, and never the visits it is given;
* `ManyVisitObservations.handed_withLimit` — with a limit, `add` never empties the buffer:
  once it is full, every `add` hands over its first `limit` observations again, and
  `flush` all of them.
-/

namespace BookmarkSync

namespace History

/-! ## Observations and rows -/

/-- `types::VisitTransition`, written to the database as its discriminant. -/
inductive VisitTransition where
  | link | typed | bookmark | embed | redirectPermanent | redirectTemporary | download
  | framedLink | reload
  deriving DecidableEq, Repr

/-- The discriminant of a `VisitTransition`. -/
def VisitTransition.toU8 : VisitTransition → Nat
  | .link => 1 | .typed => 2 | .bookmark => 3 | .embed => 4 | .redirectPermanent => 5
  | .redirectTemporary => 6 | .download => 7 | .framedLink => 8 | .reload => 9

/-- `PageId`: a page named by its GUID or by its URL. -/
inductive PageId where
  | guid (guid : String)
  | url (url : Url)
  deriving DecidableEq, Repr

/-- `observation::VisitObservation`, whose definition is not in the source: what its
getters return. -/
structure VisitObservation where
  pageId : PageId
  title : Option String
  visitType : Option VisitTransition
  isHidden : Bool
  wasTyped : Bool
  /-- `get_at()`, in milliseconds. -/
  atTime : Option Int
  isRemote : Bool
  isError : Bool
  redirectFrecencyBoost : Bool
  deriving DecidableEq, Repr

/-- A row of `moz_places`, with the columns `storage.rs` reads or writes. `hidden`,
`typed`, `frecency`, `url_hash` and `origin_id` are `NOT NULL`; the visit counts are
`DEFAULT 0`, and nothing in the source writes them `NULL`. -/
structure PageRow where
  id : Int
  guid : Option String
  url : Option String
  title : Option String
  hidden : Int
  typed : Int
  frecency : Int
  visitCountLocal : Int
  visitCountRemote : Int
  lastVisitDateLocal : Option Int
  lastVisitDateRemote : Option Int
  urlHash : Int
  originId : Int
  deriving DecidableEq, Repr

/-- A row of `moz_historyvisits`. -/
structure VisitRow where
  id : Int
  isLocal : Bool
  fromVisit : Option Int
  placeId : Int
  visitDate : Option Int
  visitType : Option Nat
  deriving DecidableEq, Repr

/-- The tables of `schema::create` that `storage.rs` touches. -/
structure HistoryDb where
  places : List PageRow
  visits : List VisitRow
  deriving DecidableEq, Repr

/-- The database `schema::create` makes. -/
def HistoryDb.empty : HistoryDb := ⟨[], []⟩

/-- What the crate takes from outside and the source does not define. -/
structure HistoryEnv where
  /-- `Url::parse`. -/
  parseUrl : String → Option Url
  /-- The `hash()` SQL function. -/
  hash : String → Int
  /-- `sync::util::random_guid()`. Its error, which the source `expect`s away, is not
  modelled. -/
  randomGuid : HistoryDb → String
  /-- `Timestamp::now()`, in milliseconds. -/
  now : Int
  /-- `frecency::calculate_frecency` with the default settings, for a page id and a
  redirect boost. -/
  calculateFrecency : HistoryDb → Int → Option Bool → Result Int

/-- An environment to run the model on. -/
def HistoryEnv.sample : HistoryEnv where
  parseUrl s := some ⟨s, s⟩
  hash s := s.length
  randomGuid _ := "guidAAAAAAAA"
  now := 0
  calculateFrecency _ _ _ := pure 0

/-- A typed, local visit of a page. -/
def VisitObservation.sample : VisitObservation :=
  ⟨.url ⟨"https://a.example/", "/"⟩, some "A", some .typed, false, true, some 5, false, false,
    false⟩

/-- A page visited once, locally, at 5: its counters and dates agree with its visit. -/
def HistoryDb.sampleVisited : HistoryDb :=
  ⟨[⟨1, some "pageAAAAAAAA", some "https://a.example/", some "A", 0, 1, 0, 1, 0, some 5, some 0,
      18, 1⟩],
   [⟨1, true, none, 1, some 5, some 1⟩]⟩

/-! ## Reading a page -/

/-- `PageInfo`: a page as `storage.rs` works with it. -/
structure PageInfo where
  pageId : PageId
  rowId : Int
  url : Url
  title : String
  hidden : Bool
  typed : Nat
  frecency : Int
  visitCountLocal : Int
  visitCountRemote : Int
  lastVisitDateLocal : Int
  lastVisitDateRemote : Int
  deriving DecidableEq, Repr

/-- `row.get_checked::<_, i32>`: an integer column read as an `i32`. -/
def getI32 (column : String) (v : Int) : Result Int :=
  if -2147483648 ≤ v ∧ v < 2147483648 then pure v
  else throw (.err (.integralValueOutOfRange column))

section Reading

variable (env : HistoryEnv)

/-- `PageInfo::from_row`. A `NULL` URL is `expect`ed away: a panic. -/
def PageInfo.fromRow (r : PageRow) : Result PageInfo := do
  let guid ← getChecked "guid" r.guid
  let url ← match r.url with
    | some s => match env.parseUrl s with
      | some u => pure u
      | none => throw (.err .urlParse)
    | none => throw (.panic "non null column")
  let typed ← getU32 "typed" r.typed
  let frecency ← getI32 "frecency" r.frecency
  let visitCountLocal ← getI32 "visit_count_local" r.visitCountLocal
  let visitCountRemote ← getI32 "visit_count_remote" r.visitCountRemote
  pure { pageId := .guid guid, url, rowId := r.id, title := r.title.getD "",
         hidden := r.hidden != 0, typed, frecency, visitCountLocal, visitCountRemote,
         lastVisitDateLocal := r.lastVisitDateLocal.getD 0,
         lastVisitDateRemote := r.lastVisitDateRemote.getD 0 }

/-- SQL's `=`: `NULL` equals nothing. -/
def sqlEq (a b : Option Int) : Bool :=
  a.isSome && a == b

/-- The `last_visit_id` subquery of `fetch_page_info`: a visit of the page on one of its
last visit dates. -/
def lastVisitId (visits : List VisitRow) (p : PageRow) : Option Int :=
  (visits.find? fun v => v.placeId == p.id &&
    (sqlEq v.visitDate p.lastVisitDateLocal || sqlEq v.visitDate p.lastVisitDateRemote)).map
    VisitRow.id

/-- `FetchedPageInfo::from_row`: the page and its last visit, which is `expect`ed: a page
with no visit on its last visit dates is a panic. -/
def FetchedPageInfo.fromRow (visits : List VisitRow) (r : PageRow) : Result (PageInfo × Int) := do
  let page ← PageInfo.fromRow env r
  match lastVisitId visits r with
  | some i => pure (page, i)
  | none => throw (.panic "No visit id!")

/-- The row `fetch_page_info` selects: by GUID, or by URL hash and URL. -/
def pageRowFor (db : HistoryDb) : PageId → Option PageRow
  | .guid g => db.places.find? (·.guid == some g)
  | .url u => db.places.find? fun r =>
      r.urlHash == env.hash u.serialization && r.url == some u.serialization

/-- `fetch_page_info`. -/
def fetchPageInfo (db : HistoryDb) (pageId : PageId) : Result (Option (PageInfo × Int)) :=
  match pageRowFor env db pageId with
  | some r => some <$> FetchedPageInfo.fromRow env db.visits r
  | none => pure none

/-- A page read has the row's id and visit counters. -/
theorem PageInfo.fromRow_eq_ok {r : PageRow} {info : PageInfo}
    (h : PageInfo.fromRow env r = .ok info) :
    info.rowId = r.id ∧ info.visitCountLocal = r.visitCountLocal ∧
      info.visitCountRemote = r.visitCountRemote := by
  unfold PageInfo.fromRow at h
  obtain ⟨_, -, h⟩ := except_bind_eq_ok h
  dsimp only at h
  split at h
  · split at h
    · obtain ⟨_, -, h⟩ := except_bind_eq_ok h
      obtain ⟨_, -, h⟩ := except_bind_eq_ok h
      obtain ⟨_, -, h⟩ := except_bind_eq_ok h
      obtain ⟨l, hl, h⟩ := except_bind_eq_ok h
      obtain ⟨rm, hrm, h⟩ := except_bind_eq_ok h
      cases h
      simp only [getI32] at hl hrm
      split_ifs at hl hrm
      cases hl
      cases hrm
      exact ⟨rfl, rfl, rfl⟩
    · cases h
  · cases h

/-- A page `fetch_page_info` finds is a row of `moz_places`, read. -/
theorem fetchPageInfo_eq_some {db : HistoryDb} {pageId : PageId} {info : PageInfo} {i : Int}
    (h : fetchPageInfo env db pageId = .ok (some (info, i))) :
    ∃ r ∈ db.places, PageInfo.fromRow env r = .ok info := by
  unfold fetchPageInfo at h
  split at h
  · next r hr =>
    obtain ⟨⟨info', i'⟩, hf, h⟩ := except_bind_eq_ok h
    cases h
    have hmem : r ∈ db.places := by
      cases pageId <;> exact List.mem_of_find?_eq_some hr
    obtain ⟨page, hpage, hf⟩ := except_bind_eq_ok hf
    split at hf
    · cases hf
      exact ⟨r, hmem, hpage⟩
    · cases hf
  · cases h

end Reading

/-! ## Writing -/

/-- The rowid SQLite gives a new row: one past the largest, or 1 in an empty table. -/
def nextId (ids : List Int) : Int :=
  (ids.max?.map (· + 1)).getD 1

/-- The values an `INSERT INTO moz_places` names; a column it leaves out is `NULL`. -/
structure PageInsert where
  guid : Option String
  url : Option String
  urlHash : Option Int
  originId : Option Int

/-- `INSERT INTO moz_places` under the schema: a column left out takes its default
(`hidden`, `typed` and the visit counts `0`, `frecency` `-1`, `url_hash` `0`); a `NULL` in
a `NOT NULL` column, or a GUID already taken, fails the statement. `origin_id` has no
default. -/
def insertPage (v : PageInsert) (db : HistoryDb) : Except Error (Int × HistoryDb) :=
  match v.originId with
  | none => .error (.sql "NOT NULL constraint failed: moz_places.origin_id")
  | some originId =>
    if v.guid.isSome && db.places.any (·.guid == v.guid) then
      .error (.sql "UNIQUE constraint failed: moz_places.guid")
    else
      let id := nextId (db.places.map PageRow.id)
      .ok (id, { db with places := db.places ++ [
        { id, guid := v.guid, url := v.url, title := none, hidden := 0, typed := 0,
          frecency := -1, visitCountLocal := 0, visitCountRemote := 0,
          lastVisitDateLocal := none, lastVisitDateRemote := none,
          urlHash := v.urlHash.getD 0, originId }] })

/-- `new_page_info`: a page can be made from a URL only. -/
def newPageInfo (env : HistoryEnv) (pageId : PageId) (db : HistoryDb) :
    Result (PageInfo × HistoryDb) :=
  match pageId with
  | .guid _ => throw (.panic "Need to think this through, but items must be created with a url")
  | .url u => do
    let guid := env.randomGuid db
    let (rowId, db) ← liftErr (insertPage
      ⟨some guid, some u.serialization, some (env.hash u.serialization), none⟩ db)
    pure ({ pageId := .guid guid, rowId, url := u, title := "", hidden := true, typed := 0,
            frecency := -1, visitCountLocal := 0, visitCountRemote := 0,
            lastVisitDateLocal := 0, lastVisitDateRemote := 0 }, db)

/-- `add_visit`: a row of `moz_historyvisits`, and its rowid. The schema's foreign keys are
not enforced: the source never turns `PRAGMA foreign_keys` on. -/
def addVisit (pageId : Int) (fromVisit : Option Int) (visitDate : Int)
    (visitType : VisitTransition) (isLocal : Bool) (db : HistoryDb) : Int × HistoryDb :=
  let id := nextId (db.visits.map VisitRow.id)
  (id, { db with visits := db.visits ++
    [{ id, isLocal, fromVisit, placeId := pageId, visitDate := some visitDate,
       visitType := some visitType.toU8 }] })

/-- A `col = :name` of the `UPDATE moz_places` of `apply_observation_direct`. -/
inductive PageUpdate where
  | title (title : String)
  | hidden (hidden : Bool)
  | typed (typed : Nat)
  | visitCountRemote (count : Int)
  | lastVisitDateRemote (date : Int)
  | visitCountLocal (count : Int)
  | lastVisitDateLocal (date : Int)

/-- What one assignment writes. -/
def PageUpdate.set : PageUpdate → PageRow → PageRow
  | .title t, r => { r with title := some t }
  | .hidden h, r => { r with hidden := if h then 1 else 0 }
  | .typed n, r => { r with typed := n }
  | .visitCountRemote n, r => { r with visitCountRemote := n }
  | .lastVisitDateRemote t, r => { r with lastVisitDateRemote := some t }
  | .visitCountLocal n, r => { r with visitCountLocal := n }
  | .lastVisitDateLocal t, r => { r with lastVisitDateLocal := some t }

/-- `UPDATE moz_places SET ... WHERE id == :row_id`. -/
def updatePage (rowId : Int) (updates : List PageUpdate) (db : HistoryDb) : HistoryDb :=
  { db with places := db.places.map fun r =>
      if r.id = rowId then updates.foldl (fun r u => u.set r) r else r }

/-- `UPDATE moz_places SET frecency = :frecency WHERE id = :row_id`. -/
def setFrecency (rowId frecency : Int) (db : HistoryDb) : HistoryDb :=
  { db with places := db.places.map fun r => if r.id = rowId then { r with frecency } else r }

/-! ## Observations -/

section Observe

variable (env : HistoryEnv)

/-- The first step of `apply_observation_direct`: the page found, or a new one. -/
def pageInfoFor (pageId : PageId) (db : HistoryDb) : Result (PageInfo × HistoryDb) := do
  match ← fetchPageInfo env db pageId with
  | some (info, _) => pure (info, db)
  | none => newPageInfo env pageId db

/-- The updates of a visit: `hidden` cleared by a visit that is not hidden, `typed`
counted, and the counter and last visit date of its locality. -/
def visitUpdates (visitOb : VisitObservation) (pageInfo : PageInfo) (date : Int) :
    List PageUpdate :=
  (if visitOb.isHidden then [] else [.hidden false]) ++
  (if visitOb.wasTyped then [.typed (pageInfo.typed + 1)] else []) ++
  if visitOb.isRemote then
    [.visitCountRemote (pageInfo.visitCountRemote + 1),
     .lastVisitDateRemote (max date pageInfo.lastVisitDateRemote)]
  else
    [.visitCountLocal (pageInfo.visitCountLocal + 1),
     .lastVisitDateLocal (max date pageInfo.lastVisitDateLocal)]

/-- What the `UPDATE` of a visit writes into the page's counters: the counter of the
observation's locality becomes the page's counter as read plus one, the other stays. -/
theorem visitUpdates_counts (ob : VisitObservation) (info : PageInfo) (date : Int) (r : PageRow) :
    let r' := (ob.title.toList.map PageUpdate.title ++ visitUpdates ob info date).foldl
      (fun r u => u.set r) r
    r'.id = r.id ∧
      r'.visitCountLocal = (if ob.isRemote then r.visitCountLocal else info.visitCountLocal + 1) ∧
      r'.visitCountRemote =
        (if ob.isRemote then info.visitCountRemote + 1 else r.visitCountRemote) := by
  obtain ⟨_, title, _, hidden, typed, _, remote, _, _⟩ := ob
  cases title <;> cases hidden <;> cases typed <;> cases remote <;>
    simp [visitUpdates, PageUpdate.set]

/-- `apply_observation_direct`: the connection it leaves, and its result. The visit row is
written with `is_local` bound to the observation's `is_remote`, as the source's call
`add_visit(..., &is_remote)` binds it. -/
def applyObservationDirect (visitOb : VisitObservation) (db : HistoryDb) :
    HistoryDb × Result Unit :=
  match pageInfoFor env visitOb.pageId db with
  | .error f => (db, .error f)
  | .ok (pageInfo, db) =>
    let titleUpdates := visitOb.title.toList.map PageUpdate.title
    match visitOb.visitType with
    | none => (updatePage pageInfo.rowId titleUpdates db, .ok ())
    | some visitType =>
      let date := visitOb.atTime.getD env.now
      let (_, db) := addVisit pageInfo.rowId none date visitType visitOb.isRemote db
      let db := updatePage pageInfo.rowId (titleUpdates ++ visitUpdates visitOb pageInfo date) db
      if visitOb.isError then (db, .ok ())
      else match env.calculateFrecency db pageInfo.rowId (some visitOb.redirectFrecencyBoost) with
        | .error f => (db, .error f)
        | .ok frecency => (setFrecency pageInfo.rowId frecency db, .ok ())

/-- Observations applied one after another, each to the connection the last one left. -/
def observeAll : List VisitObservation → HistoryDb → HistoryDb
  | [], db => db
  | ob :: obs, db => observeAll obs (applyObservationDirect env ob db).1

/-- One observation applied to a connection. -/
def Observes (db db' : HistoryDb) : Prop :=
  ∃ ob, (applyObservationDirect env ob db).1 = db'

/-- The connections a run of observations reaches from an empty database. -/
def HistoryDb.Reachable (db : HistoryDb) : Prop :=
  Relation.ReflTransGen (Observes env) HistoryDb.empty db

/-! ## A URL with no page -/

/-- `new_page_info` of a URL always fails: its `INSERT` leaves `origin_id` out. -/
@[simp] theorem newPageInfo_url (u : Url) (db : HistoryDb) :
    newPageInfo env (.url u) db =
      .error (.err (.sql "NOT NULL constraint failed: moz_places.origin_id")) := rfl

/-- With no page of its URL, `fetch_page_info` finds nothing. -/
theorem fetchPageInfo_url_none {u : Url} {db : HistoryDb}
    (h : ∀ r ∈ db.places, r.url ≠ some u.serialization) :
    fetchPageInfo env db (.url u) = .ok none := by
  have hr : pageRowFor env db (.url u) = none := by
    simp only [pageRowFor, List.find?_eq_none, Bool.and_eq_true, beq_iff_eq, not_and]
    exact fun r hr _ => h r hr
  simp only [fetchPageInfo, hr]
  rfl

/-- So the first step of an observation of it fails. -/
theorem pageInfoFor_url_error {u : Url} {db : HistoryDb}
    (h : ∀ r ∈ db.places, r.url ≠ some u.serialization) :
    pageInfoFor env (.url u) db =
      .error (.err (.sql "NOT NULL constraint failed: moz_places.origin_id")) := by
  simp only [pageInfoFor, fetchPageInfo_url_none env h, except_ok_bind, newPageInfo_url]

/-- From a connection with no page, an observation changes nothing: a URL has no page to
find and cannot get one, and `new_page_info` panics on a GUID. -/
theorem applyObservationDirect_no_pages (ob : VisitObservation) {db : HistoryDb}
    (h : db.places = []) : (applyObservationDirect env ob db).1 = db := by
  cases hid : ob.pageId with
  | url u => simp only [applyObservationDirect, hid, @pageInfoFor_url_error env u db (by simp [h])]
  | guid g =>
    have hp : pageInfoFor env (.guid g) db = throw (.panic
        "Need to think this through, but items must be created with a url") := by
      simp only [pageInfoFor, fetchPageInfo, pageRowFor, h, List.find?_nil]
      rfl
    simp only [applyObservationDirect, hid, hp]

/-- A run of observations from a connection with no page leaves it as it was. -/
theorem observeAll_of_no_pages :
    ∀ (obs : List VisitObservation) {db : HistoryDb}, db.places = [] → observeAll env obs db = db
  | [], _, _ => rfl
  | ob :: obs, db, h => by
    rw [observeAll, applyObservationDirect_no_pages env ob h, observeAll_of_no_pages obs h]

/-- Every run of observations from an empty database leaves it empty. -/
theorem observeAll_empty (obs : List VisitObservation) :
    observeAll env obs HistoryDb.empty = HistoryDb.empty :=
  observeAll_of_no_pages env obs rfl

/-- The only connection observations reach from an empty database is the empty one. -/
theorem HistoryDb.Reachable.eq_empty {db : HistoryDb} (h : db.Reachable env) :
    db = HistoryDb.empty := by
  induction h with
  | refl => rfl
  | tail _ hstep ih =>
    obtain ⟨ob, rfl⟩ := hstep
    subst ih
    exact applyObservationDirect_no_pages env ob rfl

end Observe

/-! ## What the history tables hold -/

/-- A page agrees with its visits: each counter is the number of its
visits of that locality, and each last visit date the latest of them, or `0` when there is
none. -/
def PageRow.VisitCountsAgree (visits : List VisitRow) (p : PageRow) : Prop :=
  let mine (isLocal : Bool) := visits.filter fun v => v.placeId = p.id ∧ v.isLocal = isLocal
  p.visitCountLocal = (mine true).length ∧ p.visitCountRemote = (mine false).length ∧
    p.lastVisitDateLocal = some (((mine true).filterMap VisitRow.visitDate).foldr max 0) ∧
    p.lastVisitDateRemote = some (((mine false).filterMap VisitRow.visitDate).foldr max 0)

/-- Along every run of observations from an empty database, every page agrees with its
visits: there is no page. -/
theorem observeAll_visitCountsAgree (env : HistoryEnv) (obs : List VisitObservation) :
    (observeAll env obs HistoryDb.empty).places.Forall
      (PageRow.VisitCountsAgree (observeAll env obs HistoryDb.empty).visits) := by
  rw [observeAll_empty]
  trivial

/-- On every connection a run of observations reaches from an empty database, an
observation of a URL returns `Ok` or `Err`, and does not panic. -/
theorem applyObservationDirect_reachable_no_panic (env : HistoryEnv) {db : HistoryDb}
    (h : db.Reachable env) (ob : VisitObservation) (u : Url) (hid : ob.pageId = .url u) :
    (applyObservationDirect env ob db).2 = .ok () ∨
      ∃ e, (applyObservationDirect env ob db).2 = .error (.err e) := by
  rw [h.eq_empty]
  exact .inr ⟨.sql "NOT NULL constraint failed: moz_places.origin_id", by
    simp only [applyObservationDirect, hid,
    @pageInfoFor_url_error env u HistoryDb.empty (by simp [HistoryDb.empty])]⟩

/-- The empty database, and a visit of a URL. -/
theorem applyObservationDirect_reachable_no_panic_sample :
    (applyObservationDirect HistoryEnv.sample VisitObservation.sample HistoryDb.empty).2 = .ok () ∨
      ∃ e, (applyObservationDirect HistoryEnv.sample VisitObservation.sample
        HistoryDb.empty).2 = .error (.err e) :=
  applyObservationDirect_reachable_no_panic _ .refl _ _ rfl

/-- `add_visit` is handed `is_remote` where it takes `is_local`. On every database whose
pages agree with their visits, an observation with a visit type of a page that exists and
is read records the visit under the other locality than the counter it raises: whatever
the frecency step does, the page no longer agrees with its visits. -/
theorem applyObservationDirect_visit_disagrees (env : HistoryEnv) {db : HistoryDb}
    {ob : VisitObservation} {vt : VisitTransition} {info : PageInfo} {i : Int}
    (hagree : ∀ p ∈ db.places, p.VisitCountsAgree db.visits)
    (hfetch : fetchPageInfo env db ob.pageId = .ok (some (info, i)))
    (htype : ob.visitType = some vt) :
    ∃ p ∈ (applyObservationDirect env ob db).1.places, p.id = info.rowId ∧
      ¬p.VisitCountsAgree (applyObservationDirect env ob db).1.visits := by
  obtain ⟨r, hr, hfrom⟩ := fetchPageInfo_eq_some env hfetch
  obtain ⟨hid, hl, hrm⟩ := PageInfo.fromRow_eq_ok env hfrom
  have hpi : pageInfoFor env ob.pageId db = .ok (info, db) := by
    simp only [pageInfoFor, hfetch, except_ok_bind]; rfl
  set date := ob.atTime.getD env.now
  set db₂ := updatePage info.rowId (ob.title.toList.map PageUpdate.title ++ visitUpdates ob info date)
    (addVisit info.rowId none date vt ob.isRemote db).2
  obtain ⟨hid', hcl, hcr⟩ := visitUpdates_counts ob info date r
  -- the page after the visit and the `UPDATE`, before the frecency step
  have key : ∃ p ∈ db₂.places, p.id = info.rowId ∧ ¬p.VisitCountsAgree db₂.visits := by
    refine ⟨_, List.mem_map_of_mem _ hr, ?_⟩
    rw [if_pos hid.symm]
    obtain ⟨hL, hR, -⟩ := hagree r hr
    refine ⟨hid'.trans hid.symm, fun ⟨hL', hR', _⟩ => ?_⟩
    simp only [db₂, updatePage, addVisit, List.filter_append, List.length_append, hid'] at hL' hR'
    cases hrem : ob.isRemote
    · simp [hrem, hid] at hL hL' hcl
      omega
    · simp [hrem, hid] at hR hR' hcr
      omega
  have hfinal : (applyObservationDirect env ob db).1 = db₂ ∨
      ∃ f, (applyObservationDirect env ob db).1 = setFrecency info.rowId f db₂ := by
    simp only [applyObservationDirect, hpi, htype]
    split_ifs
    · exact .inl rfl
    · split
      · exact .inl rfl
      · exact .inr ⟨_, rfl⟩
  obtain ⟨p, hp, hpid, hpa⟩ := key
  rcases hfinal with h | ⟨f, h⟩ <;> rw [h]
  · exact ⟨p, hp, hpid, hpa⟩
  · refine ⟨_, List.mem_map_of_mem _ hp, ?_⟩
    rw [if_pos hpid]
    exact ⟨hpid, hpa⟩

/-- A typed local visit of the page of `HistoryDb.sampleVisited`. -/
theorem applyObservationDirect_visit_disagrees_sample :
    ∃ p ∈ (applyObservationDirect HistoryEnv.sample VisitObservation.sample
        HistoryDb.sampleVisited).1.places, p.id = 1 ∧ ¬p.VisitCountsAgree
          (applyObservationDirect HistoryEnv.sample VisitObservation.sample
            HistoryDb.sampleVisited).1.visits :=
  @applyObservationDirect_visit_disagrees HistoryEnv.sample HistoryDb.sampleVisited
    VisitObservation.sample .typed _ _
    (by simp [HistoryDb.sampleVisited, PageRow.VisitCountsAgree]) (by rfl) rfl

/-! ## Batches of observations -/

/-- `apply_observations`: it builds an `INSERT INTO observations_to_apply` for each chunk
of 499 observations, but the call that would run it is commented out (`rusqlite` could not
bind its parameters yet), so it writes nothing and returns `Ok`. -/
def applyObservations (_visitObs : List VisitObservation) : Result Unit := pure ()

/-- `ManyVisitObservations`: the observations waiting, and the batch limit. -/
structure ManyVisitObservations where
  pendingObservations : List VisitObservation
  limit : Option Nat
  deriving DecidableEq, Repr

namespace ManyVisitObservations

/-- `ManyVisitObservations::new`. -/
def new : ManyVisitObservations := ⟨[], none⟩

/-- `ManyVisitObservations::with_limit`. -/
def withLimit (limit : Nat) : ManyVisitObservations := ⟨[], some limit⟩

/-- `add`: the buffer it leaves, and what it hands `apply_observations` when it calls it.
With a limit it buffers the visits and, once the buffer holds `limit` of them, hands over
the first `limit`, leaving the buffer as it is; without one it hands over the buffer,
which nothing fills, and drops the visits. What it returns is what `apply_observations`
returns, `Ok`. -/
def add (m : ManyVisitObservations) (visits : List VisitObservation) :
    ManyVisitObservations × Option (List VisitObservation) :=
  match m.limit with
  | some limit =>
    let m := { m with pendingObservations := m.pendingObservations ++ visits }
    if m.pendingObservations.length < limit then (m, none)
    else (m, some (m.pendingObservations.take limit))
  | none => (m, some m.pendingObservations)

/-- `flush`: the whole buffer to `apply_observations`. -/
def flush (m : ManyVisitObservations) : List VisitObservation :=
  m.pendingObservations

/-- What `apply_observations` is handed, call after call, by `add` of each list in turn
and then `flush`. -/
def handed (m : ManyVisitObservations) : List (List VisitObservation) → List (List VisitObservation)
  | [] => [m.flush]
  | visits :: rest => (m.add visits).2.toList ++ (m.add visits).1.handed rest

/-- Without a limit, every call hands `apply_observations` nothing: whatever the lists
added, none of their observations is applied. -/
theorem handed_new : ∀ batches : List (List VisitObservation),
    new.handed batches = List.replicate (batches.length + 1) []
  | [] => rfl
  | _ :: batches => by
    show [] :: new.handed batches = _
    rw [handed_new batches]
    rfl

/-- Of the prefixes of `visits :: rest`, those whose observations fill the buffer: the
first if `visits` fills it, and the prefixes of `rest` that fill it after `visits`. -/
theorem countP_inits_cons (pending visits : List VisitObservation)
    (rest : List (List VisitObservation)) (limit : Nat) :
    ((visits :: rest).inits.tail.countP fun p => limit ≤ (pending ++ p.flatten).length) =
      (rest.inits.tail.countP fun p => limit ≤ (pending ++ visits ++ p.flatten).length) +
        if limit ≤ (pending ++ visits).length then 1 else 0 := by
  have hinits : rest.inits = [] :: rest.inits.tail := by cases rest <;> rfl
  simp only [List.inits, List.tail_cons, List.countP_map, Function.comp_def, List.flatten_cons,
    ← List.append_assoc]
  conv_lhs => rw [hinits]
  simp only [List.countP_cons, List.flatten_nil, List.append_nil, decide_eq_true_eq]

/-- With a limit, from any buffer: the buffer only grows, so every `add` that finds it
full hands over the same first `limit` observations, and `flush` hands over the buffer
with everything added. -/
theorem handed_of_limit (limit : Nat) :
    ∀ (pending : List VisitObservation) (batches : List (List VisitObservation)),
      handed ⟨pending, some limit⟩ batches =
        List.replicate (batches.inits.tail.countP fun p => limit ≤ (pending ++ p.flatten).length)
          ((pending ++ batches.flatten).take limit) ++ [pending ++ batches.flatten]
  | pending, [] => by
    simp only [handed, flush, List.inits, List.tail_cons, List.countP_nil, List.replicate_zero,
      List.flatten_nil, List.append_nil, List.nil_append]
  | pending, visits :: rest => by
    rw [countP_inits_cons, List.flatten_cons, ← List.append_assoc]
    by_cases h : (pending ++ visits).length < limit
    · simp only [handed, add, if_pos h, if_neg (Nat.not_le.2 h), Option.toList, List.nil_append,
        Nat.add_zero, handed_of_limit]
    · simp only [handed, add, if_neg h, if_pos (Nat.not_lt.1 h), Option.toList, handed_of_limit,
        List.replicate_succ, List.singleton_append, List.cons_append, List.nil_append,
        List.take_append_of_le_length (Nat.not_lt.1 h)]

/-- With a limit, the buffer is never emptied: each `add` after which the observations
added reach the limit hands `apply_observations` the first `limit` of them, the same
ones every time, and `flush` hands over all of them, those already handed included. No
observation past the first `limit` is handed over before `flush`. -/
theorem handed_withLimit (limit : Nat) (batches : List (List VisitObservation)) :
    (withLimit limit).handed batches =
      List.replicate (batches.inits.tail.countP fun p => limit ≤ p.flatten.length)
        (batches.flatten.take limit) ++ [batches.flatten] := by
  simpa only [List.nil_append] using handed_of_limit limit [] batches

/-- With a limit of one, the first observation is handed over by every `add` and again by
`flush`. -/
example (a b : VisitObservation) : (withLimit 1).handed [[a], [b]] = [[a], [a], [a, b]] := rfl

end ManyVisitObservations

end History

end BookmarkSync
