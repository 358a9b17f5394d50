import Mathlib.Data.List.Nodup
import Mathlib.Data.List.Perm.Basic
import Mathlib.Data.Int.Order.Basic
import Mathlib.Order.MinMax
import BookmarkSync.Types

/-!
# BookmarkSync.Store — the connection's tables and the store's functions

The state the engine reads and writes is one SQLite connection. `Db` holds the tables
the modelled code touches, each as its list of rows, with the columns the code reads
or writes:

* `moz_places` (`places`), `moz_bookmarks` (`bookmarks`), `moz_bookmarks_deleted`;
* the mirror, `moz_bookmarks_synced` (`synced`) and `moz_bookmarks_synced_structure`;
* the connection's temporary tables `mergedTree`, `itemsToRemove`, `idsToWeaklyUpload`,
  `itemsToUpload` and `structureToUpload`;
* `moz_meta`, for `bookmarks_last_sync_time`.

What the engine takes from outside is gathered in `Env`: the `url` crate's parser and
form-urlencoding, the store's `hash()` and `generate_guid()` SQL functions, and the
length limits of `crate::storage`, none of which is in the source.

`REPLACE INTO` a keyed table is `replaceBy` (the row with the key goes, the new row is
added), and `INSERT OR IGNORE INTO moz_places` is `insertPlace`; their lemmas here are
all the later modules use of them.
-/

namespace BookmarkSync

/-! ## Collaborators -/

/-- A parsed URL: its serialization (`as_str`, `into_string`, `to_string`) and its path. -/
structure Url where
  serialization : String
  path : String
  deriving DecidableEq, Repr

/-- A row of `moz_places`: the columns `maybe_store_url` writes. Every writer of the
table in the source binds a GUID and a URL, so neither is NULL. -/
structure PlaceRow where
  id : Int
  guid : String
  url : String
  urlHash : Int
  deriving DecidableEq, Repr

/-- What the engine uses and the source does not define. -/
structure Env where
  /-- `Url::parse`. -/
  parseUrl : String → Option Url
  /-- `url::form_urlencoded::parse`, the name/value pairs of a string. -/
  formUrlencodedParse : String → List (String × String)
  /-- `url::form_urlencoded::Serializer`, pairs serialized and joined. -/
  formUrlencodedSerialize : List (String × String) → String
  /-- The store's `hash()` SQL function. -/
  hash : String → Int
  /-- The store's `generate_guid()`, given the `moz_places` rows it is called against. -/
  generateGuid : List PlaceRow → String
  /-- `URL_LENGTH_MAX`, in bytes. -/
  urlLengthMax : Nat
  /-- `TAG_LENGTH_MAX`, in bytes. -/
  tagLengthMax : Nat
  /-- `TITLE_LENGTH_MAX`, in bytes. -/
  titleLengthMax : Nat

/-! ## Rows -/

/-- A row of the mirror, `moz_bookmarks_synced`. -/
structure MirrorRow where
  guid : String
  parentGuid : Option String
  serverModified : Int
  needsMerge : Bool
  isDeleted : Bool
  kind : Option SyncedBookmarkKind
  dateAdded : Option Int
  title : Option String
  keyword : Option String
  validity : SyncedBookmarkValidity
  placeId : Option Int
  feedUrl : Option String
  siteUrl : Option String
  deriving DecidableEq, Repr

/-- Modelled from the spec: the column defaults of `moz_bookmarks_synced`, whose schema
is not in the source. Content columns are NULL (the spec: a deleted row has NULL kind,
title and placeId), the flags false, and validity `Valid`, as `test_apply_tombstone`
expects of a row written without one. -/
@[simps] def MirrorRow.empty (guid : String) : MirrorRow where
  guid := guid
  parentGuid := none
  serverModified := 0
  needsMerge := false
  isDeleted := false
  kind := none
  dateAdded := none
  title := none
  keyword := none
  validity := .valid
  placeId := none
  feedUrl := none
  siteUrl := none

/-- A row of `moz_bookmarks_synced_structure`: a child, the folder listing it, and its
index in that folder's `children`. -/
structure StructureRow where
  guid : String
  parentGuid : String
  position : Nat
  deriving DecidableEq, Repr

/-- A row of `moz_bookmarks`, the local tree. -/
structure BookmarkRow where
  id : Int
  guid : String
  parent : Int
  position : Int
  type : Nat
  title : Option String
  fk : Option Int
  dateAdded : Int
  lastModified : Int
  syncChangeCounter : Int
  syncStatus : SyncStatus
  deriving DecidableEq, Repr

/-- A row of `mergedTree`, one merged descendant. -/
structure MergedTreeRow where
  localGuid : Option String
  remoteGuid : Option String
  mergedGuid : String
  mergedParentGuid : String
  level : Int
  position : Int
  useRemote : Bool
  shouldUpload : Bool
  deriving DecidableEq, Repr

/-- A row of `itemsToRemove`, one deletion. -/
structure ItemToRemoveRow where
  guid : String
  localLevel : Int
  shouldUploadTombstone : Bool
  deriving DecidableEq, Repr

/-- A row of `itemsToUpload`: a staged outgoing record. -/
structure UploadRow where
  id : Option Int
  guid : String
  syncChangeCounter : Int
  isDeleted : Bool
  parentGuid : Option String
  parentTitle : Option String
  dateAdded : Option Int
  title : Option String
  placeId : Option Int
  kind : Option SyncedBookmarkKind
  url : Option String
  keyword : Option String
  position : Option Int
  tagFolderName : Option String
  uploadedAt : Option Int
  deriving DecidableEq, Repr

/-- A row of `structureToUpload`: a child of a staged folder, by the folder's local id. -/
structure StructureUploadRow where
  guid : String
  parentId : Int
  position : Int
  deriving DecidableEq, Repr

/-- The tables of the connection. -/
structure Db where
  bookmarks : List BookmarkRow
  bookmarksDeleted : List String
  places : List PlaceRow
  synced : List MirrorRow
  syncedStructure : List StructureRow
  mergedTree : List MergedTreeRow
  itemsToRemove : List ItemToRemoveRow
  idsToWeaklyUpload : List Int
  itemsToUpload : List UploadRow
  structureToUpload : List StructureUploadRow
  meta : List (String × Int)
  deriving DecidableEq, Repr

/-- A connection with every table empty. -/
def Db.empty : Db := ⟨[], [], [], [], [], [], [], [], [], [], []⟩

/-! ## `REPLACE INTO` a keyed table -/

section Replace

variable {α : Type} (key : α → String)

/-- `REPLACE INTO` a table keyed by `key`: the row with the new row's key goes, and the
new row is added. -/
def replaceBy (row : α) (t : List α) : List α :=
  t.filter (fun r => key r ≠ key row) ++ [row]

variable {key}

theorem mem_replaceBy {row r : α} {t : List α} :
    r ∈ replaceBy key row t ↔ (r ∈ t ∧ key r ≠ key row) ∨ r = row := by
  simp [replaceBy]

/-- A table written by `REPLACE INTO` keeps one row per key. -/
theorem replaceBy_keys_nodup (row : α) {t : List α} (h : (t.map key).Nodup) :
    ((replaceBy key row t).map key).Nodup := by
  simp only [replaceBy, List.map_append, List.map_cons, List.map_nil]
  refine List.nodup_append.2 ⟨h.sublist ((List.filter_sublist t).map key), List.nodup_singleton _, ?_⟩
  simp only [List.Disjoint, List.mem_map, List.mem_filter, List.mem_singleton]
  rintro _ ⟨r, ⟨-, hr⟩, rfl⟩ he
  exact of_decide_eq_true hr he

/-- Replacing the same row twice is replacing it once. -/
theorem replaceBy_replaceBy_self (row : α) (t : List α) :
    replaceBy key row (replaceBy key row t) = replaceBy key row t := by
  simp [replaceBy, List.filter_append, List.filter_filter, Bool.and_self]

/-- Replacing a row erases its key first: replacing after erasing is replacing. -/
theorem replaceBy_filter_self (row : α) (t : List α) :
    replaceBy key row (t.filter fun r => key r ≠ key row) = replaceBy key row t := by
  simp [replaceBy, List.filter_filter]

/-- Replacements at two different keys commute, up to the order of the rows. -/
theorem replaceBy_comm {r₁ r₂ : α} (h : key r₁ ≠ key r₂) (t : List α) :
    (replaceBy key r₂ (replaceBy key r₁ t)).Perm (replaceBy key r₁ (replaceBy key r₂ t)) := by
  simp only [replaceBy, List.filter_append, List.filter_filter, List.filter_cons,
    List.filter_nil, h, Ne.symm h, decide_not, decide_False, Bool.not_false, if_true,
    List.append_assoc, List.singleton_append]
  have hf : (t.filter fun r => !decide (key r = key r₂) && !decide (key r = key r₁)) =
      t.filter fun r => !decide (key r = key r₁) && !decide (key r = key r₂) := by
    congr 1; funext r; exact Bool.and_comm _ _
  rw [hf]
  exact List.Perm.append_left _ (List.Perm.swap _ _ _)

/-- Replacing commutes with a map of the rows that keeps their keys. -/
theorem map_replaceBy {β : Type} {key' : β → String} (f : α → β) (hf : ∀ r, key' (f r) = key r)
    (row : α) (t : List α) :
    (replaceBy key row t).map f = replaceBy key' (f row) (t.map f) := by
  simp [replaceBy, List.filter_map, Function.comp_def, hf]

/-- Filtering by a condition that every wanted row meets does not change the first
wanted row. -/
theorem find?_filter_of_imp {p q : α → Bool} (hpq : ∀ a, p a = true → q a = true)
    (t : List α) : (t.filter q).find? p = t.find? p := by
  induction t with
  | nil => rfl
  | cons a t ih =>
    by_cases hp : p a = true
    · simp [List.filter_cons, hpq a hp, List.find?_cons, hp]
    · by_cases hq : q a = true <;> simp [List.filter_cons, List.find?_cons, hp, hq, ih]

/-- What a replace leaves at a key. -/
theorem find?_replaceBy (row : α) (t : List α) (k : String) :
    (replaceBy key row t).find? (fun r => key r == k) =
      if key row = k then some row else t.find? (fun r => key r == k) := by
  unfold replaceBy
  rw [List.find?_append]
  split_ifs with hk
  · subst hk
    rw [List.find?_eq_none.2 (by simp)]
    simp
  · rw [find?_filter_of_imp (fun a ha => by
      simp only [beq_iff_eq] at ha; simpa [ha] using Ne.symm hk)]
    cases t.find? (fun r => key r == k) <;> simp [hk]

end Replace

/-! ## `moz_places` -/

section Places

variable (env : Env)

/-- `SELECT ... FROM moz_places WHERE url_hash = hash(:url) AND url = :url`: the first
matching row. -/
def findPlace (url : String) (places : List PlaceRow) : Option PlaceRow :=
  places.find? fun r => r.urlHash == env.hash url && r.url == url

/-- The rowid SQLite gives a new row: one past the largest, or 1 in an empty table. -/
def nextRowId (places : List PlaceRow) : Int :=
  ((places.map PlaceRow.id).max?.map (· + 1)).getD 1

/-- `INSERT OR IGNORE INTO moz_places(guid, url, url_hash) VALUES(IFNULL((SELECT guid ...),
generate_guid()), :url, hash(:url))`. The row is ignored when its GUID is taken, as
`guid` is `UNIQUE`; so a URL already present adds nothing. -/
def insertPlace (url : String) (places : List PlaceRow) : List PlaceRow :=
  let guid := ((findPlace env url places).map PlaceRow.guid).getD (env.generateGuid places)
  if places.any (·.guid == guid) then places
  else places ++ [{ id := nextRowId places, guid, url, urlHash := env.hash url }]

/-- The `placeId` a mirror row gets for a URL: `NULL` for a `NULL` URL, else the id of the
place found for it. -/
def placeIdFor (url : Option String) (places : List PlaceRow) : Option Int :=
  url.bind fun u => (findPlace env u places).map PlaceRow.id

/-- `generate_guid()` never returns a GUID already in `moz_places`. -/
def Env.GuidsFresh : Prop := ∀ t, ∀ r ∈ t, r.guid ≠ env.generateGuid t

/-- An environment to run the model on: a URL is a string with a scheme, its path what
follows the first colon; form-urlencoding splits on `&` and `=` and decodes nothing; the
hash of a URL is its length; a generated GUID is longer than every GUID of the table; and
the limits are small. -/
def Env.sample : Env where
  parseUrl s := match s.data.span (· != ':') with
    | (_ :: _, _ :: path) => some ⟨s, String.mk path⟩
    | _ => none
  formUrlencodedParse s := ((s.data.splitOn '&').filter (· ≠ [])).map fun kv =>
    (String.mk (kv.takeWhile (· != '=')), String.mk ((kv.dropWhile (· != '=')).drop 1))
  formUrlencodedSerialize kvs := "&".intercalate (kvs.map fun kv => kv.1 ++ "=" ++ kv.2)
  hash s := s.length
  generateGuid t := String.mk (List.replicate (t.foldr (fun r n => max r.guid.length n) 0 + 1) 'g')
  urlLengthMax := 64
  tagLengthMax := 16
  titleLengthMax := 32

theorem Env.sample_guidsFresh : Env.sample.GuidsFresh := by
  intro t r hr
  have hlen : r.guid.length ≤ t.foldr (fun r n => max r.guid.length n) 0 := by
    induction t with
    | nil => cases hr
    | cons a t ih =>
      rcases List.mem_cons.1 hr with rfl | hr
      · exact le_max_left _ _
      · exact (ih hr).trans (le_max_right _ _)
  intro h
  have hg : r.guid.length = t.foldr (fun r n => max r.guid.length n) 0 + 1 := by
    rw [h]; simp only [Env.sample, String.length, List.length_replicate]
  omega

variable {env}

theorem findPlace_some {url : String} {places : List PlaceRow} {r : PlaceRow}
    (h : findPlace env url places = some r) : r ∈ places ∧ r.urlHash = env.hash url ∧ r.url = url := by
  have h' := List.find?_some h
  simp only [Bool.and_eq_true, beq_iff_eq] at h'
  exact ⟨List.mem_of_find?_eq_some h, h'⟩

/-- Interning a URL only ever adds one row at the end. -/
theorem insertPlace_cases (url : String) (places : List PlaceRow) :
    insertPlace env url places = places ∨
      ∃ g, insertPlace env url places =
        places ++ [{ id := nextRowId places, guid := g, url, urlHash := env.hash url }] := by
  dsimp only [insertPlace]
  split
  · exact .inl rfl
  · exact .inr ⟨_, rfl⟩

/-- A URL already interned is not interned again. -/
theorem insertPlace_of_found {url : String} {places : List PlaceRow} {r : PlaceRow}
    (h : findPlace env url places = some r) : insertPlace env url places = places := by
  have hr := (findPlace_some h).1
  simp only [insertPlace, h, Option.map_some', Option.getD_some]
  rw [if_pos (List.any_eq_true.2 ⟨r, hr, by simp⟩)]

/-- After interning, the URL is found, unless the insert was ignored. -/
theorem insertPlace_found (url : String) (places : List PlaceRow) :
    insertPlace env url places = places ∨
      ∃ r, findPlace env url (insertPlace env url places) = some r := by
  rcases insertPlace_cases url places with h | ⟨g, h⟩
  · exact .inl h
  · right
    rw [h, findPlace, List.find?_append]
    cases List.find? (fun r => r.urlHash == env.hash url && r.url == url) places with
    | some r => exact ⟨r, rfl⟩
    | none => exact ⟨{ id := nextRowId places, guid := g, url, urlHash := env.hash url }, by simp⟩

/-- Interning is idempotent. -/
theorem insertPlace_insertPlace (url : String) (places : List PlaceRow) :
    insertPlace env url (insertPlace env url places) = insertPlace env url places := by
  rcases insertPlace_found url places with h | ⟨r, h⟩
  · rw [h, h]
  · exact insertPlace_of_found h

/-- Interning only appends. -/
theorem insertPlace_append (url : String) (places : List PlaceRow) :
    ∃ rest, insertPlace env url places = places ++ rest := by
  rcases @insertPlace_cases env url places with h | ⟨g, h⟩
  · exact ⟨[], by simp [h]⟩
  · exact ⟨_, h⟩

/-- Interning a URL does not change what another URL finds. -/
theorem findPlace_insertPlace_of_ne {u v : String} (h : u ≠ v) (places : List PlaceRow) :
    findPlace env v (insertPlace env u places) = findPlace env v places := by
  rcases insertPlace_cases u places with he | ⟨g, he⟩
  · rw [he]
  · rw [he, findPlace, findPlace, List.find?_append]
    cases List.find? _ places <;> simp [h]

/-- A new row's id is past every id of the table. -/
theorem lt_nextRowId {places : List PlaceRow} {r : PlaceRow} (hr : r ∈ places) :
    r.id < nextRowId places := by
  unfold nextRowId
  cases hm : (places.map PlaceRow.id).max? with
  | none => simp_all
  | some m =>
    have := (List.max?_le_iff (fun _ _ _ => max_le_iff) hm).1 (le_refl m) r.id
      (List.mem_map_of_mem _ hr)
    simp only [Option.map_some', Option.getD_some]
    omega

/-- Interning keeps place ids unique. -/
theorem insertPlace_ids_nodup (url : String) {places : List PlaceRow}
    (h : (places.map PlaceRow.id).Nodup) : ((insertPlace env url places).map PlaceRow.id).Nodup := by
  rcases insertPlace_cases url places with he | ⟨g, he⟩
  · rwa [he]
  · rw [he, List.map_append]
    refine h.append (List.nodup_singleton _) ?_
    simp only [List.map_cons, List.map_nil, List.disjoint_singleton, List.mem_map, not_exists,
      not_and]
    exact fun r hr hid => (lt_nextRowId hr).ne hid

/-- In a table with unique ids, the lookup by a row's id finds that row. -/
theorem find?_id_of_nodup {places : List PlaceRow} (h : (places.map PlaceRow.id).Nodup)
    {r : PlaceRow} (hr : r ∈ places) : places.find? (·.id == r.id) = some r := by
  cases hf : places.find? (·.id == r.id) with
  | none => simpa using List.find?_eq_none.1 hf r hr
  | some r' =>
    have := List.find?_some hf
    simp only [beq_iff_eq] at this
    rw [List.inj_on_of_nodup_map h (List.mem_of_find?_eq_some hf) hr this]

section Fresh

variable (hfresh : env.GuidsFresh)
include hfresh

/-- With fresh GUIDs, a URL not yet interned is appended with the next rowid. -/
theorem insertPlace_of_not_found {url : String} {places : List PlaceRow}
    (h : findPlace env url places = none) :
    insertPlace env url places =
      places ++ [{ id := nextRowId places, guid := env.generateGuid places, url,
                   urlHash := env.hash url }] := by
  simp only [insertPlace, h, Option.map_none', Option.getD_none]
  rw [if_neg]
  simpa using fun r hr => hfresh places r hr

/-- With fresh GUIDs, an interned URL is found. -/
theorem findPlace_insertPlace (url : String) (places : List PlaceRow) :
    ∃ r, findPlace env url (insertPlace env url places) = some r := by
  cases h : findPlace env url places with
  | some r => exact ⟨r, by rw [insertPlace_of_found h, h]⟩
  | none =>
    rw [insertPlace_of_not_found hfresh h, findPlace, List.find?_append]
    simp only [findPlace] at h
    simp [h]

/-- With fresh GUIDs, interning adds the URL's `(url, url_hash)` exactly when the URL
was not found. -/
theorem insertPlace_urls (url : String) (places : List PlaceRow) :
    (insertPlace env url places).map (fun r => (r.url, r.urlHash)) =
      places.map (fun r => (r.url, r.urlHash)) ++
        (if (findPlace env url places).isSome then [] else [(url, env.hash url)]) := by
  cases h : findPlace env url places with
  | some r => simp [insertPlace_of_found h]
  | none => simp [insertPlace_of_not_found hfresh h]

/-- With fresh GUIDs, interning two URLs in either order gives the same `(url, url_hash)`
rows, up to their order. -/
theorem insertPlace_comm (u₁ u₂ : String) (places : List PlaceRow) :
    ((insertPlace env u₂ (insertPlace env u₁ places)).map fun r => (r.url, r.urlHash)).Perm
      ((insertPlace env u₁ (insertPlace env u₂ places)).map fun r => (r.url, r.urlHash)) := by
  by_cases hu : u₁ = u₂
  · subst hu; exact List.Perm.refl _
  · rw [insertPlace_urls hfresh u₂ (insertPlace env u₁ places), insertPlace_urls hfresh u₁ places,
      insertPlace_urls hfresh u₁ (insertPlace env u₂ places), insertPlace_urls hfresh u₂ places,
      findPlace_insertPlace_of_ne hu, findPlace_insertPlace_of_ne (Ne.symm hu)]
    simp only [List.append_assoc]
    exact List.Perm.append_left _ List.perm_append_comm

end Fresh

end Places

end BookmarkSync
