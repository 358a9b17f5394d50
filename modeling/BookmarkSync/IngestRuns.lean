import Mathlib.Logic.Relation
import BookmarkSync.IngestLaws

/-!
# BookmarkSync.IngestRuns — what holds along every run of ingestions

A run is a sequence of `apply_payload` calls, each with its own timestamp, that stops at
the first call that fails (`ingestAll`); `apply_incoming` ingests a batch as a run whose
calls all carry the batch's timestamp. Every result here is an invariant of runs,
proved from one step (`applyPayload_eq`: a step carries out its plan):

* `applyPayload_reachable_urls_nodup` — no two `moz_places` rows ever share a URL, from
  a table where none did and whose every `url_hash` is the hash of its URL
  (`PlacesWellFormed`), along every path of ingestion steps. A row with a stale `url_hash`
  is missed by the lookup, and its URL is interned a second time
  (`applyPayload_stale_hash_duplicates_url`);
* `ingestAll_structure_row` — the structure row of a GUID is the one the last folder
  listing it wrote, at the index of its last occurrence there, or the row it had before
  the run when no folder of the run lists it (`lastListing`), for runs whose folders list
  no root alias. Stale rows of children a folder no longer lists stay:
  `folder_reingested_keeps_stale_child`. A child listed by its alias is stored under the
  alias, not the root's GUID (`applyPayload_folder_children_untranslated`);
* `applyPayload_livemark_empty_title` — the livemark path stores an empty title as `""`,
  where every other kind stores `NULL`;
* `applyPayload_reachable_mirror_rows` — with fresh GUIDs, every mirror row stays as the
  spec's data model has it (`MirrorRowOk`), its place a row of `moz_places`; one plan is
  shown to ask for such a row (`PlanOk`), and carrying it out to keep every row so.
-/

namespace BookmarkSync

/-! ## Runs -/

section Runs

variable (env : Env)

/-- A run of `apply_payload` calls, each with its timestamp; it stops at the first call
that fails. -/
def ingestAll : List (ServerTimestamp × Payload) → Db → Result Db
  | [], db => pure db
  | (t, p) :: calls, db => applyPayload env t p db >>= ingestAll calls

/-- One ingestion step, whatever its timestamp and payload. -/
def Ingests (db db' : Db) : Prop :=
  ∃ t p, applyPayload env t p db = .ok db'

variable {env}

/-- A run that succeeds is a path of ingestion steps. -/
theorem ingestAll_reachable {calls : List (ServerTimestamp × Payload)} {db db' : Db}
    (h : ingestAll env calls db = .ok db') : Relation.ReflTransGen (Ingests env) db db' := by
  induction calls generalizing db with
  | nil => cases h; exact .refl
  | cons tp calls ih =>
    obtain ⟨db₁, h₁, h₂⟩ := except_bind_eq_ok h
    exact .head ⟨tp.1, tp.2, h₁⟩ (ih h₂)

end Runs

/-! ## Keys of the mirror -/

/-- The mirror as the data model keys it: one row per GUID in `moz_bookmarks_synced`, and
one structure row per child GUID. -/
structure Db.MirrorKeyed (db : Db) : Prop where
  synced : (db.synced.map MirrorRow.guid).Nodup
  syncedStructure : (db.syncedStructure.map StructureRow.guid).Nodup

/-- Carrying out a plan keeps the mirror keyed: its `REPLACE`s write one row per GUID. -/
theorem Plan.run_mirrorKeyed {env : Env} (pl : Plan) {db : Db} (hk : db.MirrorKeyed) :
    (pl.run env db).MirrorKeyed :=
  ⟨replaceBy_keys_nodup _ hk.synced, replaceChildren_keys_nodup _ _ _ hk.syncedStructure⟩

/-! ## URLs in `moz_places` -/

section Places

variable {env : Env}

/-- `moz_places` as the data model has it: no URL twice, every `url_hash` the hash of
its URL. -/
def PlacesWellFormed (env : Env) (places : List PlaceRow) : Prop :=
  (places.map PlaceRow.url).Nodup ∧ ∀ r ∈ places, r.urlHash = env.hash r.url

/-- A URL not found has no row at all. -/
theorem not_mem_of_findPlace_none {u : String} {places : List PlaceRow}
    (hw : ∀ r ∈ places, r.urlHash = env.hash r.url) (h : findPlace env u places = none) :
    ∀ r ∈ places, r.url ≠ u := by
  intro r hr hu
  have := List.find?_eq_none.1 h r hr
  simp [hu, hw r hr] at this

/-- Interning keeps `moz_places` well formed. -/
theorem insertPlace_wellFormed {u : String} {places : List PlaceRow}
    (h : PlacesWellFormed env places) : PlacesWellFormed env (insertPlace env u places) := by
  cases hf : findPlace env u places with
  | some r => rwa [insertPlace_of_found hf]
  | none =>
    rcases insertPlace_cases u places with he | ⟨g, he⟩
    · rwa [he]
    · have hnot := not_mem_of_findPlace_none h.2 hf
      rw [he]
      refine ⟨?_, ?_⟩
      · rw [List.map_append]
        refine h.1.append (List.nodup_singleton _) ?_
        simp only [List.map_cons, List.map_nil, List.disjoint_singleton, List.mem_map, not_exists,
          not_and]
        exact hnot
      · intro r hr
        rcases List.mem_append.1 hr with hr | hr
        · exact h.2 r hr
        · simp at hr; subst hr; rfl

/-- Carrying out a plan keeps `moz_places` well formed. -/
theorem Plan.run_wellFormed (pl : Plan) {db : Db} (h : PlacesWellFormed env db.places) :
    PlacesWellFormed env (pl.run env db).places := by
  rw [Plan.run_places]
  cases pl.url <;> simp [h, insertPlace_wellFormed]

/-- An ingestion keeps `moz_places` well formed. -/
theorem Ingests.wellFormed {db db' : Db} (h : Ingests env db db')
    (hw : PlacesWellFormed env db.places) : PlacesWellFormed env db'.places := by
  obtain ⟨t, p, h⟩ := h
  obtain ⟨pl, -, rfl⟩ := applyPayload_eq_ok h
  exact pl.run_wellFormed hw

/-- Along every run of `apply_payload` calls from a `moz_places` table with unique URLs,
no two rows ever share a URL, and the lookup by `(hash(url), url)` finds at most one
row. -/
theorem applyPayload_reachable_urls_nodup (env : Env) {db db' : Db}
    (hrun : Relation.ReflTransGen (Ingests env) db db') (hw : PlacesWellFormed env db.places) :
    (db'.places.map PlaceRow.url).Nodup ∧
      ∀ u, (db'.places.filter fun r => r.urlHash == env.hash u && r.url == u).length ≤ 1 := by
  have hw' : PlacesWellFormed env db'.places := by
    induction hrun with
    | refl => exact hw
    | tail _ hstep ih => exact hstep.wellFormed ih
  refine ⟨hw'.1, fun u => ?_⟩
  set found := db'.places.filter fun r => r.urlHash == env.hash u && r.url == u
  have hnd : (found.map PlaceRow.url).Nodup := ((List.filter_sublist _).map _).nodup hw'.1
  have hrep : found.map PlaceRow.url = List.replicate found.length u :=
    List.eq_replicate_iff.2 ⟨by simp, fun b hb => by
      obtain ⟨r, hr, rfl⟩ := List.mem_map.1 hb
      have := List.of_mem_filter hr
      simp only [Bool.and_eq_true, beq_iff_eq] at this
      exact this.2⟩
  rw [hrep] at hnd
  exact List.nodup_replicate.1 hnd

/-- Three bookmarks, two of them for one URL, ingested into an empty connection. -/
theorem applyPayload_reachable_urls_nodup_sample :
    match ingestAll Env.sample
        [(⟨0⟩, ⟨"bookmarkAAAA", false, [("type", .str "bookmark"), ("bmkUri", .str "http://a.example/")]⟩),
         (⟨0⟩, ⟨"bookmarkBBBB", false, [("type", .str "bookmark"), ("bmkUri", .str "http://b.example/")]⟩),
         (⟨0⟩, ⟨"bookmarkCCCC", false, [("type", .str "bookmark"), ("bmkUri", .str "http://a.example/")]⟩)]
        Db.empty with
    | .ok db' => (db'.places.map PlaceRow.url).Nodup ∧
        ∀ u, (db'.places.filter fun r => r.urlHash == Env.sample.hash u && r.url == u).length ≤ 1
    | .error _ => False := by
  split
  next _ h =>
    exact applyPayload_reachable_urls_nodup Env.sample (ingestAll_reachable h)
      ⟨List.nodup_nil, by simp [Db.empty]⟩
  next h => cases h

/-- `maybe_store_url` looks a URL up by `(hash(url), url)`: a row whose `url_hash` is not
the hash of its URL is missed, and the URL is interned a second time. The URLs were
unique and the generated GUIDs fresh; only the hash was stale. -/
theorem applyPayload_stale_hash_duplicates_url :
    Env.sample.GuidsFresh ∧
      (([⟨1, "placeAAAAAAA", "http://a.example/", 0⟩] : List PlaceRow).map PlaceRow.url).Nodup ∧
      (applyPayload Env.sample ⟨0⟩ ⟨"bookmarkAAAA", false, [("type", .str "bookmark"),
          ("bmkUri", .str "http://a.example/")]⟩
        { Db.empty with places := [⟨1, "placeAAAAAAA", "http://a.example/", 0⟩] }).map
        (fun db => db.places.map PlaceRow.url) = .ok ["http://a.example/", "http://a.example/"] :=
  ⟨Env.sample_guidsFresh, by decide, rfl⟩

end Places

/-! ## Structure rows -/

/-- The index of the last occurrence of `c` in a list that has it. -/
def lastIndexOf (c : String) : List String → Nat
  | [] => 0
  | _ :: xs => if c ∈ xs then lastIndexOf c xs + 1 else 0

/-- A folder's loop leaves, for a child it lists, the row at the child's last index, and
for any other GUID the row that was there. -/
theorem find?_replaceChildren (g : String) (i : Nat) (cs : List String)
    (t : List StructureRow) (c : String) :
    (replaceChildren g i cs t).find? (·.guid == c) =
      if c ∈ cs then some ⟨c, g, i + lastIndexOf c cs⟩ else t.find? (·.guid == c) := by
  induction cs generalizing i t with
  | nil => simp
  | cons x xs ih =>
    simp only [replaceChildren, ih, find?_replaceBy, lastIndexOf, List.mem_cons]
    by_cases hx : c ∈ xs
    · simp only [hx, or_true, if_true]
      congr 2; omega
    · by_cases hxc : x = c
      · subst hxc; simp [hx]
      · simp [hx, hxc, Ne.symm hxc]

/-- The structure row a record writes for the GUID `g`, as the spec reads it: a folder
whose children, as GUIDs, list `g`, at the index of its last occurrence. -/
def listingOf (g : String) (r : BookmarkItemRecord) : Option StructureRow :=
  let cs := r.children.map idToGuid
  if g ∈ cs then some ⟨g, r.guid, lastIndexOf g cs⟩ else none

/-- The row the last of a sequence of records listing `g` writes. -/
def lastListing (g : String) : List BookmarkItemRecord → Option StructureRow
  | [] => none
  | r :: rs => (lastListing g rs).or (listingOf g r)

/-- A folder payload of a `type` and `children` decodes to a folder about `id_to_guid` of
its `id`, whose children are the array as it came. -/
theorem fromPayload_folder_of_children (id : String) (children : List String) :
    BookmarkItemRecord.fromPayload ⟨id, false, [("type", .str "folder"),
        ("children", .arr (children.map .str))]⟩ =
      .ok (.folder ⟨idToGuid id, none, false, none, none, none, children⟩) := by
  simp [BookmarkItemRecord.fromPayload, Payload.isTombstone, Payload.intoRecord, Payload.toJson,
    BookmarkItemRecord.deserialize, RawBookmarkItemRecord.deserialize, reqField, optField,
    List.lookup_cons, optValue_none, optValue_some, Json.asString, Except.mapError, pure,
    Except.pure]

/-- The folder arm of `BookmarkItemRecord::deserialize` takes `children` as they came,
where the folder's own `id` goes through `id_to_guid`: every child is given a structure row
under its wire id, so a root listed by its alias (`menu`) gets a row keyed `menu`, and the
row of the root's GUID (`menu________`) is left as it was. -/
theorem applyPayload_folder_children_untranslated (env : Env) (t : ServerTimestamp)
    (id : String) (children : List String) (db : Db) :
    ∃ db', applyPayload env t ⟨id, false, [("type", .str "folder"),
        ("children", .arr (children.map .str))]⟩ db = .ok db' ∧
      ∀ c ∈ children,
        db'.syncedStructure.find? (·.guid == c) = some ⟨c, idToGuid id, lastIndexOf c children⟩ ∧
        (idToGuid c ∉ children → db'.syncedStructure.find? (·.guid == idToGuid c) =
          db.syncedStructure.find? (·.guid == idToGuid c)) := by
  obtain ⟨pl, hpl⟩ : ∃ pl, payloadPlan env t ⟨id, false, [("type", .str "folder"),
      ("children", .arr (children.map .str))]⟩ = .ok pl :=
    ⟨_, by rw [payloadPlan, fromPayload_folder_of_children]; rfl⟩
  obtain ⟨r, hr, hg, -, hc⟩ := payloadPlan_ok hpl
  rw [fromPayload_folder_of_children] at hr
  cases hr
  refine ⟨pl.run env db, by rw [applyPayload_eq, hpl]; rfl, fun c hc' => ⟨?_, fun hn => ?_⟩⟩
  all_goals simp only [Plan.run, find?_replaceChildren, hc, hg, BookmarkItemRecord.children,
    BookmarkItemRecord.guid]
  · rw [if_pos hc', Nat.zero_add]
  · rw [if_neg hn]

/-- The root's payload lists the four roots by their aliases: their structure rows are
keyed by the aliases. -/
example : (applyPayload Env.sample ⟨0⟩ ⟨"places", false, [("type", .str "folder"),
      ("children", .arr [.str "menu", .str "toolbar", .str "unfiled", .str "mobile"])]⟩
      Db.empty).map (fun db => db.syncedStructure.map fun s => (s.guid, s.parentGuid)) =
    .ok [("menu", "root________"), ("toolbar", "root________"), ("unfiled", "root________"),
      ("mobile", "root________")] :=
  rfl

/-! ## Titles -/

/-- The livemark path binds the title as it came: whatever the connection, a livemark
with an empty title is stored with the title `""`, not `NULL`. -/
theorem applyPayload_livemark_empty_title (env : Env) (t : ServerTimestamp) (db : Db) :
    ∃ db', applyPayload env t ⟨"livemarkAAAA", false,
        [("type", .str "livemark"), ("title", .str "")]⟩ db = .ok db' ∧
      ∃ row ∈ db'.synced, row.guid = "livemarkAAAA" ∧ row.isDeleted = false ∧
        row.title = some "" :=
  ⟨_, rfl, _, mem_replaceBy.2 (.inr rfl), rfl, rfl, rfl⟩

/-! ## Mirror rows -/

/-- `NULLIF(:title, "")` never stores an empty title. -/
theorem nullIf_ne_empty (t : Option String) : nullIf t ≠ some "" := by
  unfold nullIf; split <;> simp_all

section MirrorRows

variable {env : Env}

/-- A query's URL rewrite drops the URL exactly when it decides `Replace`. -/
theorem rewriteQueryUrl_ok {q : QueryRecord} {url : Url} {maybeUrl : Option Url}
    {v : SyncedBookmarkValidity} (h : rewriteQueryUrl env q url = .ok (maybeUrl, v)) :
    maybeUrl = none ↔ v = .replace := by
  simp only [rewriteQueryUrl, urlParse] at h
  split_ifs at h <;> (repeat' split at h) <;> cases h <;> simp

theorem storableUrl_length {v w : Url} (h : storableUrl env v = some w) :
    w.serialization.utf8ByteSize ≤ env.urlLengthMax := by
  unfold storableUrl at h
  split_ifs at h with hl
  cases h; omega

/-- What the spec asks of the row a plan writes and of the URL it interns. -/
structure PlanOk (env : Env) (pl : Plan) : Prop where
  needsMerge : pl.row.needsMerge = true
  tombstone : pl.row.isDeleted = true →
    pl.row.parentGuid = none ∧ pl.row.kind = none ∧ pl.row.title = none ∧ pl.url = none
  title : pl.row.isDeleted = false → pl.row.kind ≠ some .livemark → pl.row.title ≠ some ""
  url : pl.row.kind = some .bookmark ∨ pl.row.kind = some .query →
    (pl.url = none ↔ pl.row.validity = .replace)
  urlLength : ∀ u, pl.url = some u → u.utf8ByteSize ≤ env.urlLengthMax
  feedUrl : pl.row.kind = some .livemark → (pl.row.feedUrl = none ↔ pl.row.validity = .replace)

/-- Every plan is as the spec asks, but for a livemark's title. -/
theorem planOf_planOk {t : ServerTimestamp} {r : BookmarkItemRecord} {pl : Plan}
    (h : planOf env t r = .ok pl) : PlanOk env pl := by
  have storable : ∀ {mu : Option Url} u, (mu.bind (storableUrl env)).map Url.serialization = some u →
      u.utf8ByteSize ≤ env.urlLengthMax := fun u hu => by
    simp only [Option.map_eq_some', Option.bind_eq_some] at hu
    obtain ⟨w, ⟨v, -, hw⟩, rfl⟩ := hu
    exact storableUrl_length hw
  cases r with
  | tombstone g =>
    cases h; exact ⟨rfl, fun _ => ⟨rfl, rfl, rfl, rfl⟩, by simp, by simp, by simp, by simp⟩
  | bookmark b =>
    cases h
    refine ⟨rfl, by simp, fun _ _ => nullIf_ne_empty _, fun _ => ?_, storable, by simp⟩
    cases (b.url.bind env.parseUrl).bind (storableUrl env) <;> simp
  | query q =>
    simp only [planOf] at h
    split at h
    · obtain ⟨⟨mu, v⟩, hr, h⟩ := except_bind_eq_ok h
      have hr := rewriteQueryUrl_ok (liftErr_eq_ok hr)
      cases h
      refine ⟨rfl, by simp, fun _ _ => nullIf_ne_empty _, fun _ => ?_, storable, by simp⟩
      cases hm : mu.bind (storableUrl env) with
      | none => simp
      | some w =>
        have : mu ≠ none := by rintro rfl; simp at hm
        simpa using fun hv => this (hr.2 hv)
    · cases h
      exact ⟨rfl, by simp, fun _ _ => nullIf_ne_empty _, by simp, by simp, by simp⟩
  | folder f =>
    cases h; exact ⟨rfl, by simp, fun _ _ => nullIf_ne_empty _, by simp, by simp, by simp⟩
  | livemark l =>
    cases h
    refine ⟨rfl, by simp, by simp, by simp, by simp, fun _ => ?_⟩
    cases validateHref env l.feedUrl <;> simp
  | separator s => cases h; exact ⟨rfl, by simp, by simp, by simp, by simp, by simp⟩

/-- A mirror row as the spec's data model has it, but for a livemark's title: marked for
merging; a tombstone without parent, kind, title or place; a live row without an empty
title; a bookmark or query without a place exactly when it is to be replaced, and its
place a row of `moz_places` whose URL is within the limit; a livemark without a feed URL
exactly when it is to be replaced. -/
structure MirrorRowOk (env : Env) (places : List PlaceRow) (row : MirrorRow) : Prop where
  needsMerge : row.needsMerge = true
  tombstone : row.isDeleted = true →
    row.parentGuid = none ∧ row.kind = none ∧ row.title = none ∧ row.placeId = none
  title : row.isDeleted = false → row.kind ≠ some .livemark → row.title ≠ some ""
  placeId : row.kind = some .bookmark ∨ row.kind = some .query →
    (row.placeId = none ↔ row.validity = .replace)
  place : ∀ i, row.placeId = some i →
    ∃ p ∈ places, p.id = i ∧ p.url.utf8ByteSize ≤ env.urlLengthMax
  feedUrl : row.kind = some .livemark → (row.feedUrl = none ↔ row.validity = .replace)

/-- Appending to `moz_places` keeps a row well formed. -/
theorem MirrorRowOk.append {places : List PlaceRow} (rest : List PlaceRow) {row : MirrorRow}
    (h : MirrorRowOk env places row) : MirrorRowOk env (places ++ rest) row :=
  { h with
    place := fun i hi =>
      let ⟨p, hp, hid, hl⟩ := h.place i hi
      ⟨p, List.mem_append_left _ hp, hid, hl⟩ }

variable (hfresh : env.GuidsFresh)
include hfresh

/-- With fresh GUIDs, carrying out a plan as the spec asks keeps every mirror row well
formed. -/
theorem Plan.run_mirrorRowOk {pl : Plan} (hpl : PlanOk env pl) {db : Db}
    (hw : ∀ r ∈ db.synced, MirrorRowOk env db.places r) :
    ∀ r ∈ (pl.run env db).synced, MirrorRowOk env (pl.run env db).places r := by
  obtain ⟨rest, hrest⟩ := @Plan.run_places_append env pl db
  obtain ⟨hnone, hsome⟩ := pl.placeIdFor_run hfresh db
  intro r hr
  rw [Plan.run_synced] at hr
  rcases mem_replaceBy.1 hr with ⟨hr, -⟩ | rfl
  · rw [hrest]; exact (hw r hr).append rest
  · refine ⟨hpl.needsMerge, fun hd => ?_, hpl.title, fun hk => hnone.trans (hpl.url hk),
      fun i hi => ?_, hpl.feedUrl⟩
    · obtain ⟨hp, hk, ht, hu⟩ := hpl.tombstone hd
      exact ⟨hp, hk, ht, hnone.2 hu⟩
    · obtain ⟨u, hu, p, hp, rfl, rfl⟩ := hsome i hi
      exact ⟨p, hp, rfl, hpl.urlLength _ hu⟩

/-- With fresh GUIDs, an ingestion keeps the mirror well formed and linked to
`moz_places`. -/
theorem Ingests.mirrorRowOk {db db' : Db} (h : Ingests env db db') (hl : db.PlaceLinks)
    (hw : ∀ r ∈ db.synced, MirrorRowOk env db.places r) :
    db'.PlaceLinks ∧ ∀ r ∈ db'.synced, MirrorRowOk env db'.places r := by
  obtain ⟨t, p, h⟩ := h
  obtain ⟨pl, hpl, rfl⟩ := applyPayload_eq_ok h
  obtain ⟨r, -, hr⟩ := except_bind_eq_ok hpl
  exact ⟨pl.run_placeLinks hl, Plan.run_mirrorRowOk hfresh (planOf_planOk hr) hw⟩

omit hfresh

/-- Along every run of `apply_payload` calls, with fresh GUIDs, from a connection whose
mirror rows are as the spec asks and point at places of unique ids, every mirror row
stays so: marked for merging; a tombstone without parent, kind, title or place; no empty
title but a livemark's; a bookmark or query without a place exactly when it is to be
replaced, and otherwise pointing at the one `moz_places` row of its id, whose URL is within
`URL_LENGTH_MAX`; a livemark without a feed URL exactly when it is to be replaced. -/
theorem applyPayload_reachable_mirror_rows (env : Env) (hfresh : env.GuidsFresh) {db db' : Db}
    (hrun : Relation.ReflTransGen (Ingests env) db db') (hl : db.PlaceLinks)
    (hw : ∀ r ∈ db.synced, MirrorRowOk env db.places r) :
    db'.PlaceLinks ∧ ∀ r ∈ db'.synced, MirrorRowOk env db'.places r := by
  induction hrun with
  | refl => exact ⟨hl, hw⟩
  | tail _ hstep ih => exact hstep.mirrorRowOk hfresh ih.1 ih.2

end MirrorRows

/-- A bookmark, its folder and a tombstone ingested into an empty connection. -/
theorem applyPayload_reachable_mirror_rows_sample :
    match ingestAll Env.sample
        [(⟨0⟩, ⟨"bookmarkAAAA", false, [("type", .str "bookmark"), ("title", .str ""),
            ("bmkUri", .str "http://a.example/")]⟩),
         (⟨0⟩, ⟨"folderAAAAAA", false, [("type", .str "folder"),
            ("children", .arr [.str "bookmarkAAAA"])]⟩),
         (⟨0⟩, ⟨"bookmarkBBBB", true, []⟩)]
        Db.empty with
    | .ok db' => db'.PlaceLinks ∧ ∀ r ∈ db'.synced, MirrorRowOk Env.sample db'.places r
    | .error _ => False := by
  split
  next _ h =>
    exact applyPayload_reachable_mirror_rows Env.sample Env.sample_guidsFresh
      (ingestAll_reachable h) ⟨List.nodup_nil, by simp [Db.empty]⟩ (by simp [Db.empty])
  next h => cases h

end BookmarkSync
