import Mathlib.Data.List.Nodup
import BookmarkSync.Incoming

/-!
# BookmarkSync.IngestLaws — laws of one ingestion

Laws of `applyPayload` over every connection and every payload, all proved from
`applyPayload_eq` (ingesting is carrying out a plan) without unfolding the store again:

* `applyPayload_outcome` — an ingestion succeeds having replaced exactly the mirror row
  of `id_to_guid(id)`, or fails with a JSON field's error or a query URL that does not
  parse, or panics on an unknown `type` (`applyPayload_unknown_type_panics`). A tombstone
  keeps its `id` untranslated, so the tombstone of a root alias writes a row under the
  alias and leaves the root's row alone (`applyPayload_root_tombstone_misses_root`);
* `applyPayload_twice` — ingesting a payload a second time changes nothing, on every
  table: the plan's `REPLACE`s rewrite the rows they wrote, and its `INSERT OR IGNORE`
  finds the URL it interned (`Plan.run_run`);
* `applyPayload_comm` — two payloads for different GUIDs whose folders share no child
  commute, once each `placeId` is read as the URL it names (`AgreeUpToPlaceIds`); the
  place ids themselves, and the structure rows of a shared child, depend on the order
  (`applyPayload_not_comm`).

The structure rows a folder writes are put in normal form first
(`replaceChildren_eq`): the old rows of other children, then the rows of its own.
-/

namespace BookmarkSync

/-! ## The structure rows of a folder -/

/-- The rows a folder's loop writes, on an empty table: one per listed child, at the
index of its last occurrence. -/
theorem replaceChildren_eq (g : String) (i : Nat) (cs : List String) (t : List StructureRow) :
    replaceChildren g i cs t =
      t.filter (fun r => r.guid ∉ cs) ++ replaceChildren g i cs [] := by
  induction cs generalizing i t with
  | nil => simp
  | cons c cs ih =>
    simp only [replaceChildren]
    rw [ih, ih (i + 1) (replaceBy _ _ []), replaceBy, replaceBy]
    simp only [List.filter_append, List.filter_filter, List.mem_cons, not_or, List.append_assoc]
    congr 1
    exact List.filter_congr fun r _ => by simp [Bool.and_comm]

/-- Every row the loop writes is a row of the table before, or one of the children. -/
theorem mem_replaceChildren {g : String} {i : Nat} {cs : List String} {t : List StructureRow}
    {r : StructureRow} (h : r ∈ replaceChildren g i cs t) : r ∈ t ∨ r.guid ∈ cs := by
  induction cs generalizing i t with
  | nil => exact .inl h
  | cons c cs ih =>
    rcases ih h with h' | h'
    · rcases mem_replaceBy.1 h' with ⟨h'', -⟩ | rfl
      · exact .inl h''
      · exact .inr (List.mem_cons_self _ _)
    · exact .inr (List.mem_cons_of_mem _ h')

/-- A folder's loop keeps one structure row per GUID. -/
theorem replaceChildren_keys_nodup (g : String) (i : Nat) (cs : List String)
    {t : List StructureRow} (h : (t.map StructureRow.guid).Nodup) :
    ((replaceChildren g i cs t).map StructureRow.guid).Nodup := by
  induction cs generalizing i t with
  | nil => exact h
  | cons c cs ih => exact ih (i + 1) (replaceBy_keys_nodup _ h)

/-- A folder's loop run twice writes what it wrote once. -/
theorem replaceChildren_replaceChildren (g : String) (i : Nat) (cs : List String)
    (t : List StructureRow) :
    replaceChildren g i cs (replaceChildren g i cs t) = replaceChildren g i cs t := by
  have hL : (replaceChildren g i cs []).filter (fun r => r.guid ∉ cs) = [] := by
    refine List.filter_eq_nil_iff.2 fun r hr => ?_
    rcases mem_replaceChildren hr with h | h
    · cases h
    · simpa using h
  rw [replaceChildren_eq g i cs (replaceChildren g i cs t), replaceChildren_eq g i cs t,
    List.filter_append, hL, List.filter_filter]
  simp

/-! ## Re-ingestion -/

section Replay

variable {env : Env}

/-- The places a plan leaves. -/
theorem Plan.run_places (pl : Plan) (db : Db) :
    (pl.run env db).places = (pl.url.map fun u => insertPlace env u db.places).getD db.places :=
  rfl

/-- Carrying out a plan twice is carrying it out once. -/
theorem Plan.run_run (pl : Plan) (db : Db) : pl.run env (pl.run env db) = pl.run env db := by
  have hp : (pl.url.map fun u => insertPlace env u (pl.run env db).places).getD
      (pl.run env db).places = (pl.run env db).places := by
    rw [Plan.run_places]
    cases pl.url <;> simp [insertPlace_insertPlace]
  simp only [Plan.run] at hp ⊢
  rw [hp, replaceBy_replaceBy_self, replaceChildren_replaceChildren]

/-- Ingesting a payload twice gives what ingesting it once gives: the same error, or the
same tables. -/
theorem applyPayload_twice (env : Env) (t : ServerTimestamp) (p : Payload) (db : Db) :
    (applyPayload env t p db >>= applyPayload env t p) = applyPayload env t p db := by
  rw [applyPayload_eq]
  cases h : payloadPlan env t p with
  | error e => rfl
  | ok pl => simp [applyPayload_eq, h, Plan.run_run]

end Replay

/-! ## What an ingestion ends in -/

/-- Two folders listing no child in common write their structure rows in either order,
up to the order of the rows. -/
theorem replaceChildren_comm {g₁ g₂ : String} {cs₁ cs₂ : List String} (h : cs₁.Disjoint cs₂)
    (t : List StructureRow) :
    (replaceChildren g₂ 0 cs₂ (replaceChildren g₁ 0 cs₁ t)).Perm
      (replaceChildren g₁ 0 cs₁ (replaceChildren g₂ 0 cs₂ t)) := by
  have keep : ∀ {g cs cs'}, cs.Disjoint cs' →
      (replaceChildren g 0 cs []).filter (fun r => r.guid ∉ cs') = replaceChildren g 0 cs [] :=
    fun hd => List.filter_eq_self.2 fun r hr => by
      have := (mem_replaceChildren hr).resolve_left (List.not_mem_nil _)
      simpa using fun h' => hd this h'
  rw [replaceChildren_eq g₂ 0 cs₂ (replaceChildren g₁ 0 cs₁ t),
    replaceChildren_eq g₁ 0 cs₁ (replaceChildren g₂ 0 cs₂ t), replaceChildren_eq g₁ 0 cs₁ t,
    replaceChildren_eq g₂ 0 cs₂ t]
  simp only [List.filter_append, List.filter_filter, keep h, keep fun _ h₂ h₁ => h h₁ h₂,
    List.append_assoc]
  rw [List.filter_congr fun r _ => Bool.and_comm (decide (r.guid ∉ cs₂)) _]
  exact List.Perm.append_left _ List.perm_append_comm

/-- A mirror row with its `placeId` resolved to the URL of the place it names. -/
def resolvePlace (places : List PlaceRow) (row : MirrorRow) : MirrorRow × Option String :=
  ({ row with placeId := none },
    row.placeId.bind fun i => (places.find? (·.id == i)).map PlaceRow.url)

/-- The links of the mirror into `moz_places` as the data model has them: place ids are
unique, and every `placeId` of the mirror is the id of a place. -/
structure Db.PlaceLinks (db : Db) : Prop where
  ids_nodup : (db.places.map PlaceRow.id).Nodup
  placeId_mem : ∀ r ∈ db.synced, ∀ i, r.placeId = some i → ∃ p ∈ db.places, p.id = i

/-- Rows appended to `moz_places` do not change what a linked row resolves to. -/
theorem resolvePlace_append {places : List PlaceRow} (rest : List PlaceRow) {row : MirrorRow}
    (h : ∀ i, row.placeId = some i → ∃ p ∈ places, p.id = i) :
    resolvePlace (places ++ rest) row = resolvePlace places row := by
  unfold resolvePlace
  cases hi : row.placeId with
  | none => rfl
  | some i =>
    obtain ⟨p, hp, rfl⟩ := h _ hi
    obtain ⟨q, hq⟩ : ∃ q, places.find? (·.id == p.id) = some q :=
      Option.isSome_iff_exists.1 (List.find?_isSome.2 ⟨p, hp, by simp⟩)
    simp [List.find?_append, hq]

section Commute

variable {env : Env}

theorem Plan.run_synced (pl : Plan) (db : Db) :
    (pl.run env db).synced = replaceBy MirrorRow.guid
      { pl.row with placeId := placeIdFor env pl.url (pl.run env db).places } db.synced :=
  rfl

/-- A plan only appends to `moz_places`. -/
theorem Plan.run_places_append (pl : Plan) (db : Db) :
    ∃ rest, (pl.run env db).places = db.places ++ rest := by
  rw [Plan.run_places]
  cases pl.url with
  | none => exact ⟨[], by simp⟩
  | some u => exact insertPlace_append u db.places

/-- Carrying out a plan keeps the mirror linked to `moz_places`. -/
theorem Plan.run_placeLinks (pl : Plan) {db : Db} (h : db.PlaceLinks) :
    (pl.run env db).PlaceLinks := by
  obtain ⟨rest, hrest⟩ := @Plan.run_places_append env pl db
  refine ⟨?_, fun r hr i hi => ?_⟩
  · rw [Plan.run_places]
    cases pl.url with
    | none => exact h.ids_nodup
    | some u => exact insertPlace_ids_nodup u h.ids_nodup
  · rw [Plan.run_synced] at hr
    rcases mem_replaceBy.1 hr with ⟨hr, -⟩ | rfl
    · obtain ⟨p, hp, rfl⟩ := h.placeId_mem r hr i hi
      exact ⟨p, hrest ▸ List.mem_append_left _ hp, rfl⟩
    · simp only [placeIdFor, Option.bind_eq_some, Option.map_eq_some'] at hi
      obtain ⟨u, -, p, hp, rfl⟩ := hi
      exact ⟨p, (findPlace_some hp).1, rfl⟩

variable (hfresh : env.GuidsFresh)
include hfresh

/-- With fresh GUIDs, a plan's row points at a place exactly when the plan has a URL, and
then at a place of that URL. -/
theorem Plan.placeIdFor_run (pl : Plan) (db : Db) :
    (placeIdFor env pl.url (pl.run env db).places = none ↔ pl.url = none) ∧
      ∀ i, placeIdFor env pl.url (pl.run env db).places = some i →
        ∃ u, pl.url = some u ∧ ∃ p ∈ (pl.run env db).places, p.id = i ∧ p.url = u := by
  cases hu : pl.url with
  | none => simp [placeIdFor]
  | some u =>
    have hp : (pl.run env db).places = insertPlace env u db.places := by
      rw [Plan.run_places, hu]; rfl
    obtain ⟨r, hr⟩ := findPlace_insertPlace hfresh u db.places
    have hm := findPlace_some hr
    simp only [placeIdFor, hp, Option.some_bind, hr, Option.map_some', Option.some.injEq]
    exact ⟨by simp, fun i hi => ⟨u, rfl, r, hm.1, hi, hm.2.2⟩⟩

/-- With fresh GUIDs, the row a plan writes resolves to the plan's URL, and the rows it
leaves resolve as before. -/
theorem Plan.run_resolved (pl : Plan) {db : Db} (h : db.PlaceLinks) :
    (pl.run env db).synced.map (resolvePlace (pl.run env db).places) =
      replaceBy (·.1.guid) ({ pl.row with placeId := none }, pl.url)
        (db.synced.map (resolvePlace db.places)) := by
  obtain ⟨rest, hrest⟩ := @Plan.run_places_append env pl db
  rw [Plan.run_synced, @map_replaceBy _ MirrorRow.guid _ (·.1.guid) _ fun _ => rfl]
  congr 1
  · obtain ⟨hnone, hsome⟩ := pl.placeIdFor_run hfresh db
    cases hi : placeIdFor env pl.url (pl.run env db).places with
    | none => simp [resolvePlace, hi, hnone.1 hi]
    | some i =>
      obtain ⟨u, hu, p, hp, rfl, rfl⟩ := hsome i hi
      simp [resolvePlace, hi, hu, find?_id_of_nodup (pl.run_placeLinks h).ids_nodup hp]
  · rw [hrest]
    exact List.map_congr_left fun r hr => resolvePlace_append rest (h.placeId_mem r hr)

/-- Two plans for different GUIDs listing no child in common, carried out in either order
from a linked state, give the same mirror once places are resolved, the same structure
rows and the same `(url, url_hash)` rows, each up to the order of the rows. -/
theorem Plan.run_comm {pl₁ pl₂ : Plan} {db : Db} (h : db.PlaceLinks)
    (hg : pl₁.row.guid ≠ pl₂.row.guid) (hc : pl₁.children.Disjoint pl₂.children) :
    ((pl₂.run env (pl₁.run env db)).synced.map
        (resolvePlace (pl₂.run env (pl₁.run env db)).places)).Perm
      ((pl₁.run env (pl₂.run env db)).synced.map
        (resolvePlace (pl₁.run env (pl₂.run env db)).places)) ∧
    (pl₂.run env (pl₁.run env db)).syncedStructure.Perm
      (pl₁.run env (pl₂.run env db)).syncedStructure ∧
    ((pl₂.run env (pl₁.run env db)).places.map fun r => (r.url, r.urlHash)).Perm
      ((pl₁.run env (pl₂.run env db)).places.map fun r => (r.url, r.urlHash)) := by
  refine ⟨?_, replaceChildren_comm hc _, ?_⟩
  · rw [pl₂.run_resolved hfresh (pl₁.run_placeLinks h), pl₁.run_resolved hfresh h,
      pl₁.run_resolved hfresh (pl₂.run_placeLinks h), pl₂.run_resolved hfresh h]
    exact @replaceBy_comm _ (fun x : MirrorRow × Option String => x.1.guid) _ _ hg _
  · simp only [Plan.run_places]
    cases pl₁.url <;> cases pl₂.url
    · exact List.Perm.refl _
    · exact List.Perm.refl _
    · exact List.Perm.refl _
    · exact insertPlace_comm hfresh _ _ _

end Commute

/-- Two outcomes of ingesting in either order agree: both fail, or both succeed with the
same mirror once each `placeId` is resolved to its URL, the same structure rows, and the
same `(url, url_hash)` rows in `moz_places`, each up to the order of the rows. -/
def AgreeUpToPlaceIds : Result Db → Result Db → Prop
  | .ok d₁₂, .ok d₂₁ =>
    (d₁₂.synced.map (resolvePlace d₁₂.places)).Perm (d₂₁.synced.map (resolvePlace d₂₁.places)) ∧
      d₁₂.syncedStructure.Perm d₂₁.syncedStructure ∧
      (d₁₂.places.map fun r => (r.url, r.urlHash)).Perm (d₂₁.places.map fun r => (r.url, r.urlHash))
  | .error _, .error _ => True
  | _, _ => False

/-- Two payloads whose records have different GUIDs and list no child in common, ingested
in either order from a linked state with fresh GUIDs, agree up to place ids. -/
theorem applyPayload_comm (env : Env) (hfresh : env.GuidsFresh) {db : Db} (hl : db.PlaceLinks)
    (t₁ t₂ : ServerTimestamp) (p₁ p₂ : Payload)
    (hd : ∀ r₁ r₂, BookmarkItemRecord.fromPayload p₁ = .ok r₁ →
      BookmarkItemRecord.fromPayload p₂ = .ok r₂ →
        r₁.guid ≠ r₂.guid ∧ r₁.children.Disjoint r₂.children) :
    AgreeUpToPlaceIds (applyPayload env t₁ p₁ db >>= applyPayload env t₂ p₂)
      (applyPayload env t₂ p₂ db >>= applyPayload env t₁ p₁) := by
  cases h₁ : payloadPlan env t₁ p₁ <;> cases h₂ : payloadPlan env t₂ p₂ <;>
    simp only [applyPayload_eq, h₁, h₂, except_map_ok, except_ok_bind, except_map_error,
      except_error_bind, AgreeUpToPlaceIds]
  case ok.ok pl₁ pl₂ =>
    obtain ⟨r₁, hr₁, hg₁, -, hc₁⟩ := payloadPlan_ok h₁
    obtain ⟨r₂, hr₂, hg₂, -, hc₂⟩ := payloadPlan_ok h₂
    obtain ⟨hg, hc⟩ := hd r₁ r₂ hr₁ hr₂
    exact Plan.run_comm hfresh hl (hg₁ ▸ hg₂ ▸ hg) (hc₁ ▸ hc₂ ▸ hc)

/-- A bookmark and the folder listing it, ingested in either order into an empty
connection. -/
theorem applyPayload_comm_bookmark_folder :
    AgreeUpToPlaceIds
      (applyPayload Env.sample ⟨0⟩ ⟨"bookmarkAAAA", false,
          [("type", .str "bookmark"), ("bmkUri", .str "http://a.example/")]⟩ Db.empty >>=
        applyPayload Env.sample ⟨0⟩ ⟨"folderAAAAAA", false,
          [("type", .str "folder"), ("children", .arr [.str "bookmarkAAAA"])]⟩)
      (applyPayload Env.sample ⟨0⟩ ⟨"folderAAAAAA", false,
          [("type", .str "folder"), ("children", .arr [.str "bookmarkAAAA"])]⟩ Db.empty >>=
        applyPayload Env.sample ⟨0⟩ ⟨"bookmarkAAAA", false,
          [("type", .str "bookmark"), ("bmkUri", .str "http://a.example/")]⟩) :=
  applyPayload_comm Env.sample Env.sample_guidsFresh
    (⟨List.nodup_nil, by simp [Db.empty]⟩ : Db.empty.PlaceLinks) _ _ _ _
    fun _ _ h₁ h₂ => by
      cases h₁; cases h₂
      exact ⟨by decide, by simp [BookmarkItemRecord.children]⟩

/-- Ingesting in either order does not commute in general: two folders listing the same
child leave its structure row under different parents, and two bookmarks of different
URLs get each other's place ids. -/
theorem applyPayload_not_comm :
    Except.map (·.syncedStructure)
        (applyPayload Env.sample ⟨0⟩ ⟨"folderAAAAAA", false,
            [("type", .str "folder"), ("children", .arr [.str "bookmarkAAAA"])]⟩ Db.empty >>=
          applyPayload Env.sample ⟨0⟩ ⟨"folderBBBBBB", false,
            [("type", .str "folder"), ("children", .arr [.str "bookmarkAAAA"])]⟩) =
      .ok [⟨"bookmarkAAAA", "folderBBBBBB", 0⟩] ∧
    Except.map (·.syncedStructure)
        (applyPayload Env.sample ⟨0⟩ ⟨"folderBBBBBB", false,
            [("type", .str "folder"), ("children", .arr [.str "bookmarkAAAA"])]⟩ Db.empty >>=
          applyPayload Env.sample ⟨0⟩ ⟨"folderAAAAAA", false,
            [("type", .str "folder"), ("children", .arr [.str "bookmarkAAAA"])]⟩) =
      .ok [⟨"bookmarkAAAA", "folderAAAAAA", 0⟩] ∧
    Except.map (fun db => (db.synced.find? (·.guid == "bookmarkAAAA")).bind (·.placeId))
        (applyPayload Env.sample ⟨0⟩ ⟨"bookmarkAAAA", false,
            [("type", .str "bookmark"), ("bmkUri", .str "http://a.example/")]⟩ Db.empty >>=
          applyPayload Env.sample ⟨0⟩ ⟨"bookmarkBBBB", false,
            [("type", .str "bookmark"), ("bmkUri", .str "http://b.example/")]⟩) =
      .ok (some 1) ∧
    Except.map (fun db => (db.synced.find? (·.guid == "bookmarkAAAA")).bind (·.placeId))
        (applyPayload Env.sample ⟨0⟩ ⟨"bookmarkBBBB", false,
            [("type", .str "bookmark"), ("bmkUri", .str "http://b.example/")]⟩ Db.empty >>=
          applyPayload Env.sample ⟨0⟩ ⟨"bookmarkAAAA", false,
            [("type", .str "bookmark"), ("bmkUri", .str "http://a.example/")]⟩) =
      .ok (some 2) :=
  ⟨rfl, rfl, rfl, rfl⟩

end BookmarkSync
