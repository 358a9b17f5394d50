import BookmarkSync.Bookmarks
import BookmarkSync.LocalItems

/-!
# BookmarkSync.BookmarkRuns — the tables the local bookmark API builds

`create_bookmark_roots`, `insert_bookmark` and `insert_tree` of `storage/bookmarks.rs`,
called in any order with any arguments, each keeping what it wrote when it fails
(`Edits`), from an empty `moz_bookmarks`. The schema of `moz_bookmarks` is not in the
source; `StorageEnv.Schema` says what these results need of it: SQLite's next rowid for
the `INTEGER PRIMARY KEY`, a `UNIQUE` GUID, and the parent, position and type bound.

What every run keeps (`TableOk`): unique positive ids, unique GUIDs, rows of known kinds,
and rows appended each below a folder already there, the root's children being the four
user roots (`Grown`). Hence, on every table a run reaches:

* `edits_tree` — the table is a tree under `root________`: every other row's parent is a
  folder, and its parent chain reaches the root;
* `edits_localItems` — the `localItems` CTE of the sync ends on it and yields every row
  but the root, each once;
* `appendEdits_positionsDense` — when every position asked for is `Append`, as in
  `insert_tree`, every folder's children hold the positions `0, …, n - 1`. `Specific`
  positions do not keep this: their dance shifts the wrong folder.
-/

namespace BookmarkSync

/-! ## What the schema must give -/

/-- The id SQLite gives a new row of an `INTEGER PRIMARY KEY`: one past the largest, or 1 in
an empty table. -/
def nextBookmarkId (bookmarks : List BookmarkRow) : Int :=
  ((bookmarks.map BookmarkRow.id).max?.map (· + 1)).getD 1

/-- What the schema of `moz_bookmarks`, which is not in the source, gives an `INSERT` that
succeeds: the next id, a GUID no row has (the one bound, when one is), and the parent,
position and type bound. -/
structure StorageEnv.Schema (env : StorageEnv) : Prop where
  id : ∀ {v t row}, env.newBookmarkRow v t = .ok row → row.id = nextBookmarkId t
  guid_fresh : ∀ {v t row}, env.newBookmarkRow v t = .ok row → row.guid ∉ t.map BookmarkRow.guid
  guid_bound : ∀ {v t row g}, env.newBookmarkRow v t = .ok row → v.guid = some g → row.guid = g
  binds : ∀ {v t row}, env.newBookmarkRow v t = .ok row →
    row.parent = v.parent ∧ row.position = v.position ∧ row.type = v.type

theorem lt_nextBookmarkId {t : List BookmarkRow} {b : BookmarkRow} (hb : b ∈ t) :
    b.id < nextBookmarkId t := by
  unfold nextBookmarkId
  cases hm : (t.map BookmarkRow.id).max? with
  | none => simp_all
  | some m =>
    have := (List.max?_le_iff (fun _ _ _ => max_le_iff) hm).1 (le_refl m) b.id
      (List.mem_map_of_mem _ hb)
    simp only [Option.map_some', Option.getD_some]
    omega

theorem nextBookmarkId_fresh (t : List BookmarkRow) : nextBookmarkId t ∉ t.map BookmarkRow.id :=
  fun h => by
    obtain ⟨b, hb, he⟩ := List.mem_map.1 h
    exact absurd he (lt_nextBookmarkId hb).ne

theorem nextBookmarkId_pos {t : List BookmarkRow} (h : ∀ b ∈ t, 0 < b.id) :
    0 < nextBookmarkId t := by
  cases t with
  | nil => decide
  | cons b t => exact (h b (.head _)).trans (lt_nextBookmarkId (.head _))

/-- `StorageEnv.sample`'s table: every column bound, the GUID new, the next id. -/
theorem StorageEnv.sample_newBookmarkRow {v : BookmarkInsert} {t : List BookmarkRow}
    {row : BookmarkRow} (h : StorageEnv.sample.newBookmarkRow v t = .ok row) :
    ∃ g, v.guid = some g ∧ g ∉ t.map BookmarkRow.guid ∧ row.id = nextBookmarkId t ∧
      row.guid = g ∧ row.parent = v.parent ∧ row.position = v.position ∧ row.type = v.type := by
  simp only [StorageEnv.sample] at h
  split at h
  · rename_i g _ _ _ _ hg _ _ _ _
    split_ifs at h with hany
    cases h
    refine ⟨g, hg, fun hm => hany ?_, rfl, rfl, rfl, rfl, rfl⟩
    simpa using hm
  · cases h

theorem StorageEnv.sample_schema : StorageEnv.sample.Schema where
  id h := (sample_newBookmarkRow h).choose_spec.2.2.1
  guid_fresh h := by
    obtain ⟨g, -, hg, -, rfl, -⟩ := sample_newBookmarkRow h
    exact hg
  guid_bound h hv := by
    obtain ⟨g, hg, -, -, rfl, -⟩ := sample_newBookmarkRow h
    exact Option.some.inj (hg.symm.trans hv)
  binds h := (sample_newBookmarkRow h).choose_spec.2.2.2.2

/-! ## The invariant -/

/-- The tables built by appending rows: the root, a folder with parent 0, first; then rows
whose parent is a folder already there, a child of the root being a user root. -/
inductive Grown : List BookmarkRow → Prop
  | nil : Grown []
  | root {r : BookmarkRow} : r.guid = BookmarkRootGuid.root.asGuid → r.parent = 0 →
      r.type = BookmarkType.folder.toU8 → Grown [r]
  | snoc {t : List BookmarkRow} {b p : BookmarkRow} : Grown t → p ∈ t → p.id = b.parent →
      p.type = BookmarkType.folder.toU8 → b.guid ≠ BookmarkRootGuid.root.asGuid →
      (p.guid = BookmarkRootGuid.root.asGuid →
        b.guid ∈ BookmarkRootGuid.userRoots.map BookmarkRootGuid.asGuid) →
      Grown (t ++ [b])

/-- What every table the local bookmark API builds keeps. -/
structure TableOk (bookmarks : List BookmarkRow) : Prop where
  grown : Grown bookmarks
  ids_nodup : (bookmarks.map BookmarkRow.id).Nodup
  guids_nodup : (bookmarks.map BookmarkRow.guid).Nodup
  ids_pos : ∀ b ∈ bookmarks, 0 < b.id
  types : ∀ b ∈ bookmarks, ∃ k : BookmarkType, b.type = k.toU8

namespace Grown

variable {t : List BookmarkRow}

/-- A grown table that is not empty starts with the root. -/
theorem head (h : Grown t) (hne : t ≠ []) :
    ∃ r rest, t = r :: rest ∧ r.guid = BookmarkRootGuid.root.asGuid ∧ r.parent = 0 ∧
      r.type = BookmarkType.folder.toU8 := by
  induction h with
  | nil => exact absurd rfl hne
  | root hg hp ht => exact ⟨_, [], rfl, hg, hp, ht⟩
  | @snoc t b p _ hp _ _ _ _ ih =>
    obtain ⟨r, rest, rfl, hr⟩ := ih (List.ne_nil_of_mem hp)
    exact ⟨r, rest ++ [b], rfl, hr⟩

/-- Only the root has the GUID of the root, and its parent is 0. -/
theorem root_parent (h : Grown t) {r : BookmarkRow} (hr : r ∈ t)
    (hg : r.guid = BookmarkRootGuid.root.asGuid) : r.parent = 0 := by
  induction h with
  | nil => cases hr
  | root _ hp _ =>
    rw [List.mem_singleton.1 hr]
    exact hp
  | snoc _ _ _ _ hb _ ih =>
    rcases List.mem_append.1 hr with hr | hr
    · exact ih hr
    · exact absurd (List.mem_singleton.1 hr ▸ hg) hb

/-- Changing what no invariant reads, as the position dance does, keeps a table grown. -/
theorem map {f : BookmarkRow → BookmarkRow}
    (hf : ∀ b, (f b).id = b.id ∧ (f b).guid = b.guid ∧ (f b).parent = b.parent ∧
      (f b).type = b.type) (h : Grown t) : Grown (t.map f) := by
  induction h with
  | nil => exact .nil
  | root hg hp ht =>
    obtain ⟨-, h₂, h₃, h₄⟩ := hf _
    exact .root (h₂.trans hg) (h₃.trans hp) (h₄.trans ht)
  | @snoc t b p _ hp hid hty hb htop ih =>
    obtain ⟨h₁, h₂, h₃, h₄⟩ := hf p
    obtain ⟨-, h₂', h₃', -⟩ := hf b
    rw [List.map_append, List.map_singleton]
    exact .snoc ih (List.mem_map_of_mem f hp) (by rw [h₁, h₃', hid]) (h₄.trans hty)
      (h₂'.symm ▸ hb) (fun hr => h₂'.symm ▸ htop (h₂ ▸ hr))

end Grown

theorem ne_tagsGuid_of_userRoot {g : String}
    (h : g ∈ BookmarkRootGuid.userRoots.map BookmarkRootGuid.asGuid) : g ≠ tagsGuid := by
  simp only [BookmarkRootGuid.userRoots, List.map_cons, List.map_nil, List.mem_cons,
    List.mem_singleton, List.not_mem_nil, or_false] at h
  rcases h with rfl | rfl | rfl | rfl <;> decide

theorem Below.mono {t t' : List BookmarkRow} (hsub : ∀ x ∈ t, x ∈ t') {b : BookmarkRow} {d : Nat}
    (h : Below t b d) : Below t' b d := by
  induction h with
  | top hb hp hid hroot htags hr => exact .top (hsub _ hb) (hsub _ hp) hid hroot htags hr
  | step _ hb hid hr ih => exact .step ih (hsub _ hb) hid hr

/-- In a grown table every row but the root reaches the root. -/
theorem Grown.reaches_root {t : List BookmarkRow} (h : Grown t) :
    ∀ b ∈ t, b.guid ≠ BookmarkRootGuid.root.asGuid → ∃ d, Below t b d := by
  induction h with
  | nil => intro b hb; cases hb
  | root hg _ _ =>
    intro b hb hne
    exact absurd (List.mem_singleton.1 hb ▸ hg) hne
  | @snoc t b p _ hp hid _ hb htop ih =>
    have hsub : ∀ x ∈ t, x ∈ t ++ [b] := fun x hx => List.mem_append_left _ hx
    intro x hx hne
    rcases List.mem_append.1 hx with hx | hx
    · obtain ⟨d, hd⟩ := ih x hx hne
      exact ⟨d, hd.mono hsub⟩
    · rw [List.mem_singleton.1 hx]
      by_cases hroot : p.guid = BookmarkRootGuid.root.asGuid
      · exact ⟨1, .top (List.mem_append_right _ (.head _)) (hsub _ hp) hid hroot
          (ne_tagsGuid_of_userRoot (htop hroot)) hb⟩
      · obtain ⟨d, hd⟩ := ih p hp hroot
        exact ⟨d + 1, .step (hd.mono hsub) (List.mem_append_right _ (.head _)) hid hb⟩

/-- The CTE's hypothesis holds of every table the API keeps. -/
theorem TableOk.keyed {t : List BookmarkRow} (h : TableOk t) : BookmarksKeyed t where
  ids_nodup := h.ids_nodup
  guids_nodup := h.guids_nodup
  root_parent r hr hg := by
    rw [h.grown.root_parent hr hg]
    exact (h.ids_pos r hr).ne

theorem BookmarkType.fromU8_toU8 (k : BookmarkType) : BookmarkType.fromU8 k.toU8 = some k := by
  cases k <;> rfl

/-! ## What one write keeps -/

namespace TableOk

variable {t : List BookmarkRow}

/-- The GUID of the root is taken as soon as a row is there. -/
theorem root_guid_mem (h : TableOk t) (hne : t ≠ []) :
    BookmarkRootGuid.root.asGuid ∈ t.map BookmarkRow.guid := by
  obtain ⟨r, rest, rfl, hr, -⟩ := h.grown.head hne
  exact hr ▸ List.mem_map_of_mem _ (.head _)

/-- Changing what no invariant reads keeps it. -/
theorem map {f : BookmarkRow → BookmarkRow}
    (hf : ∀ b, (f b).id = b.id ∧ (f b).guid = b.guid ∧ (f b).parent = b.parent ∧
      (f b).type = b.type) (h : TableOk t) : TableOk (t.map f) where
  grown := h.grown.map hf
  ids_nodup := by
    have hid : ∀ b, (f b).id = b.id := fun b => (hf b).1
    simpa only [List.map_map, Function.comp_def, hid] using h.ids_nodup
  guids_nodup := by
    have hguid : ∀ b, (f b).guid = b.guid := fun b => (hf b).2.1
    simpa only [List.map_map, Function.comp_def, hguid] using h.guids_nodup
  ids_pos b hb := by
    obtain ⟨a, ha, rfl⟩ := List.mem_map.1 hb
    exact (hf a).1 ▸ h.ids_pos a ha
  types b hb := by
    obtain ⟨a, ha, rfl⟩ := List.mem_map.1 hb
    exact (hf a).2.2.2 ▸ h.types a ha

/-- A row with the next id and a new GUID, of a known kind, appended below a folder;
under the root, a user root. -/
theorem snoc (h : TableOk t) {p b : BookmarkRow} (hp : p ∈ t) (hid : p.id = b.parent)
    (hfolder : p.type = BookmarkType.folder.toU8) (hnext : b.id = nextBookmarkId t)
    (hguid : b.guid ∉ t.map BookmarkRow.guid)
    (htop : p.guid = BookmarkRootGuid.root.asGuid →
      b.guid ∈ BookmarkRootGuid.userRoots.map BookmarkRootGuid.asGuid)
    (hkind : ∃ k : BookmarkType, b.type = k.toU8) : TableOk (t ++ [b]) where
  grown := .snoc h.grown hp hid hfolder
    (fun hb => hguid (hb ▸ h.root_guid_mem (List.ne_nil_of_mem hp))) htop
  ids_nodup := by
    rw [List.map_append, List.map_singleton]
    exact List.nodup_append.2 ⟨h.ids_nodup, List.nodup_singleton _,
      List.disjoint_singleton.2 (hnext ▸ nextBookmarkId_fresh t)⟩
  guids_nodup := by
    rw [List.map_append, List.map_singleton]
    exact List.nodup_append.2 ⟨h.guids_nodup, List.nodup_singleton _,
      List.disjoint_singleton.2 hguid⟩
  ids_pos x hx := by
    rcases List.mem_append.1 hx with hx | hx
    · exact h.ids_pos x hx
    · exact List.mem_singleton.1 hx ▸ hnext ▸ nextBookmarkId_pos h.ids_pos
  types x hx := by
    rcases List.mem_append.1 hx with hx | hx
    · exact h.types x hx
    · exact List.mem_singleton.1 hx ▸ hkind

/-- A row read as a folder by `get_raw_bookmark` is a folder row. -/
theorem folder_of_read (h : TableOk t) {P : BookmarkRow} (hP : P ∈ t)
    (hread : (BookmarkType.fromU8 P.type).getD (if P.fk.isSome then .bookmark else .folder) =
      .folder) : P.type = BookmarkType.folder.toU8 := by
  obtain ⟨k, hk⟩ := h.types P hP
  rw [hk, BookmarkType.fromU8_toU8, Option.getD_some] at hread
  rw [hk, hread]

end TableOk

/-- The position dance moves positions only. -/
theorem positionDance_eq_map (parent : RawBookmark) (position : BookmarkPosition)
    (t : List BookmarkRow) :
    ∃ f : BookmarkRow → BookmarkRow, (∀ b, (f b).id = b.id ∧ (f b).guid = b.guid ∧
      (f b).parent = b.parent ∧ (f b).type = b.type) ∧ (positionDance parent position t).2 = t.map f := by
  cases position with
  | specific index =>
    refine ⟨_, fun b => ?_, rfl⟩
    split <;> exact ⟨rfl, rfl, rfl, rfl⟩
  | append => exact ⟨id, fun _ => ⟨rfl, rfl, rfl, rfl⟩, (List.map_id t).symm⟩

theorem BookmarkRootGuid.asGuid_root_or_user (r : BookmarkRootGuid) :
    r.asGuid = BookmarkRootGuid.root.asGuid ∨
      r.asGuid ∈ BookmarkRootGuid.userRoots.map BookmarkRootGuid.asGuid := by
  cases r <;> simp [BookmarkRootGuid.userRoots]

/-- The one row with parent 0 in a grown table is the root, its first row: the parent
`create_root` finds. -/
theorem Grown.find_top {r : BookmarkRow} {rest : List BookmarkRow} (h : Grown (r :: rest)) :
    (r :: rest).find? (·.parent == 0) = some r := by
  obtain ⟨r', rest', he, -, hp, -⟩ := h.head (List.cons_ne_nil _ _)
  obtain ⟨rfl, rfl⟩ := List.cons.inj he
  exact List.find?_cons_of_pos _ (by simpa using hp)

/-- The empty table. -/
theorem TableOk.nil : TableOk [] :=
  ⟨.nil, List.nodup_nil, List.nodup_nil, fun _ => False.elim ∘ List.not_mem_nil _,
    fun _ => False.elim ∘ List.not_mem_nil _⟩

/-- The table with the root alone. -/
theorem TableOk.single {r : BookmarkRow} (hg : r.guid = BookmarkRootGuid.root.asGuid)
    (hp : r.parent = 0) (ht : r.type = BookmarkType.folder.toU8) (hid : 0 < r.id) :
    TableOk [r] where
  grown := .root hg hp ht
  ids_nodup := List.nodup_singleton _
  guids_nodup := List.nodup_singleton _
  ids_pos _ hx := List.mem_singleton.1 hx ▸ hid
  types _ hx := List.mem_singleton.1 hx ▸ ⟨_, ht⟩

/-- Everything `create_root` can do: fail and write nothing, or add the row `moz_bookmarks`
makes of a folder under the first row with parent 0. -/
theorem createRoot_cases {env : StorageEnv} {title guid : String} {position : Nat} {now : Int}
    {c c' : Conn} {r : Result Unit} (hc : createRoot env title guid position now c = (c', r)) :
    (c' = c ∧ ∃ e, r = .error e) ∨
    ∃ row, env.newBookmarkRow ⟨none, BookmarkType.folder.toU8,
        ((c.db.bookmarks.find? (·.parent == 0)).map BookmarkRow.id).getD 0, position, some title,
        some now, some now, some guid, some .new, some 1⟩ c.db.bookmarks = .ok row ∧
      c'.db.bookmarks = c.db.bookmarks ++ [row] ∧ r = .ok () := by
  unfold createRoot at hc
  dsimp only at hc
  split at hc
  · rename_i row hrow
    cases hc
    exact .inr ⟨row, hrow, rfl, rfl⟩
  · cases hc
    exact .inl ⟨rfl, _, rfl⟩

/-- What each insert keeps, whether it succeeds or fails, the loop of `insert_tree` keeps. -/
theorem insertAll_preserves {env : StorageEnv} {P : List BookmarkRow → Prop}
    {infos : List InsertableBookmark}
    (hstep : ∀ bm ∈ infos, ∀ c c' r, insertBookmark env bm c = (c', r) →
      P c.db.bookmarks → P c'.db.bookmarks) {c : Conn} (h : P c.db.bookmarks) :
    P (insertAll env infos c).1.db.bookmarks := by
  induction infos generalizing c with
  | nil => exact h
  | cons bm rest ih =>
    have hbm := hstep bm (.head _) c _ _ Prod.mk.eta.symm h
    rcases hc : insertBookmark env bm c with ⟨c₁, _ | g⟩
    · simp only [insertAll, hc]
      rwa [hc] at hbm
    · simp only [insertAll, hc]
      rw [hc] at hbm
      exact ih (fun b hb => hstep b (.tail _ hb)) hbm

section Steps

variable {env : StorageEnv} (hs : env.Schema)
include hs

/-- `create_root` of the root or a user root, the root when the table is empty, keeps the
invariant: the root goes first, a user root under it, and the root again is refused. -/
theorem createRoot_tableOk {title guid : String} {position : Nat} {now : Int} {c c' : Conn}
    {r : Result Unit} (hc : createRoot env title guid position now c = (c', r))
    (h : TableOk c.db.bookmarks)
    (hguid : guid = BookmarkRootGuid.root.asGuid ∨
      guid ∈ BookmarkRootGuid.userRoots.map BookmarkRootGuid.asGuid)
    (hfirst : c.db.bookmarks = [] → guid = BookmarkRootGuid.root.asGuid) :
    TableOk c'.db.bookmarks := by
  rcases createRoot_cases hc with ⟨rfl, -⟩ | ⟨row, hrow, hrows, -⟩
  · exact h
  obtain ⟨hrp, -, hrt⟩ := hs.binds hrow
  have hrg : row.guid = guid := hs.guid_bound hrow rfl
  rw [hrows]
  cases ht : c.db.bookmarks with
  | nil =>
    rw [ht] at hrp hrow
    exact TableOk.single (hrg.trans (hfirst ht)) hrp hrt
      (hs.id hrow ▸ nextBookmarkId_pos fun _ => False.elim ∘ List.not_mem_nil _)
  | cons top rest =>
    rw [ht] at h hrp hrow
    obtain ⟨_, _, he, -, -, hfolder⟩ := h.grown.head (List.cons_ne_nil _ _)
    rw [h.grown.find_top] at hrp
    refine h.snoc (.head _) hrp.symm ((List.cons.inj he).1 ▸ hfolder) (hs.id hrow)
      (hs.guid_fresh hrow) (fun _ => hrg ▸ hguid.resolve_left fun hg => ?_) ⟨.folder, hrt⟩
    exact hs.guid_fresh hrow (hrg.trans hg ▸ h.root_guid_mem (List.cons_ne_nil _ _))

/-- `create_root` for each root in turn keeps the invariant when the root comes first
on an empty table. -/
theorem createRoots_tableOk {now : Int} {roots : List (String × BookmarkRootGuid × Nat)}
    {c : Conn} (h : TableOk c.db.bookmarks)
    (hfirst : c.db.bookmarks = [] → ∀ x ∈ roots.head?, x.2.1 = .root) :
    TableOk (createRoots env now roots c).1.db.bookmarks := by
  induction roots generalizing c with
  | nil => exact h
  | cons x rest ih =>
    obtain ⟨title, guid, position⟩ := x
    have hguid : c.db.bookmarks = [] → guid.asGuid = BookmarkRootGuid.root.asGuid :=
      fun he => congrArg BookmarkRootGuid.asGuid (hfirst he _ rfl)
    rcases hc : createRoot env title guid.asGuid position now c with ⟨c₁, _ | u⟩
    · simp only [createRoots, hc]
      exact createRoot_tableOk hs hc h guid.asGuid_root_or_user hguid
    · simp only [createRoots, hc]
      refine ih (createRoot_tableOk hs hc h guid.asGuid_root_or_user hguid) fun he => ?_
      rcases createRoot_cases hc with ⟨-, _, hr⟩ | ⟨row, -, hrows, -⟩
      · cases hr
      · exact absurd (hrows ▸ he) (List.append_ne_nil_of_right_ne_nil _ (List.cons_ne_nil _ _))

theorem createBookmarkRoots_tableOk {c : Conn} (h : TableOk c.db.bookmarks) :
    TableOk (createBookmarkRoots env c).1.db.bookmarks :=
  createRoots_tableOk hs h fun _ _ hx => by cases hx; rfl

/-- `insert_bookmark` keeps the invariant, whether it succeeds or fails. -/
theorem insertBookmark_tableOk {bm : InsertableBookmark} {c c' : Conn} {r : Result String}
    (hc : insertBookmark env bm c = (c', r)) (h : TableOk c.db.bookmarks) :
    TableOk c'.db.bookmarks := by
  rcases insertBookmark_cases hc with ⟨hrows, -⟩ | ⟨parent, hnr, hget, hfolder, hrest⟩
  · exact hrows ▸ h
  obtain ⟨f, hf, hdance⟩ := positionDance_eq_map parent bm.position c.db.bookmarks
  have hd : TableOk (positionDance parent bm.position c.db.bookmarks).2 := hdance ▸ h.map hf
  rcases hrest with ⟨hrows, -⟩ | ⟨v, row, g, hrow, hvp, -, hvt, hrows, -⟩
  · exact hrows ▸ hd
  obtain ⟨P, hP, hPg, hid, hread⟩ := getRawBookmark_type hget
  obtain ⟨hrp, -, hrt⟩ := hs.binds hrow
  rw [hrows]
  refine hd.snoc (hdance ▸ List.mem_map_of_mem f hP) ?_ ?_ (hs.id hrow) (hs.guid_fresh hrow)
    (fun hroot => ?_) ⟨_, hrt.trans hvt⟩
  · rw [(hf P).1, hrp, hvp, hid]
  · rw [(hf P).2.2.2]
    exact h.folder_of_read hP (hread.symm.trans hfolder)
  · rw [(hf P).2.1, hPg] at hroot
    exact absurd (by rw [hroot, BookmarkRootGuid.fromGuid_asGuid]) hnr

theorem insertTree_tableOk {parent : String} {tree : BookmarkTreeFolder} {c : Conn}
    (h : TableOk c.db.bookmarks) : TableOk (insertTree env parent tree c).1.db.bookmarks :=
  insertAll_preserves (fun _ _ _ _ _ hc => insertBookmark_tableOk hs hc) h

end Steps

/-- In a grown table every row but the root has a folder row for parent, and the root is
the parent of user roots only. -/
theorem Grown.parent_folder {t : List BookmarkRow} (h : Grown t) :
    ∀ b ∈ t, b.guid ≠ BookmarkRootGuid.root.asGuid →
      ∃ p ∈ t, p.id = b.parent ∧ p.type = BookmarkType.folder.toU8 ∧
        (p.guid = BookmarkRootGuid.root.asGuid →
          b.guid ∈ BookmarkRootGuid.userRoots.map BookmarkRootGuid.asGuid) := by
  induction h with
  | nil => intro b hb; cases hb
  | root hg _ _ =>
    intro b hb hne
    exact absurd (List.mem_singleton.1 hb ▸ hg) hne
  | @snoc t b p _ hp hid hfolder _ htop ih =>
    intro x hx hne
    rcases List.mem_append.1 hx with hx | hx
    · obtain ⟨q, hq, hq'⟩ := ih x hx hne
      exact ⟨q, List.mem_append_left _ hq, hq'⟩
    · rw [List.mem_singleton.1 hx]
      exact ⟨p, List.mem_append_left _ hp, hid, hfolder, htop⟩

/-! ## Runs -/

/-- One call of the local bookmark API that writes `moz_bookmarks`: `create_bookmark_roots`,
`insert_bookmark` at a position `allowed` admits, or `insert_tree`, with any arguments. A
call that fails keeps what it wrote. -/
inductive Edit (env : StorageEnv) (allowed : BookmarkPosition → Prop) : Conn → Conn → Prop
  | roots (c : Conn) : Edit env allowed c (createBookmarkRoots env c).1
  | bookmark (bm : InsertableBookmark) (c : Conn) : allowed bm.position →
      Edit env allowed c (insertBookmark env bm c).1
  | tree (parent : String) (folder : BookmarkTreeFolder) (c : Conn) :
      Edit env allowed c (insertTree env parent folder c).1

/-- A run to try the model on, from an empty database: the roots, a bookmark appended to
the menu, and `mixedSample` inserted into the toolbar, which fails at its nested folder
after its first bookmark. -/
def Conn.sampleRun : Conn :=
  let c := (createBookmarkRoots StorageEnv.sample ⟨Db.empty, 0⟩).1
  let c := (insertBookmark StorageEnv.sample (.bookmarkType ⟨BookmarkRootGuid.menu.asGuid, .append,
    none, none, some "bookmarkCCCC", ⟨"http://a.example/", "/"⟩, none⟩) c).1
  (insertTree StorageEnv.sample BookmarkRootGuid.toolbar.asGuid BookmarkTreeFolder.mixedSample c).1

theorem Conn.sampleRun_edits :
    Relation.ReflTransGen (Edit StorageEnv.sample (· = .append)) ⟨Db.empty, 0⟩ Conn.sampleRun :=
  .tail (.tail (.single (.roots _)) (.bookmark _ _ (by rfl))) (.tree _ _ _)

section Runs

variable {env : StorageEnv} (hs : env.Schema) {allowed : BookmarkPosition → Prop}
include hs

theorem Edit.tableOk {c c' : Conn} (he : Edit env allowed c c') (h : TableOk c.db.bookmarks) :
    TableOk c'.db.bookmarks := by
  cases he with
  | roots => exact createBookmarkRoots_tableOk hs h
  | bookmark bm _ => exact insertBookmark_tableOk hs Prod.mk.eta.symm h
  | tree parent folder => exact insertTree_tableOk hs h

/-- Every table a run reaches from an empty `moz_bookmarks` keeps the invariant. -/
theorem edits_tableOk {c₀ c : Conn} (h₀ : c₀.db.bookmarks = [])
    (hrun : Relation.ReflTransGen (Edit env allowed) c₀ c) : TableOk c.db.bookmarks := by
  induction hrun with
  | refl => exact h₀ ▸ TableOk.nil
  | tail _ he ih => exact he.tableOk hs ih

/-- Every table the local bookmark API builds from an empty `moz_bookmarks`, whatever it
is asked and whichever calls fail, is a tree under the root: ids and GUIDs are unique and
the root is not its own parent; every other row has a folder for parent, the root only for
the four user roots; and its parent chain reaches the root. -/
theorem edits_tree {c₀ c : Conn} (h₀ : c₀.db.bookmarks = [])
    (hrun : Relation.ReflTransGen (Edit env allowed) c₀ c) :
    BookmarksKeyed c.db.bookmarks ∧
      ∀ b ∈ c.db.bookmarks, b.guid ≠ BookmarkRootGuid.root.asGuid →
        (∃ p ∈ c.db.bookmarks, p.id = b.parent ∧ p.type = BookmarkType.folder.toU8 ∧
          (p.guid = BookmarkRootGuid.root.asGuid →
            b.guid ∈ BookmarkRootGuid.userRoots.map BookmarkRootGuid.asGuid)) ∧
        ∃ d, Below c.db.bookmarks b d := by
  have h := edits_tableOk hs h₀ hrun
  exact ⟨h.keyed, fun b hb hne => ⟨h.grown.parent_folder b hb hne, h.grown.reaches_root b hb hne⟩⟩

omit hs in
theorem edits_tree_sample :
    Conn.sampleRun.db.bookmarks.length = 7 ∧ BookmarksKeyed Conn.sampleRun.db.bookmarks :=
  ⟨by decide, (edits_tree StorageEnv.sample_schema rfl Conn.sampleRun_edits).1⟩

/-- On every table the local bookmark API builds from an empty `moz_bookmarks`, the
`localItems` CTE of the sync ends, and yields every row but the root, each once. -/
theorem edits_localItems {c₀ c : Conn} (h₀ : c₀.db.bookmarks = [])
    (hrun : Relation.ReflTransGen (Edit env allowed) c₀ c) :
    localItemsRun c.db.bookmarks (c.db.bookmarks.length + 1) (localItemsBase c.db.bookmarks) =
        some (localItems c.db.bookmarks) ∧
      ((localItems c.db.bookmarks).map LocalItem.id).Perm
        ((c.db.bookmarks.filter (·.guid != BookmarkRootGuid.root.asGuid)).map BookmarkRow.id) := by
  have h := edits_tableOk hs h₀ hrun
  have hk := h.keyed
  refine ⟨localItemsRun_terminates hk, (List.perm_ext_iff_of_nodup (localItems_ids_nodup hk)
    (h.ids_nodup.sublist ((List.filter_sublist _).map _))).2 fun x => ?_⟩
  simp only [List.mem_map, List.mem_filter, bne_iff_ne, ne_eq]
  constructor
  · rintro ⟨s, hs, rfl⟩
    obtain ⟨b, hb, p, -, -, hbelow, syncable, hrow⟩ := mem_localItems hk hs
    exact ⟨b, ⟨hb, hbelow.not_root⟩, by rw [hrow]; rfl⟩
  · rintro ⟨b, ⟨hb, hne⟩, rfl⟩
    obtain ⟨d, hbelow⟩ := h.grown.reaches_root b hb hne
    obtain ⟨p, -, -, syncable, hs⟩ := hbelow.mem_localItems hk
    exact ⟨_, hs, rfl⟩

omit hs in
theorem edits_localItems_sample :
    ((localItems Conn.sampleRun.db.bookmarks).map LocalItem.id).Perm
      ((Conn.sampleRun.db.bookmarks.filter (·.guid != BookmarkRootGuid.root.asGuid)).map
        BookmarkRow.id) :=
  (edits_localItems StorageEnv.sample_schema rfl Conn.sampleRun_edits).2

end Runs

/-! ## Positions -/

/-- The children of `parent` hold the positions `0, …, n - 1`, `n` their number. -/
def DenseAt (bookmarks : List BookmarkRow) (parent : Int) : Prop :=
  ((bookmarks.filter (·.parent == parent)).map BookmarkRow.position).Perm
    ((List.range (bookmarks.filter (·.parent == parent)).length).map Int.ofNat)

/-- Every folder's children hold the positions `0, …, n - 1`, `n` their number. -/
def PositionsDense (bookmarks : List BookmarkRow) : Prop :=
  ∀ b ∈ bookmarks, DenseAt bookmarks b.parent

instance (bookmarks : List BookmarkRow) (parent : Int) : Decidable (DenseAt bookmarks parent) :=
  inferInstanceAs (Decidable (List.Perm _ _))

instance (bookmarks : List BookmarkRow) : Decidable (PositionsDense bookmarks) :=
  inferInstanceAs (Decidable (∀ b ∈ bookmarks, DenseAt bookmarks b.parent))

section Dense

variable {t : List BookmarkRow}

theorem denseAt_of_forall_ne {p : Int} (h : ∀ b ∈ t, b.parent ≠ p) : DenseAt t p := by
  have hnil : t.filter (·.parent == p) = [] := List.filter_eq_nil_iff.2 fun b hb => by simpa using h b hb
  simp only [DenseAt, hnil, List.map_nil, List.length_nil, List.range_zero, List.Perm.refl]

theorem PositionsDense.denseAt (h : PositionsDense t) (p : Int) : DenseAt t p := by
  by_cases hp : ∃ b ∈ t, b.parent = p
  · obtain ⟨b, hb, rfl⟩ := hp
    exact h b hb
  · exact denseAt_of_forall_ne fun b hb he => hp ⟨b, hb, he⟩

/-- A row appended at the number of children its parent has. -/
theorem DenseAt.snoc {p : Int} {b : BookmarkRow} (h : DenseAt t p)
    (hpos : b.position = (t.filter (·.parent == b.parent)).length) : DenseAt (t ++ [b]) p := by
  unfold DenseAt at h ⊢
  by_cases hp : b.parent = p
  · subst hp
    simp only [List.filter_append, List.filter_singleton, beq_self_eq_true, cond_true,
      List.length_append, List.length_singleton, List.range_succ, List.map_append, List.map_singleton]
    exact h.append (hpos ▸ .refl _)
  · have hnil : [b].filter (·.parent == p) = [] := by simp [hp]
    rwa [List.filter_append, hnil, List.append_nil]

theorem PositionsDense.snoc {b : BookmarkRow} (h : PositionsDense t)
    (hpos : b.position = (t.filter (·.parent == b.parent)).length) : PositionsDense (t ++ [b]) :=
  fun x _ => (h.denseAt x.parent).snoc hpos

end Dense

section DenseSteps

variable {env : StorageEnv} (hs : env.Schema)
include hs

/-- `insert_bookmark` at `Append` keeps the positions dense: the new row goes at the
number of children `get_raw_bookmark` counts. -/
theorem insertBookmark_dense {bm : InsertableBookmark} {c c' : Conn} {r : Result String}
    (hc : insertBookmark env bm c = (c', r)) (happ : bm.position = .append)
    (h : PositionsDense c.db.bookmarks) : PositionsDense c'.db.bookmarks := by
  rcases insertBookmark_cases hc with ⟨hrows, -⟩ |
    ⟨parent, -, hget, -, ⟨hrows, -⟩ | ⟨v, row, g, hrow, hvp, hvpos, -, hrows, -⟩⟩
  · exact hrows ▸ h
  · rw [hrows, happ]
    exact h
  · obtain ⟨P, -, -, hid, -, hcount⟩ := getRawBookmark_some hget
    obtain ⟨hrp, hrpos, -⟩ := hs.binds hrow
    simp only [happ, positionDance] at hrows hvpos
    rw [hrows]
    exact h.snoc (by rw [hrpos, hvpos, hrp, hvp, hid, hcount])

/-- `insert_tree` appends every insertable it makes. -/
theorem insertTree_dense {parent : String} {tree : BookmarkTreeFolder} {c : Conn}
    (h : PositionsDense c.db.bookmarks) : PositionsDense (insertTree env parent tree c).1.db.bookmarks :=
  insertAll_preserves (fun bm hbm _ _ _ hc => insertBookmark_dense hs hc
    (addSubtreeInfos_append env parent tree.children c.draws bm hbm)) h

/-- `create_root` at the number of children of the parent it finds keeps the positions
dense. -/
theorem createRoot_dense {title guid : String} {position : Nat} {now : Int} {c c' : Conn}
    {r : Result Unit} (hc : createRoot env title guid position now c = (c', r))
    (h : PositionsDense c.db.bookmarks)
    (hpos : (position : Int) = (c.db.bookmarks.filter
      (·.parent == ((c.db.bookmarks.find? (·.parent == 0)).map BookmarkRow.id).getD 0)).length) :
    PositionsDense c'.db.bookmarks := by
  rcases createRoot_cases hc with ⟨rfl, -⟩ | ⟨row, hrow, hrows, -⟩
  · exact h
  obtain ⟨hrp, hrpos, -⟩ := hs.binds hrow
  rw [hrows]
  exact h.snoc (by rw [hrpos, hrp]; exact hpos)

/-- The user roots go under the root, each at the next position. -/
theorem createRoots_dense {now : Int} {top : BookmarkRow} {rest : List BookmarkRow}
    {roots : List (String × BookmarkRootGuid × Nat)} {c : Conn} {k : Nat}
    (hok : TableOk c.db.bookmarks) (h : PositionsDense c.db.bookmarks)
    (htop : c.db.bookmarks = top :: rest)
    (hk : ((top :: rest).filter (·.parent == top.id)).length = k)
    (hpos : roots.map (·.2.2) = List.range' k roots.length) :
    PositionsDense (createRoots env now roots c).1.db.bookmarks := by
  induction roots generalizing c k rest with
  | nil => exact h
  | cons x roots ih =>
    obtain ⟨title, guid, position⟩ := x
    simp only [List.map_cons, List.length_cons, List.range'_succ, List.cons.injEq] at hpos
    have hparent : ((c.db.bookmarks.find? (·.parent == 0)).map BookmarkRow.id).getD 0 = top.id := by
      have hgrown : Grown (top :: rest) := htop ▸ hok.grown
      rw [htop, hgrown.find_top]
      rfl
    rcases hc : createRoot env title guid.asGuid position now c with ⟨c₁, _ | u⟩
    · simp only [createRoots, hc]
      rcases createRoot_cases hc with ⟨rfl, -⟩ | ⟨row, -, -, hr⟩
      · exact h
      · cases hr
    · simp only [createRoots, hc]
      have hd := createRoot_dense hs hc h (by rw [hparent, htop, hk, hpos.1])
      have hok₁ := createRoot_tableOk hs hc hok guid.asGuid_root_or_user
        fun he => absurd (htop ▸ he) (List.cons_ne_nil _ _)
      rcases createRoot_cases hc with ⟨-, _, hr⟩ | ⟨row, hrow, hrows, -⟩
      · cases hr
      obtain ⟨hrp, -⟩ := hs.binds hrow
      rw [hparent] at hrp
      refine ih hok₁ hd (by rw [hrows, htop, List.cons_append] : c₁.db.bookmarks = top :: (rest ++ [row]))
        ?_ hpos.2
      rw [← List.cons_append, List.filter_append, List.length_append, hk]
      simp [hrp]

/-- `create_bookmark_roots` keeps the positions dense: on an empty table it puts the root
at 0 and the user roots under it at `0, 1, 2, 3`; on any other it writes nothing. -/
theorem createBookmarkRoots_dense {c : Conn} (hok : TableOk c.db.bookmarks)
    (h : PositionsDense c.db.bookmarks) :
    PositionsDense (createBookmarkRoots env c).1.db.bookmarks := by
  rw [createBookmarkRoots, bookmarkRoots, createRoots]
  rcases hc : createRoot env "root" BookmarkRootGuid.root.asGuid 0 env.now c with ⟨c₁, _ | u⟩
  · rcases createRoot_cases hc with ⟨rfl, -⟩ | ⟨row, -, -, hr⟩
    · exact h
    · cases hr
  rcases createRoot_cases hc with ⟨-, _, hr⟩ | ⟨row, hrow, hrows, -⟩
  · cases hr
  have hrg : row.guid = BookmarkRootGuid.root.asGuid := hs.guid_bound hrow rfl
  cases ht : c.db.bookmarks with
  | cons top rest =>
    rw [ht] at hrow hok
    exact absurd (hrg ▸ hok.root_guid_mem (List.cons_ne_nil _ _)) (hs.guid_fresh hrow)
  | nil =>
    rw [ht] at hrow hrows h
    obtain ⟨hrp, -⟩ := hs.binds hrow
    have hid : row.id = 1 := hs.id hrow
    have hok₁ := createRoot_tableOk hs hc (ht ▸ hok) (.inl rfl) fun _ => rfl
    exact createRoots_dense hs hok₁ (createRoot_dense hs hc (ht ▸ h) (by rw [ht]; rfl))
      (hrows : c₁.db.bookmarks = [row]) (by simp [hrp, hid]) rfl

end DenseSteps

section DenseRuns

variable {env : StorageEnv} (hs : env.Schema)
include hs

theorem Edit.dense {c c' : Conn} (he : Edit env (· = .append) c c') (hok : TableOk c.db.bookmarks)
    (h : PositionsDense c.db.bookmarks) : PositionsDense c'.db.bookmarks := by
  cases he with
  | roots => exact createBookmarkRoots_dense hs hok h
  | bookmark bm _ happ => exact insertBookmark_dense hs Prod.mk.eta.symm happ h
  | tree parent folder => exact insertTree_dense hs h

/-- Every table the local bookmark API builds from an empty `moz_bookmarks`, when every
position asked of `insert_bookmark` is `Append`, as `insert_tree` asks: each folder's
children hold the positions `0, …, n - 1`, `n` their number. -/
theorem appendEdits_positionsDense {c₀ c : Conn} (h₀ : c₀.db.bookmarks = [])
    (hrun : Relation.ReflTransGen (Edit env (· = .append)) c₀ c) :
    PositionsDense c.db.bookmarks := by
  induction hrun with
  | refl => exact h₀ ▸ fun _ => False.elim ∘ List.not_mem_nil _
  | tail hrun he ih => exact he.dense hs (edits_tableOk hs h₀ hrun) ih

omit hs in
theorem appendEdits_positionsDense_sample : PositionsDense Conn.sampleRun.db.bookmarks :=
  appendEdits_positionsDense StorageEnv.sample_schema rfl Conn.sampleRun_edits

/-- `Specific(0)` into Unfiled, which has a child at 0: two children at 0. -/
example : ¬PositionsDense (insertBookmark StorageEnv.sample (.bookmarkType ⟨"unfiled_____",
    .specific 0, none, none, some "bookmarkBBBB", ⟨"http://a.example/", "/"⟩, none⟩)
    Conn.sample).1.db.bookmarks := by
  decide

end DenseRuns

end BookmarkSync
