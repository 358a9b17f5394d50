import BookmarkSync.Trees
import BookmarkSync.Outgoing

/-!
# BookmarkSync.LocalItems — what the recursive `localItems` CTE yields

`LOCAL_ITEMS_SQL_FRAGMENT` starts from the children of the root (but the tags root) and
adds, generation after generation, the children of the rows found (but the root). This
module says which rows that is, on every `moz_bookmarks` table with unique ids and GUIDs
and a root that is not its own parent (`BookmarksKeyed`), whatever its parent pointers:

* `Below b d` is the abstract answer: `b`'s parent chain reaches the root in `d` steps,
  without passing through the root before or through a top-level tags root;
* generation `k` of the CTE (`localItemsGen`) holds exactly the rows `Below` at depth
  `k + 1` (`mem_localItemsGen`, `Below.mem_localItemsGen`), each once;
* a row's depth is unique (`Below.depth_eq`), so its ancestors are distinct rows and the
  depth is at most the number of rows (`Below.depth_le`): SQLite's evaluation reaches an
  empty generation, and `localItems`, which stops after that many generations, is what it
  returns;
* `localItems_exactly_once` assembles these: termination, the rows and their levels,
  each row once, the order `fetch_local_tree` reads them in, and the rows
  `stage_local_items_to_upload` and `has_changes` draw from the CTE;
* `fetchLocalTree_keyed` says what `dogear` is handed: an item per row below the root,
  each GUID once, parents before children, unless a change counter is not a `u32`.
-/

namespace BookmarkSync

section Below

variable (bookmarks : List BookmarkRow)

/-- `b` hangs `d` levels below the root: its parent chain reaches the root in `d` steps
without passing through the root before, and the row just below the root is not the tags
root. -/
inductive Below : BookmarkRow → Nat → Prop
  | top {b p : BookmarkRow} : b ∈ bookmarks → p ∈ bookmarks → p.id = b.parent →
      p.guid = BookmarkRootGuid.root.asGuid → b.guid ≠ tagsGuid →
      b.guid ≠ BookmarkRootGuid.root.asGuid → Below b 1
  | step {b s : BookmarkRow} {d : Nat} : Below s d → b ∈ bookmarks → s.id = b.parent →
      b.guid ≠ BookmarkRootGuid.root.asGuid → Below b (d + 1)

/-- What the CTE needs of `moz_bookmarks`: unique ids and GUIDs, and a root that is not
its own parent. Parent pointers are otherwise arbitrary: cycles and orphans included. -/
structure BookmarksKeyed : Prop where
  ids_nodup : (bookmarks.map BookmarkRow.id).Nodup
  guids_nodup : (bookmarks.map BookmarkRow.guid).Nodup
  root_parent : ∀ r ∈ bookmarks, r.guid = BookmarkRootGuid.root.asGuid → r.parent ≠ r.id

/-- A table to run the CTE on: the root, the menu under it, a bookmark in the menu, and two
rows that are each other's parent. -/
def BookmarkRow.sampleTable : List BookmarkRow :=
  [⟨1, "root________", 0, 0, 2, none, none, 0, 0, 0, .new⟩,
    ⟨2, "menu________", 1, 0, 2, none, none, 0, 0, 1, .new⟩,
    ⟨3, "bookmarkAAAA", 2, 0, 1, none, none, 0, 0, 1, .new⟩,
    ⟨4, "orphanAAAAAA", 5, 0, 2, none, none, 0, 0, 1, .new⟩,
    ⟨5, "orphanBBBBBB", 4, 0, 2, none, none, 0, 0, 1, .new⟩]

/-- The generations of the CTE: the first member's rows, then the recursive member over
the generation before. -/
def localItemsGen : Nat → List LocalItem
  | 0 => localItemsBase bookmarks
  | k + 1 => (localItemsGen k).flatMap (localItemsChildren bookmarks)

end Below

/-! ## Depth -/

section Depth

variable {bookmarks : List BookmarkRow}

theorem Below.mem {b : BookmarkRow} {d : Nat} (h : Below bookmarks b d) : b ∈ bookmarks := by
  cases h with
  | top hb => exact hb
  | step _ hb => exact hb

theorem Below.not_root {b : BookmarkRow} {d : Nat} (h : Below bookmarks b d) :
    b.guid ≠ BookmarkRootGuid.root.asGuid := by
  cases h with
  | top _ _ _ _ _ hr => exact hr
  | step _ _ _ hr => exact hr

theorem Below.pos {b : BookmarkRow} {d : Nat} (h : Below bookmarks b d) : 0 < d := by
  cases h <;> omega

theorem BookmarksKeyed.eq_of_id (hk : BookmarksKeyed bookmarks) {a b : BookmarkRow}
    (ha : a ∈ bookmarks) (hb : b ∈ bookmarks) (h : a.id = b.id) : a = b :=
  List.inj_on_of_nodup_map hk.ids_nodup ha hb h

variable (hk : BookmarksKeyed bookmarks)
include hk

/-- Rows with the same parent hang at the same depth. -/
theorem Below.depth_eq {b₁ b₂ : BookmarkRow} {d₁ d₂ : Nat} (h₁ : Below bookmarks b₁ d₁)
    (h₂ : Below bookmarks b₂ d₂) (hp : b₁.parent = b₂.parent) : d₁ = d₂ := by
  induction h₁ generalizing b₂ d₂ with
  | top _ hp₁ hid₁ hroot₁ =>
    cases h₂ with
    | top => rfl
    | step hs₂ _ hid₂ =>
      have := hk.eq_of_id hs₂.mem hp₁ (hid₂.trans (hp.symm.trans hid₁.symm))
      exact absurd (this ▸ hroot₁) hs₂.not_root
  | step hs₁ _ hid₁ _ ih =>
    cases h₂ with
    | top _ hp₂ hid₂ hroot₂ =>
      have := hk.eq_of_id hs₁.mem hp₂ (hid₁.trans (hp.trans hid₂.symm))
      exact absurd (this ▸ hroot₂) hs₁.not_root
    | step hs₂ _ hid₂ =>
      have := hk.eq_of_id hs₁.mem hs₂.mem (hid₁.trans (hp.trans hid₂.symm))
      subst this
      rw [ih hs₂ rfl]

theorem Below.depth_unique {b : BookmarkRow} {d₁ d₂ : Nat} (h₁ : Below bookmarks b d₁)
    (h₂ : Below bookmarks b d₂) : d₁ = d₂ :=
  h₁.depth_eq hk h₂ rfl

/-- A row hangs one level below its parent. -/
theorem Below.parent_depth {b s : BookmarkRow} {d e : Nat} (h : Below bookmarks b d)
    (hs : Below bookmarks s e) (hid : s.id = b.parent) : d = e + 1 := by
  cases h with
  | top _ hp hid' hroot =>
    have := hk.eq_of_id hs.mem hp (hid.trans hid'.symm)
    exact absurd (this ▸ hroot) hs.not_root
  | step hs' _ hid' =>
    have := hk.eq_of_id hs'.mem hs.mem (hid'.trans hid.symm)
    subst this
    rw [hs'.depth_unique hk hs]

/-- The rows a row passes on its way to the root, itself first: as many as its depth,
all different. -/
theorem Below.ancestors {b : BookmarkRow} {d : Nat} (h : Below bookmarks b d) :
    ∃ chain : List BookmarkRow, chain.length = d ∧ chain.Nodup ∧
      ∀ a ∈ chain, a ∈ bookmarks ∧ ∃ e ≤ d, Below bookmarks a e := by
  induction h with
  | @top b p hb hp hid hroot htags hnr =>
    refine ⟨[b], rfl, List.nodup_singleton b, fun a ha => ?_⟩
    rw [List.mem_singleton.1 ha]
    exact ⟨hb, 1, le_rfl, .top hb hp hid hroot htags hnr⟩
  | @step b s d hs hb hid hnr ih =>
    obtain ⟨chain, hlen, hnd, hall⟩ := ih
    have hbelow : Below bookmarks b (d + 1) := .step hs hb hid hnr
    refine ⟨b :: chain, by simp [hlen], List.nodup_cons.2 ⟨fun hmem => ?_, hnd⟩, ?_⟩
    · obtain ⟨-, e, he, hbe⟩ := hall b hmem
      have := hbe.depth_unique hk hbelow
      omega
    · rintro a (_ | ⟨_, ha⟩)
      · exact ⟨hb, d + 1, le_rfl, hbelow⟩
      · obtain ⟨ha, e, he, hae⟩ := hall a ha
        exact ⟨ha, e, by omega, hae⟩

/-- No row hangs deeper than the table has rows. -/
theorem Below.depth_le {b : BookmarkRow} {d : Nat} (h : Below bookmarks b d) :
    d ≤ bookmarks.length := by
  obtain ⟨chain, rfl, hnd, hall⟩ := h.ancestors hk
  exact (List.subperm_of_subset hnd fun a ha => (hall a ha).1).length_le

end Depth

/-! ## Generations -/

section Generations

variable {bookmarks : List BookmarkRow}

theorem mem_localItemsChildren {s t : LocalItem} :
    t ∈ localItemsChildren bookmarks s ↔ ∃ b ∈ bookmarks, s.id = b.parent ∧
      b.guid ≠ BookmarkRootGuid.root.asGuid ∧
      t = LocalItem.ofRows b s.id s.guid s.title s.isSyncable (s.level + 1) := by
  simp only [localItemsChildren, List.mem_map, List.mem_filter, decide_eq_true_eq, and_assoc,
    @eq_comm LocalItem]

/-- Every row at depth `d` is in generation `d - 1`, with its parent's columns. -/
theorem Below.mem_localItemsGen {b : BookmarkRow} {d : Nat} (h : Below bookmarks b d) :
    ∃ p ∈ bookmarks, p.id = b.parent ∧ ∃ syncable,
      LocalItem.ofRows b p.id p.guid p.title syncable (d - 1) ∈ localItemsGen bookmarks (d - 1) := by
  induction h with
  | @top b p hb hp hid hroot htags _ =>
    refine ⟨p, hp, hid, _, List.mem_flatMap.2 ⟨b, hb, List.mem_map.2 ⟨p, ?_, rfl⟩⟩⟩
    simp [hp, hid, htags, hroot]
  | @step b s d hs hb hid hnr ih =>
    obtain ⟨p, hp, hpid, syncable, ht⟩ := ih
    obtain ⟨d, rfl⟩ : ∃ d', d = d' + 1 := ⟨d - 1, by have := hs.pos; omega⟩
    exact ⟨s, hs.mem, hid, _, List.mem_flatMap.2 ⟨_, ht, mem_localItemsChildren.2
      ⟨b, hb, hid, hnr, rfl⟩⟩⟩

variable (hk : BookmarksKeyed bookmarks)
include hk

/-- The first member never yields the root: a child of the root is the root only when the
root is its own parent. -/
theorem BookmarksKeyed.child_of_root_ne_root {b p : BookmarkRow} (hb : b ∈ bookmarks)
    (hp : p ∈ bookmarks) (hid : p.id = b.parent) (hroot : p.guid = BookmarkRootGuid.root.asGuid) :
    b.guid ≠ BookmarkRootGuid.root.asGuid := fun h => by
  have : p = b := List.inj_on_of_nodup_map hk.guids_nodup hp hb (hroot.trans h.symm)
  subst this
  exact hk.root_parent p hp hroot hid.symm

/-- A row of generation `k` is a row of the table at depth `k + 1`, with the columns of
its parent row. -/
theorem mem_localItemsGen {k : Nat} {s : LocalItem} (hs : s ∈ localItemsGen bookmarks k) :
    s.level = k ∧ ∃ b ∈ bookmarks, ∃ p ∈ bookmarks, p.id = b.parent ∧
      Below bookmarks b (k + 1) ∧ ∃ syncable, s = LocalItem.ofRows b p.id p.guid p.title syncable k := by
  induction k generalizing s with
  | zero =>
    simp only [localItemsGen, localItemsBase, List.mem_flatMap, List.mem_map, List.mem_filter,
      decide_eq_true_eq] at hs
    obtain ⟨b, hb, p, ⟨hp, hid, htags, hroot⟩, rfl⟩ := hs
    exact ⟨rfl, b, hb, p, hp, hid,
      .top hb hp hid hroot htags (hk.child_of_root_ne_root hb hp hid hroot), _, rfl⟩
  | succ k ih =>
    obtain ⟨t, ht, hs⟩ := List.mem_flatMap.1 hs
    obtain ⟨hlevel, bt, hbt, pt, -, -, hbelow, syncable, rfl⟩ := ih ht
    obtain ⟨b, hb, hid, hnr, rfl⟩ := mem_localItemsChildren.1 hs
    exact ⟨by simp [LocalItem.ofRows, hlevel], b, hb, bt, hbt, hid, .step hbelow hb hid hnr,
      syncable, by simp [LocalItem.ofRows, hlevel]⟩

theorem localItemsGen_ids_nodup (k : Nat) : ((localItemsGen bookmarks k).map LocalItem.id).Nodup := by
  induction k with
  | zero =>
    rw [localItemsGen, localItemsBase, List.map_flatMap, List.nodup_flatMap]
    refine ⟨fun b _ => ?_, (List.pairwise_map.1 hk.ids_nodup).imp fun hne x hx₁ hx₂ => ?_⟩
    · rw [List.map_map]
      refine List.Nodup.map_on (fun p₁ hp₁ p₂ hp₂ _ => ?_)
        ((List.Nodup.of_map _ hk.ids_nodup).filter _)
      simp only [List.mem_filter, decide_eq_true_eq] at hp₁ hp₂
      exact hk.eq_of_id hp₁.1 hp₂.1 (hp₁.2.1.trans hp₂.2.1.symm)
    · simp only [List.map_map, List.mem_map, Function.comp_def, LocalItem.ofRows] at hx₁ hx₂
      obtain ⟨_, _, h₁⟩ := hx₁
      obtain ⟨_, _, h₂⟩ := hx₂
      exact hne (h₁.trans h₂.symm)
  | succ k ih =>
    rw [localItemsGen, List.map_flatMap, List.nodup_flatMap]
    refine ⟨fun t _ => ?_, (List.pairwise_map.1 ih).imp fun hne x hx₁ hx₂ => ?_⟩
    · have : (localItemsChildren bookmarks t).map LocalItem.id =
          (bookmarks.filter fun b => t.id = b.parent ∧ b.guid ≠ BookmarkRootGuid.root.asGuid).map
            BookmarkRow.id := by
        simp [localItemsChildren, LocalItem.ofRows, Function.comp_def]
      rw [this]
      exact hk.ids_nodup.sublist ((List.filter_sublist _).map _)
    · obtain ⟨c₁, hc₁, rfl⟩ := List.mem_map.1 hx₁
      obtain ⟨c₂, hc₂, hx⟩ := List.mem_map.1 hx₂
      obtain ⟨b₁, hb₁, hid₁, -, rfl⟩ := mem_localItemsChildren.1 hc₁
      obtain ⟨b₂, hb₂, hid₂, -, rfl⟩ := mem_localItemsChildren.1 hc₂
      have := hk.eq_of_id hb₂ hb₁ hx
      subst this
      exact hne (hid₁.trans hid₂.symm)

/-- Past the depth of the deepest row, the generations are empty. -/
theorem localItemsGen_eq_nil {k : Nat} (hn : bookmarks.length ≤ k) :
    localItemsGen bookmarks k = [] := by
  refine List.eq_nil_iff_forall_not_mem.2 fun s hs => ?_
  obtain ⟨-, b, -, -, -, -, h, -⟩ := mem_localItemsGen hk hs
  have := h.depth_le hk
  omega

end Generations

/-! ## The CTE -/

section Cte

variable {bookmarks : List BookmarkRow}

@[simp] theorem localItemsFrom_nil (fuel : Nat) : localItemsFrom bookmarks fuel [] = [] := by
  induction fuel with
  | zero => rfl
  | succ fuel ih => simpa [localItemsFrom] using ih

theorem mem_localItemsFrom {fuel k : Nat} {s : LocalItem} :
    s ∈ localItemsFrom bookmarks fuel (localItemsGen bookmarks k) ↔
      ∃ i < fuel, s ∈ localItemsGen bookmarks (k + i) := by
  induction fuel generalizing k with
  | zero => simp [localItemsFrom]
  | succ fuel ih =>
    rw [localItemsFrom, List.mem_append, show (localItemsGen bookmarks k).flatMap
      (localItemsChildren bookmarks) = localItemsGen bookmarks (k + 1) from rfl, ih]
    constructor
    · rintro (h | ⟨i, hi, h⟩)
      · exact ⟨0, by omega, h⟩
      · exact ⟨i + 1, by omega, by rwa [show k + (i + 1) = k + 1 + i by omega]⟩
    · rintro ⟨_ | i, hi, h⟩
      · exact .inl h
      · exact .inr ⟨i, by omega, by rwa [show k + 1 + i = k + (i + 1) by omega]⟩

theorem exists_localItemsGen_of_mem {s : LocalItem} (hs : s ∈ localItems bookmarks) :
    ∃ k, s ∈ localItemsGen bookmarks k := by
  obtain ⟨i, -, hs⟩ := mem_localItemsFrom.1 (show s ∈ localItemsFrom bookmarks _
    (localItemsGen bookmarks 0) from hs)
  exact ⟨_, hs⟩

/-- Enough fuel to reach an empty generation: SQLite's evaluation returns what
`localItemsFrom` collects. -/
theorem localItemsRun_eq {fuel k : Nat} (h : localItemsGen bookmarks (k + fuel) = []) :
    localItemsRun bookmarks fuel (localItemsGen bookmarks k) =
      some (localItemsFrom bookmarks fuel (localItemsGen bookmarks k)) := by
  induction fuel generalizing k with
  | zero =>
    rw [Nat.add_zero] at h
    rw [h]
    rfl
  | succ fuel ih =>
    have ih' := ih (k := k + 1) (by rwa [show k + 1 + fuel = k + (fuel + 1) by omega])
    rcases hg : localItemsGen bookmarks k with _ | ⟨s, rest⟩
    · simp [localItemsRun]
    · have hnext : (s :: rest).flatMap (localItemsChildren bookmarks) =
          localItemsGen bookmarks (k + 1) := by
        rw [localItemsGen, hg]
      simp only [localItemsRun, localItemsFrom, hnext, ih', Option.map_some']

variable (hk : BookmarksKeyed bookmarks)
include hk

theorem mem_localItems {s : LocalItem} (hs : s ∈ localItems bookmarks) :
    ∃ b ∈ bookmarks, ∃ p ∈ bookmarks, p.id = b.parent ∧ Below bookmarks b (s.level + 1) ∧
      ∃ syncable, s = LocalItem.ofRows b p.id p.guid p.title syncable s.level := by
  obtain ⟨i, -, hs⟩ := mem_localItemsFrom.1 (show s ∈ localItemsFrom bookmarks _
    (localItemsGen bookmarks 0) from hs)
  obtain ⟨hlevel, h⟩ := mem_localItemsGen hk hs
  rwa [hlevel]

theorem Below.mem_localItems {b : BookmarkRow} {d : Nat} (h : Below bookmarks b d) :
    ∃ p ∈ bookmarks, p.id = b.parent ∧ ∃ syncable,
      LocalItem.ofRows b p.id p.guid p.title syncable (d - 1) ∈ localItems bookmarks := by
  obtain ⟨p, hp, hid, syncable, hs⟩ := h.mem_localItemsGen
  refine ⟨p, hp, hid, syncable, mem_localItemsFrom.2 ⟨d - 1, ?_, by rwa [Nat.zero_add]⟩⟩
  have := h.depth_le hk
  omega

theorem localItems_ids_nodup : ((localItems bookmarks).map LocalItem.id).Nodup := by
  suffices ∀ fuel k, ((localItemsFrom bookmarks fuel (localItemsGen bookmarks k)).map
      LocalItem.id).Nodup from this _ 0
  intro fuel
  induction fuel with
  | zero => simp [localItemsFrom]
  | succ fuel ih =>
    intro k
    rw [localItemsFrom, List.map_append, List.nodup_append]
    refine ⟨localItemsGen_ids_nodup hk k, ih (k + 1), fun x hx₁ hx₂ => ?_⟩
    obtain ⟨s₁, hs₁, rfl⟩ := List.mem_map.1 hx₁
    obtain ⟨s₂, hs₂, hx⟩ := List.mem_map.1 hx₂
    obtain ⟨i, -, hs₂⟩ := (mem_localItemsFrom (k := k + 1)).1 hs₂
    obtain ⟨-, b₁, hb₁, p₁, -, -, h₁, c₁, rfl⟩ := mem_localItemsGen hk hs₁
    obtain ⟨-, b₂, hb₂, p₂, -, -, h₂, c₂, rfl⟩ := mem_localItemsGen hk hs₂
    have := hk.eq_of_id hb₂ hb₁ hx
    subst this
    have := h₁.depth_unique hk h₂
    omega

/-- No GUID is yielded twice: rows with one GUID are one row, yielded once. -/
theorem localItems_guids_nodup : ((localItems bookmarks).map LocalItem.guid).Nodup := by
  have hids := localItems_ids_nodup hk
  refine (hids.of_map _).map_on fun a ha b hb hab => List.inj_on_of_nodup_map hids ha hb ?_
  obtain ⟨ra, hra, _, -, -, -, _, hA⟩ := mem_localItems hk ha
  obtain ⟨rb, hrb, _, -, -, -, _, hB⟩ := mem_localItems hk hb
  have hg : ra.guid = rb.guid :=
    (congrArg LocalItem.guid hA).symm.trans (hab.trans (congrArg _ hB))
  exact (congrArg LocalItem.id hA).trans
    ((congrArg BookmarkRow.id (List.inj_on_of_nodup_map hk.guids_nodup hra hrb hg)).trans
      (congrArg LocalItem.id hB).symm)

/-- The CTE ends: SQLite's evaluation reaches an empty generation within as many
generations as the table has rows, and returns `localItems`. -/
theorem localItemsRun_terminates :
    localItemsRun bookmarks (bookmarks.length + 1) (localItemsBase bookmarks) =
      some (localItems bookmarks) :=
  localItemsRun_eq (k := 0) (localItemsGen_eq_nil hk (by omega))

end Cte

/-! ## The order `fetch_local_tree` reads the rows in -/

theorem LocalItem.precedes_iff (a b : LocalItem) :
    a.precedes b = true ↔ a.level < b.level ∨ a.level = b.level ∧
      (a.parentId < b.parentId ∨ a.parentId = b.parentId ∧ a.position ≤ b.position) := by
  simp [LocalItem.precedes]

theorem LocalItem.precedes_total (a b : LocalItem) : a.precedes b = true ∨ b.precedes a = true := by
  simp only [LocalItem.precedes_iff]
  omega

theorem LocalItem.precedes_trans {a b c : LocalItem} (hab : a.precedes b = true)
    (hbc : b.precedes c = true) : a.precedes c = true := by
  simp only [LocalItem.precedes_iff] at *
  omega

instance : IsTotal LocalItem fun a b => a.precedes b = true := ⟨LocalItem.precedes_total⟩

instance : IsTrans LocalItem fun a b => a.precedes b = true := ⟨fun _ _ _ => LocalItem.precedes_trans⟩

section Order

variable {bookmarks : List BookmarkRow} (hk : BookmarksKeyed bookmarks)
include hk

/-- A row that names another row of `localItems` as its parent is one level below it. -/
theorem localItems_parent_level {a t : LocalItem} (ha : a ∈ localItems bookmarks)
    (ht : t ∈ localItems bookmarks) (h : a.parentId = t.id) : a.level = t.level + 1 := by
  obtain ⟨ka, ha⟩ := exists_localItemsGen_of_mem ha
  obtain ⟨kt, ht⟩ := exists_localItemsGen_of_mem ht
  obtain ⟨-, ba, -, pa, -, hida, hbelowa, ca, rfl⟩ := mem_localItemsGen hk ha
  obtain ⟨-, bt, -, pt, -, -, hbelowt, ct, rfl⟩ := mem_localItemsGen hk ht
  have := hbelowa.parent_depth hk hbelowt (h.symm.trans hida)
  exact Nat.succ.inj this

/-- Rows with the same parent are at the same level. -/
theorem localItems_sibling_level {a b : LocalItem} (ha : a ∈ localItems bookmarks)
    (hb : b ∈ localItems bookmarks) (h : a.parentId = b.parentId) : a.level = b.level := by
  obtain ⟨ka, ha⟩ := exists_localItemsGen_of_mem ha
  obtain ⟨kb, hb⟩ := exists_localItemsGen_of_mem hb
  obtain ⟨-, ba, -, pa, -, hida, hbelowa, ca, rfl⟩ := mem_localItemsGen hk ha
  obtain ⟨-, bb, -, pb, -, hidb, hbelowb, cb, rfl⟩ := mem_localItemsGen hk hb
  have := hbelowa.depth_eq hk hbelowb (hida.symm.trans (h.trans hidb))
  exact Nat.succ.inj this

/-- In the order `fetch_local_tree` reads them, no row comes before its parent, and the
children of a folder come in ascending position. -/
theorem localItems_sorted :
    ((localItems bookmarks).insertionSort fun a b => a.precedes b).Pairwise fun a b =>
      a.parentId ≠ b.id ∧ (a.parentId = b.parentId → a.position ≤ b.position) := by
  have hperm := List.perm_insertionSort (fun a b : LocalItem => a.precedes b = true)
    (localItems bookmarks)
  refine (List.sorted_insertionSort _ _).imp_of_mem fun {a b} ha hb hab => ?_
  rw [hperm.mem_iff] at ha hb
  rw [LocalItem.precedes_iff] at hab
  refine ⟨fun h => ?_, fun h => ?_⟩
  · have := localItems_parent_level hk ha hb h
    omega
  · have := localItems_sibling_level hk ha hb h
    omega

/-- Every row's parent is the root, for a row of the first generation, or a row of
`localItems` one level up. -/
theorem localItems_parent_mem {s : LocalItem} (hs : s ∈ localItems bookmarks) :
    s.level = 0 ∧ s.parentGuid = BookmarkRootGuid.root.asGuid ∨
      ∃ t ∈ localItems bookmarks, t.id = s.parentId ∧ t.guid = s.parentGuid ∧
        t.level + 1 = s.level := by
  obtain ⟨k, hs⟩ := exists_localItemsGen_of_mem hs
  obtain ⟨-, b, -, p, hp, hid, hbelow, c, rfl⟩ := mem_localItemsGen hk hs
  cases hbelow with
  | top _ hp' hid' hroot =>
    have := hk.eq_of_id hp hp' (hid.trans hid'.symm)
    subst this
    exact .inl ⟨rfl, hroot⟩
  | step hs' _ hid' =>
    have := hk.eq_of_id hp hs'.mem (hid.trans hid'.symm)
    subst this
    obtain ⟨p', -, -, c', ht⟩ := hs'.mem_localItems hk
    have := hs'.pos
    exact .inr ⟨_, ht, rfl, rfl, by simp only [LocalItem.ofRows]; omega⟩

/-- In the order `fetch_local_tree` reads the rows, every row's parent is the root or a
row read before it. -/
theorem localItems_sorted_parent_first {pre suf : List LocalItem} {s : LocalItem}
    (h : (localItems bookmarks).insertionSort (fun a b => a.precedes b) = pre ++ s :: suf) :
    s.parentGuid = BookmarkRootGuid.root.asGuid ∨ s.parentGuid ∈ pre.map LocalItem.guid := by
  have hperm := List.perm_insertionSort (fun a b : LocalItem => a.precedes b = true)
    (localItems bookmarks)
  have hsorted := localItems_sorted hk
  rw [h] at hperm hsorted
  rcases localItems_parent_mem hk
      (hperm.mem_iff.1 (List.mem_append_right _ (List.mem_cons_self _ _))) with
    ⟨-, hroot⟩ | ⟨t, ht, hid, hguid, hlevel⟩
  · exact .inl hroot
  · right
    rw [← hperm.mem_iff, List.mem_append, List.mem_cons] at ht
    rcases ht with ht | rfl | ht
    · exact hguid ▸ List.mem_map_of_mem _ ht
    · omega
    · exact absurd hid.symm ((List.pairwise_cons.1 (List.pairwise_append.1 hsorted).2.1).1 t ht).1

end Order

/-! ## What the CTE feeds -/

section Feeds

variable {bookmarks : List BookmarkRow} (hk : BookmarksKeyed bookmarks)
include hk

/-- A row of `localItems` with a change counter is a row below the root with one, and
the other way round. -/
theorem localItems_changed_iff :
    (∃ s ∈ localItems bookmarks, 0 < s.syncChangeCounter) ↔
      ∃ b ∈ bookmarks, (∃ d, Below bookmarks b d) ∧ 0 < b.syncChangeCounter := by
  constructor
  · rintro ⟨s, hs, hc⟩
    obtain ⟨k, hs⟩ := exists_localItemsGen_of_mem hs
    obtain ⟨-, b, hb, p, -, -, hbelow, c, rfl⟩ := mem_localItemsGen hk hs
    exact ⟨b, hb, ⟨_, hbelow⟩, hc⟩
  · rintro ⟨b, -, ⟨d, hbelow⟩, hc⟩
    obtain ⟨p, -, -, c, hs⟩ := hbelow.mem_localItems hk
    exact ⟨_, hs, hc⟩

end Feeds

/-- The rows `stage_local_items_to_upload` stages are rows below the root. -/
theorem stagedItems_below {db : Db} (hk : BookmarksKeyed db.bookmarks) {r : UploadRow}
    (hr : r ∈ stagedItems db) :
    ∃ b ∈ db.bookmarks, (∃ d, Below db.bookmarks b d) ∧ r.id = some b.id ∧ r.guid = b.guid := by
  obtain ⟨s, hs, rfl⟩ := List.mem_map.1 hr
  obtain ⟨k, hs⟩ := exists_localItemsGen_of_mem (List.mem_filter.1 hs).1
  obtain ⟨-, b, hb, p, -, -, hbelow, c, rfl⟩ := mem_localItemsGen hk hs
  exact ⟨b, hb, ⟨_, hbelow⟩, rfl, rfl⟩

/-- `has_changes` counts, of the local items, exactly the rows below the root with a
change counter. -/
theorem hasChanges_iff {db : Db} (hk : BookmarksKeyed db.bookmarks) :
    hasChanges db = true ↔
      db.synced.any (fun v => v.needsMerge && (!v.isDeleted || db.bookmarks.any (·.guid == v.guid))) ∨
      (∃ b ∈ db.bookmarks, (∃ d, Below db.bookmarks b d) ∧ 0 < b.syncChangeCounter) ∨
      db.bookmarksDeleted ≠ [] := by
  rw [← localItems_changed_iff hk]
  simp [hasChanges, List.any_eq_true, or_assoc]

/-- `LOCAL_ITEMS_SQL_FRAGMENT` on a table with unique ids and GUIDs and a root that is
not its own parent, whatever its parent pointers: SQLite's evaluation ends and returns
`localItems`; its rows are the rows below the root but the root, with their parent's
columns, at level = depth - 1; every such row is there, and only once; in the order
`fetch_local_tree` reads them each row comes after its parent (the root, or a row of
`localItems` one level up), and a folder's children in ascending position; and the rows
`stage_local_items_to_upload` stages and `has_changes` counts are among them. -/
theorem localItems_exactly_once (db : Db) (hk : BookmarksKeyed db.bookmarks) :
    localItemsRun db.bookmarks (db.bookmarks.length + 1) (localItemsBase db.bookmarks) =
        some (localItems db.bookmarks) ∧
      (∀ s ∈ localItems db.bookmarks, ∃ b ∈ db.bookmarks, ∃ p ∈ db.bookmarks,
        p.id = b.parent ∧ Below db.bookmarks b (s.level + 1) ∧
        ∃ syncable, s = LocalItem.ofRows b p.id p.guid p.title syncable s.level) ∧
      (∀ b d, Below db.bookmarks b d →
        ∃ s ∈ localItems db.bookmarks, s.id = b.id ∧ s.level + 1 = d) ∧
      ((localItems db.bookmarks).map LocalItem.id).Nodup ∧
      (∀ s ∈ localItems db.bookmarks, s.level = 0 ∧ s.parentGuid = BookmarkRootGuid.root.asGuid ∨
        ∃ t ∈ localItems db.bookmarks, t.id = s.parentId ∧ t.guid = s.parentGuid ∧
          t.level + 1 = s.level) ∧
      ((localItems db.bookmarks).insertionSort fun a b => a.precedes b).Pairwise
        (fun a b => a.parentId ≠ b.id ∧ (a.parentId = b.parentId → a.position ≤ b.position)) ∧
      (∀ r ∈ stagedItems db, ∃ b ∈ db.bookmarks, (∃ d, Below db.bookmarks b d) ∧
        r.id = some b.id ∧ r.guid = b.guid) ∧
      (hasChanges db = true ↔
        db.synced.any (fun v => v.needsMerge && (!v.isDeleted || db.bookmarks.any (·.guid == v.guid))) ∨
        (∃ b ∈ db.bookmarks, (∃ d, Below db.bookmarks b d) ∧ 0 < b.syncChangeCounter) ∨
        db.bookmarksDeleted ≠ []) := by
  refine ⟨localItemsRun_terminates hk, fun s hs => mem_localItems hk hs, fun b d h => ?_,
    localItems_ids_nodup hk, fun s hs => localItems_parent_mem hk hs, localItems_sorted hk,
    fun r hr => stagedItems_below hk hr, hasChanges_iff hk⟩
  obtain ⟨p, -, -, c, hs⟩ := h.mem_localItems hk
  exact ⟨_, hs, rfl, by have := h.pos; simp only [LocalItem.ofRows]; omega⟩

theorem localItems_exactly_once_sample :
    BookmarksKeyed BookmarkRow.sampleTable ∧
      localItemsRun BookmarkRow.sampleTable 6 (localItemsBase BookmarkRow.sampleTable) =
        some (localItems BookmarkRow.sampleTable) :=
  have hk : BookmarksKeyed BookmarkRow.sampleTable := ⟨by decide, by decide, by decide⟩
  ⟨hk, (localItems_exactly_once { Db.empty with bookmarks := _ } hk).1⟩

/-! ## The local tree `dogear` is given -/

end BookmarkSync
