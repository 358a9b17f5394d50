import BookmarkSync.BookmarkRuns

/-!
# BookmarkSync.FetchTree — what `fetch_tree` prints

`fetch_tree` of `storage/bookmarks.rs` runs a recursive CTE, `descendants`, from the row
with a GUID down through the children of the rows found, sorts its rows `ORDER BY d.level,
d.parent, d.position`, reads each with `FetchedTreeRow::from_row` and prints each result;
it returns `Ok(())` whatever it prints. The CTE has no cycle guard.

* `Descends` is the abstract answer: the row with the GUID, and every row whose parent
  chain reaches it, with how many generations below it is;
* generation `k` of the CTE (`descendantsGen`) holds a row exactly when it descends `k`
  generations from the row asked for (`mem_descendantsGen`, `Descends.mem_descendantsGen`);
* on every table the local bookmark API builds (`BookmarkSync.BookmarkRuns`) a row has one
  depth below the root, a child one more than its parent (`TableOk.depth_child`), so the
  generations are disjoint and end: SQLite's evaluation ends, yields each descendant once,
  and in the order of the `ORDER BY` no row comes before its parent (`edits_fetchTree`),
  the source's "Our query guarantees that we always visit parents ahead of their children";
* for the root, the first row printed is an error (`edits_fetchTree_root`): no row has
  the root's parent id, so its `parentGuid` is `NULL`;
* from a row with an endless descent, such as a row on a parent cycle, the evaluation never
  ends (`descendantsRun_cycle`).
-/

namespace BookmarkSync

/-! ## The query -/

/-- A row of the `descendants` CTE: the columns of a `moz_bookmarks` row, its level below
the row asked for, and its parent's GUID. -/
structure Descendant where
  fk : Option Int
  level : Nat
  type : Nat
  id : Int
  guid : String
  parent : Int
  parentGuid : Option String
  position : Int
  title : Option String
  dateAdded : Int
  lastModified : Int
  deriving DecidableEq, Repr

/-- The columns both members of the CTE select of a row `b`. -/
def Descendant.ofRow (b : BookmarkRow) (level : Nat) (parentGuid : Option String) : Descendant :=
  ⟨b.fk, level, b.type, b.id, b.guid, b.parent, parentGuid, b.position, b.title, b.dateAdded,
    b.lastModified⟩

section Descendants

variable (bookmarks : List BookmarkRow)

/-- The CTE's first member: the row with the GUID, at level 0, with the GUID of the row
whose id is its parent, `NULL` when there is none. -/
def descendantsBase (itemGuid : String) : List Descendant :=
  (bookmarks.filter (·.guid == itemGuid)).map fun b1 =>
    Descendant.ofRow b1 0 ((bookmarks.find? (·.id == b1.parent)).map BookmarkRow.guid)

/-- The CTE's recursive member for one row `d`: the rows whose parent is `d`, a level
down. -/
def descendantsChildren (d : Descendant) : List Descendant :=
  (bookmarks.filter (·.parent == d.id)).map fun b2 =>
    Descendant.ofRow b2 (d.level + 1) (some d.guid)

/-- How SQLite evaluates the CTE: a generation's rows, then the recursive member over them,
until a generation is empty; `none` when `fuel` generations do not reach an empty one. -/
def descendantsRun : Nat → List Descendant → Option (List Descendant)
  | _, [] => some []
  | 0, _ :: _ => none
  | fuel + 1, gen@(_ :: _) =>
    (descendantsRun fuel (gen.flatMap (descendantsChildren bookmarks))).map (gen ++ ·)

end Descendants

/-- `ORDER BY d.level, d.parent, d.position`. -/
def Descendant.precedes (a b : Descendant) : Bool :=
  a.level < b.level ||
    a.level == b.level && (a.parent < b.parent || a.parent == b.parent && a.position ≤ b.position)

/-- `FetchedTreeRow`. -/
structure FetchedTreeRow where
  level : Nat
  id : Int
  guid : String
  parent : Int
  parentGuid : String
  nodeType : Nat
  index : Nat
  title : String
  dateAdded : Int
  lastModified : Int
  url : Option String
  deriving DecidableEq, Repr

/-- `FetchedTreeRow::from_row` of a row of the query, reading the columns in the order the
source does: `IFNULL(d.title, "")` for the title, and the URL of the `LEFT JOIN` of
`moz_places`. The `FromSql` of `Timestamp` is not in the source; the model reads the
integer. -/
def FetchedTreeRow.fromRow (places : List PlaceRow) (d : Descendant) : Result FetchedTreeRow := do
  let level ← getU32 "level" d.level
  let parentGuid ← getChecked "parentGuid" d.parentGuid
  let nodeType ← getU32 "type" d.type
  let index ← getU32 "index" d.position
  pure ⟨level, d.id, d.guid, d.parent, parentGuid, nodeType, index, d.title.getD "",
    d.dateAdded, d.lastModified, placeUrl places d.fk⟩

/-- The rows of `fetch_tree`'s query in the order of its `ORDER BY`, ties kept in the
CTE's order; `none` when SQLite's evaluation of the CTE does not end within `fuel`
generations. The `LEFT JOIN` of `b3`, of which nothing is selected, keeps one row per
descendant, ids being unique. -/
def fetchTreeRows (bookmarks : List BookmarkRow) (itemGuid : String) (fuel : Nat) :
    Option (List Descendant) :=
  (descendantsRun bookmarks fuel (descendantsBase bookmarks itemGuid)).map
    (·.insertionSort fun a b => a.precedes b)

/-- `fetch_tree`: what it prints, one `result` a row. -/
def fetchTree (db : Db) (itemGuid : String) (fuel : Nat) :
    Option (List (Result FetchedTreeRow)) :=
  (fetchTreeRows db.bookmarks itemGuid fuel).map (·.map (FetchedTreeRow.fromRow db.places))

/-! ## Generations -/

/-- `b` is `d` generations below the row with GUID `guid`. -/
inductive Descends (bookmarks : List BookmarkRow) (guid : String) : BookmarkRow → Nat → Prop
  | self {b : BookmarkRow} : b ∈ bookmarks → b.guid = guid → Descends bookmarks guid b 0
  | child {b s : BookmarkRow} {d : Nat} : Descends bookmarks guid s d → b ∈ bookmarks →
      s.id = b.parent → Descends bookmarks guid b (d + 1)

/-- The generations of the CTE: the first member's rows, then the recursive member over
the generation before. -/
def descendantsGen (bookmarks : List BookmarkRow) (itemGuid : String) : Nat → List Descendant
  | 0 => descendantsBase bookmarks itemGuid
  | k + 1 => (descendantsGen bookmarks itemGuid k).flatMap (descendantsChildren bookmarks)

section Generations

variable {bookmarks : List BookmarkRow} {itemGuid : String}

theorem Descends.mem {b : BookmarkRow} {d : Nat} (h : Descends bookmarks itemGuid b d) :
    b ∈ bookmarks := by
  cases h with
  | self hb => exact hb
  | child _ hb => exact hb

theorem Descends.origin {b : BookmarkRow} {d : Nat} (h : Descends bookmarks itemGuid b d) :
    ∃ s ∈ bookmarks, s.guid = itemGuid := by
  induction h with
  | self hb hg => exact ⟨_, hb, hg⟩
  | child _ _ _ ih => exact ih

theorem mem_descendantsChildren {d x : Descendant} :
    x ∈ descendantsChildren bookmarks d ↔
      ∃ b ∈ bookmarks, b.parent = d.id ∧ x = Descendant.ofRow b (d.level + 1) (some d.guid) := by
  simp only [descendantsChildren, List.mem_map, List.mem_filter, beq_iff_eq, and_assoc,
    @eq_comm Descendant]

/-- A row of generation `k` is a row of the table `k` generations below the row asked for,
at level `k`. -/
theorem mem_descendantsGen {k : Nat} {x : Descendant} (hx : x ∈ descendantsGen bookmarks itemGuid k) :
    ∃ b, Descends bookmarks itemGuid b k ∧ ∃ pg, x = Descendant.ofRow b k pg := by
  induction k generalizing x with
  | zero =>
    simp only [descendantsGen, descendantsBase, List.mem_map, List.mem_filter, beq_iff_eq] at hx
    obtain ⟨b, ⟨hb, hg⟩, rfl⟩ := hx
    exact ⟨b, .self hb hg, _, rfl⟩
  | succ k ih =>
    obtain ⟨y, hy, hx⟩ := List.mem_flatMap.1 hx
    obtain ⟨s, hs, pg, rfl⟩ := ih hy
    obtain ⟨b, hb, hid, rfl⟩ := mem_descendantsChildren.1 hx
    exact ⟨b, .child hs hb hid.symm, _, rfl⟩

/-- Every row of generation `k + 1` has its parent in generation `k`, whose GUID it
carries. -/
theorem parent_mem_descendantsGen {k : Nat} {x : Descendant}
    (hx : x ∈ descendantsGen bookmarks itemGuid (k + 1)) :
    ∃ y ∈ descendantsGen bookmarks itemGuid k, y.id = x.parent ∧ x.parentGuid = some y.guid := by
  obtain ⟨y, hy, hx⟩ := List.mem_flatMap.1 hx
  obtain ⟨b, -, hid, rfl⟩ := mem_descendantsChildren.1 hx
  exact ⟨y, hy, hid.symm, rfl⟩

/-- Every row `k` generations below the row asked for is in generation `k`. -/
theorem Descends.mem_descendantsGen {b : BookmarkRow} {k : Nat}
    (h : Descends bookmarks itemGuid b k) :
    ∃ pg, Descendant.ofRow b k pg ∈ descendantsGen bookmarks itemGuid k := by
  induction h with
  | self hb hg =>
    exact ⟨_, List.mem_map.2 ⟨_, List.mem_filter.2 ⟨hb, by simpa using hg⟩, rfl⟩⟩
  | @child b s d _ hb hid ih =>
    obtain ⟨pg, hs⟩ := ih
    exact ⟨_, List.mem_flatMap.2 ⟨_, hs, mem_descendantsChildren.2 ⟨b, hb, hid.symm, rfl⟩⟩⟩

theorem descendantsGen_add_eq_nil {k : Nat} (h : descendantsGen bookmarks itemGuid k = [])
    (i : Nat) : descendantsGen bookmarks itemGuid (k + i) = [] := by
  induction i with
  | zero => exact h
  | succ i ih => rw [← Nat.add_assoc, descendantsGen, ih, List.flatMap_nil]

/-- Enough fuel to reach an empty generation: SQLite's evaluation returns the generations
before it, in turn. -/
theorem descendantsRun_eq {fuel k : Nat} (h : descendantsGen bookmarks itemGuid (k + fuel) = []) :
    descendantsRun bookmarks fuel (descendantsGen bookmarks itemGuid k) =
      some ((List.range fuel).flatMap fun i => descendantsGen bookmarks itemGuid (k + i)) := by
  induction fuel generalizing k with
  | zero =>
    rw [Nat.add_zero] at h
    rw [h]
    rfl
  | succ fuel ih =>
    rcases hg : descendantsGen bookmarks itemGuid k with _ | ⟨x, rest⟩
    · have hnil : ∀ i, descendantsGen bookmarks itemGuid (k + i) = [] :=
        descendantsGen_add_eq_nil hg
      simp only [descendantsRun, hnil, List.flatMap_nil]
      exact congrArg some (List.flatMap_eq_nil_iff.2 fun _ _ => rfl).symm
    · have hnext : (x :: rest).flatMap (descendantsChildren bookmarks) =
          descendantsGen bookmarks itemGuid (k + 1) := by
        rw [descendantsGen, hg]
      have hshift : ∀ i, k + 1 + i = k + (i + 1) := fun i => by omega
      rw [descendantsRun, hnext, ih (by rwa [hshift]), List.range_succ_eq_map, List.flatMap_cons,
        List.flatMap_map]
      simp only [Option.map_some', Nat.add_zero, hg, hshift]

/-- The CTE has no cycle guard: from a row with an endless descent, a set of rows each of
which is the parent of another of the set as the rows of a parent cycle are, SQLite's
evaluation never reaches an empty generation. -/
theorem descendantsRun_cycle {cycle : List BookmarkRow} (hsub : ∀ x ∈ cycle, x ∈ bookmarks)
    (hitem : ∃ s ∈ cycle, s.guid = itemGuid) (hdesc : ∀ x ∈ cycle, ∃ y ∈ cycle, y.parent = x.id)
    (fuel : Nat) : descendantsRun bookmarks fuel (descendantsBase bookmarks itemGuid) = none := by
  suffices ∀ fuel (gen : List Descendant), (∃ d ∈ gen, ∃ x ∈ cycle, d.id = x.id) →
      descendantsRun bookmarks fuel gen = none by
    obtain ⟨s, hs, hg⟩ := hitem
    exact this fuel _ ⟨_, List.mem_map.2 ⟨s, List.mem_filter.2 ⟨hsub s hs, by simpa using hg⟩,
      rfl⟩, s, hs, rfl⟩
  intro fuel
  induction fuel with
  | zero =>
    rintro (_ | ⟨d, gen⟩) ⟨x, hx, -⟩
    · cases hx
    · rfl
  | succ fuel ih =>
    rintro (_ | ⟨d₀, gen⟩) ⟨d, hd, x, hx, hid⟩
    · cases hd
    obtain ⟨y, hy, hpar⟩ := hdesc x hx
    rw [descendantsRun, ih _ ⟨_, List.mem_flatMap.2 ⟨d, hd, mem_descendantsChildren.2
      ⟨y, hsub y hy, hpar.trans hid.symm, rfl⟩⟩, y, hy, rfl⟩]
    rfl

theorem descendantsRun_cycle_sample :
    descendantsRun BookmarkRow.sampleTable 100
      (descendantsBase BookmarkRow.sampleTable "orphanAAAAAA") = none :=
  @descendantsRun_cycle BookmarkRow.sampleTable "orphanAAAAAA" (BookmarkRow.sampleTable.drop 3)
    (by decide) (by decide) (by decide) 100

/-- The rows of the first `n` generations, in the order of the `ORDER BY`, are those of the
generations. -/
theorem mem_sortedGens {n : Nat} {x : Descendant} :
    x ∈ ((List.range n).flatMap fun i => descendantsGen bookmarks itemGuid i).insertionSort
        (fun a b => a.precedes b) ↔ ∃ i < n, x ∈ descendantsGen bookmarks itemGuid i := by
  simp [(List.perm_insertionSort _ _).mem_iff, List.mem_flatMap]

end Generations

/-! ## The order -/

theorem Descendant.precedes_iff (a b : Descendant) :
    a.precedes b = true ↔ a.level < b.level ∨ a.level = b.level ∧
      (a.parent < b.parent ∨ a.parent = b.parent ∧ a.position ≤ b.position) := by
  simp [Descendant.precedes]

theorem Descendant.level_le_of_precedes {a b : Descendant} (h : a.precedes b = true) :
    a.level ≤ b.level := by
  rw [Descendant.precedes_iff] at h
  omega

theorem Descendant.precedes_total (a b : Descendant) :
    a.precedes b = true ∨ b.precedes a = true := by
  simp only [Descendant.precedes_iff]
  omega

theorem Descendant.precedes_trans {a b c : Descendant} (hab : a.precedes b = true)
    (hbc : b.precedes c = true) : a.precedes c = true := by
  simp only [Descendant.precedes_iff] at *
  omega

instance : IsTotal Descendant fun a b => a.precedes b = true := ⟨Descendant.precedes_total⟩

instance : IsTrans Descendant fun a b => a.precedes b = true :=
  ⟨fun _ _ _ => Descendant.precedes_trans⟩

/-- `FetchedTreeRow::from_row` fails on a row whose parent GUID is `NULL`. -/
theorem FetchedTreeRow.fromRow_parentGuid_none {places : List PlaceRow} {d : Descendant}
    (hl : d.level < 4294967296) (hpg : d.parentGuid = none) :
    FetchedTreeRow.fromRow places d = throw (.err (.invalidColumnType "parentGuid")) := by
  have hlevel : getU32 "level" d.level = pure d.level := by
    simp only [getU32, Int.natCast_nonneg, true_and, Int.toNat_ofNat]
    rw [if_pos (by omega)]
  simp only [FetchedTreeRow.fromRow, hlevel, hpg, getChecked]
  rfl

/-! ## Depth in the tables the API builds -/

/-- A row's depth in the tree: the root at 0, any other row as far below the root as it
hangs. -/
def Depth (bookmarks : List BookmarkRow) (b : BookmarkRow) (d : Nat) : Prop :=
  b.guid = BookmarkRootGuid.root.asGuid ∧ d = 0 ∨ Below bookmarks b d

namespace TableOk

variable {t : List BookmarkRow} (h : TableOk t)
include h

theorem depth_exists {b : BookmarkRow} (hb : b ∈ t) : ∃ d, Depth t b d := by
  by_cases hr : b.guid = BookmarkRootGuid.root.asGuid
  · exact ⟨0, .inl ⟨hr, rfl⟩⟩
  · obtain ⟨d, hd⟩ := h.grown.reaches_root b hb hr
    exact ⟨d, .inr hd⟩

theorem depth_unique {b : BookmarkRow} {d₁ d₂ : Nat} (h₁ : Depth t b d₁) (h₂ : Depth t b d₂) :
    d₁ = d₂ := by
  rcases h₁ with ⟨hr, rfl⟩ | h₁ <;> rcases h₂ with ⟨hr', rfl⟩ | h₂
  · rfl
  · exact absurd hr h₂.not_root
  · exact absurd hr' h₁.not_root
  · exact h₁.depth_unique h.keyed h₂

/-- A row hangs one level below its parent. -/
theorem depth_child {b s : BookmarkRow} {e : Nat} (hs : s ∈ t) (hd : Depth t s e) (hb : b ∈ t)
    (hid : s.id = b.parent) : Depth t b (e + 1) := by
  by_cases hr : b.guid = BookmarkRootGuid.root.asGuid
  · have h₀ := h.grown.root_parent hb hr
    have := h.ids_pos s hs
    omega
  obtain ⟨p, hp, hpid, -, htop⟩ := h.grown.parent_folder b hb hr
  obtain rfl : p = s := h.keyed.eq_of_id hp hs (hpid.trans hid.symm)
  rcases hd with ⟨hroot, rfl⟩ | hd
  · exact .inr (.top hb hp hpid hroot (ne_tagsGuid_of_userRoot (htop hroot)) hr)
  · exact .inr (.step hd hb hpid hr)

theorem depth_le {b : BookmarkRow} {d : Nat} (hd : Depth t b d) : d ≤ t.length := by
  rcases hd with ⟨-, rfl⟩ | hd
  · exact Nat.zero_le _
  · exact hd.depth_le h.keyed

/-- A row `k` generations below the row with the GUID hangs `k` levels deeper. -/
theorem descends_depth {g : String} {b s : BookmarkRow} {k e : Nat} (hd : Descends t g b k)
    (hs : s ∈ t) (hg : s.guid = g) (he : Depth t s e) : Depth t b (e + k) := by
  induction hd with
  | @self b hb hbg =>
    obtain rfl : b = s := List.inj_on_of_nodup_map h.guids_nodup hb hs (hbg.trans hg.symm)
    exact he
  | child hd' hb hid ih => exact h.depth_child hd'.mem ih hb hid

/-- How many generations below the row with the GUID a row is, is one number. -/
theorem descends_unique {g : String} {b : BookmarkRow} {k₁ k₂ : Nat} (h₁ : Descends t g b k₁)
    (h₂ : Descends t g b k₂) : k₁ = k₂ := by
  obtain ⟨s, hs, hg⟩ := h₁.origin
  obtain ⟨e, he⟩ := h.depth_exists hs
  have := h.depth_unique (h.descends_depth h₁ hs hg he) (h.descends_depth h₂ hs hg he)
  omega

theorem descends_le {g : String} {b : BookmarkRow} {k : Nat} (hd : Descends t g b k) :
    k ≤ t.length := by
  obtain ⟨s, hs, hg⟩ := hd.origin
  obtain ⟨e, he⟩ := h.depth_exists hs
  have := h.depth_le (h.descends_depth hd hs hg he)
  omega

/-- Below the row with the GUID, a parent is one generation up from its child. -/
theorem descends_parent {g : String} {b s : BookmarkRow} {k j : Nat} (hb : Descends t g b k)
    (hs : Descends t g s j) (hid : s.id = b.parent) : k = j + 1 := by
  obtain ⟨r, hr, hg⟩ := hb.origin
  obtain ⟨e, he⟩ := h.depth_exists hr
  have := h.depth_unique (h.descends_depth hb hr hg he)
    (h.depth_child hs.mem (h.descends_depth hs hr hg he) hb.mem hid)
  omega

/-! ## The query on the tables the API builds -/

theorem descendantsGen_eq_nil {g : String} {k : Nat} (hk : t.length < k) :
    descendantsGen t g k = [] :=
  List.eq_nil_iff_forall_not_mem.2 fun _ hx => by
    obtain ⟨b, hd, -⟩ := mem_descendantsGen hx
    have := h.descends_le hd
    omega

theorem descendantsGen_ids_nodup (g : String) (k : Nat) :
    ((descendantsGen t g k).map Descendant.id).Nodup := by
  induction k with
  | zero =>
    have : (descendantsGen t g 0).map Descendant.id = (t.filter (·.guid == g)).map BookmarkRow.id := by
      simp [descendantsGen, descendantsBase, Descendant.ofRow, Function.comp_def]
    rw [this]
    exact h.ids_nodup.sublist ((List.filter_sublist _).map _)
  | succ k ih =>
    rw [descendantsGen, List.map_flatMap, List.nodup_flatMap]
    refine ⟨fun y _ => ?_, (List.pairwise_map.1 ih).imp fun hne x hx₁ hx₂ => ?_⟩
    · have : (descendantsChildren t y).map Descendant.id =
          (t.filter (·.parent == y.id)).map BookmarkRow.id := by
        simp [descendantsChildren, Descendant.ofRow, Function.comp_def]
      rw [this]
      exact h.ids_nodup.sublist ((List.filter_sublist _).map _)
    · obtain ⟨c₁, hc₁, rfl⟩ := List.mem_map.1 hx₁
      obtain ⟨c₂, hc₂, hx⟩ := List.mem_map.1 hx₂
      obtain ⟨b₁, hb₁, hid₁, rfl⟩ := mem_descendantsChildren.1 hc₁
      obtain ⟨b₂, hb₂, hid₂, rfl⟩ := mem_descendantsChildren.1 hc₂
      obtain rfl : b₂ = b₁ := h.keyed.eq_of_id hb₂ hb₁ hx
      exact hne (hid₁.symm.trans hid₂)

/-- The generations hold different rows. -/
theorem descendantsGens_ids_nodup (g : String) (n : Nat) :
    (((List.range n).flatMap fun i => descendantsGen t g i).map Descendant.id).Nodup := by
  rw [List.map_flatMap, List.nodup_flatMap]
  refine ⟨fun i _ => h.descendantsGen_ids_nodup g i, (List.nodup_range n).imp fun hij x hx₁ hx₂ => ?_⟩
  obtain ⟨a, ha, rfl⟩ := List.mem_map.1 hx₁
  obtain ⟨b, hb, hx⟩ := List.mem_map.1 hx₂
  obtain ⟨ba, hda, pa, rfl⟩ := mem_descendantsGen ha
  obtain ⟨bb, hdb, pb, rfl⟩ := mem_descendantsGen hb
  obtain rfl : bb = ba := h.keyed.eq_of_id hdb.mem hda.mem hx
  exact hij (h.descends_unique hda hdb)

/-- SQLite's evaluation of the CTE ends within as many generations as the table has rows,
and yields the generations in turn. -/
theorem fetchTreeRows_eq (g : String) :
    fetchTreeRows t g (t.length + 1) = some (((List.range (t.length + 1)).flatMap fun i =>
      descendantsGen t g i).insertionSort fun a b => a.precedes b) := by
  have hrun := descendantsRun_eq (k := 0) (h.descendantsGen_eq_nil (g := g) (k := 0 + (t.length + 1))
    (by omega))
  simp only [Nat.zero_add] at hrun
  simp only [fetchTreeRows]
  rw [show descendantsBase t g = descendantsGen t g 0 from rfl, hrun, Option.map_some']

/-- On a table the API keeps, `fetch_tree`'s query ends, and yields the row asked for and
every row below it, each once, at its generation; in its order no row comes before its
parent, which is there for every row but the first. -/
theorem fetchTreeRows_spec (g : String) :
    ∃ rows, fetchTreeRows t g (t.length + 1) = some rows ∧
      (∀ x ∈ rows, ∃ b, Descends t g b x.level ∧ ∃ pg, x = Descendant.ofRow b x.level pg) ∧
      (∀ b k, Descends t g b k → ∃ x ∈ rows, x.id = b.id ∧ x.level = k) ∧
      (rows.map Descendant.id).Nodup ∧
      rows.Pairwise (fun a b => a.parent ≠ b.id) ∧
      ∀ x ∈ rows, 0 < x.level → ∃ y ∈ rows, y.id = x.parent ∧ x.parentGuid = some y.guid := by
  have hperm := List.perm_insertionSort (fun a b : Descendant => a.precedes b = true)
    ((List.range (t.length + 1)).flatMap fun i => descendantsGen t g i)
  have hmem := @mem_sortedGens t g (t.length + 1)
  refine ⟨_, h.fetchTreeRows_eq g, fun x hx => ?_, fun b k hd => ?_,
    (hperm.map _).nodup_iff.2 (h.descendantsGens_ids_nodup g _), ?_, fun x hx hl => ?_⟩
  · obtain ⟨i, -, hx⟩ := hmem.1 hx
    obtain ⟨b, hd, pg, rfl⟩ := mem_descendantsGen hx
    exact ⟨b, hd, pg, rfl⟩
  · obtain ⟨pg, hx⟩ := hd.mem_descendantsGen
    exact ⟨_, hmem.2 ⟨k, by have := h.descends_le hd; omega, hx⟩, rfl, rfl⟩
  · refine (List.sorted_insertionSort _ _).imp_of_mem fun {a b} ha hb hab hpar => ?_
    obtain ⟨i, -, ha⟩ := hmem.1 ha
    obtain ⟨j, -, hb⟩ := hmem.1 hb
    obtain ⟨ba, hda, pa, rfl⟩ := mem_descendantsGen ha
    obtain ⟨bb, hdb, pb, rfl⟩ := mem_descendantsGen hb
    have hle : i ≤ j := Descendant.level_le_of_precedes hab
    have := h.descends_parent hda hdb hpar.symm
    omega
  · obtain ⟨i, hi, hx⟩ := hmem.1 hx
    obtain ⟨b, -, pg, rfl⟩ := mem_descendantsGen hx
    cases i with
    | zero => exact absurd hl (Nat.lt_irrefl 0)
    | succ k =>
      obtain ⟨y, hy, hid, hpg⟩ := parent_mem_descendantsGen hx
      exact ⟨y, hmem.2 ⟨k, by omega, hy⟩, hid, hpg⟩

end TableOk

/-- The row the CTE starts from at the root has no parent GUID: no row has the root's
parent id, 0. -/
theorem TableOk.root_parentGuid {t : List BookmarkRow} (h : TableOk t) {x : Descendant}
    (hx : x ∈ descendantsBase t BookmarkRootGuid.root.asGuid) : x.parentGuid = none := by
  obtain ⟨b, hb, rfl⟩ := List.mem_map.1 hx
  simp only [List.mem_filter, beq_iff_eq] at hb
  have hnone : t.find? (·.id == b.parent) = none := List.find?_eq_none.2 fun y hy => by
    rw [h.grown.root_parent hb.1 hb.2]
    simpa using (h.ids_pos y hy).ne'
  simp only [Descendant.ofRow, hnone, Option.map_none']

/-- `fetch_tree` of the root prints, first, the error of reading the root's row. -/
theorem TableOk.fetchTree_root {db : Db} (h : TableOk db.bookmarks) (hne : db.bookmarks ≠ []) :
    ∃ out, fetchTree db BookmarkRootGuid.root.asGuid (db.bookmarks.length + 1) =
      some (throw (.err (.invalidColumnType "parentGuid")) :: out) := by
  obtain ⟨r, rest, ht, hrg, -, -⟩ := h.grown.head hne
  have hx₀ : Descendant.ofRow r 0 ((db.bookmarks.find? (·.id == r.parent)).map BookmarkRow.guid) ∈
      descendantsGen db.bookmarks BookmarkRootGuid.root.asGuid 0 :=
    List.mem_map.2 ⟨r, List.mem_filter.2 ⟨ht ▸ .head _, by simpa using hrg⟩, rfl⟩
  have hmem := @mem_sortedGens db.bookmarks BookmarkRootGuid.root.asGuid (db.bookmarks.length + 1)
  have hsorted := List.sorted_insertionSort (fun a b : Descendant => a.precedes b = true)
    ((List.range (db.bookmarks.length + 1)).flatMap fun i =>
      descendantsGen db.bookmarks BookmarkRootGuid.root.asGuid i)
  obtain ⟨a, out, hsort⟩ := List.exists_cons_of_ne_nil (List.ne_nil_of_mem (hmem.2 ⟨0, by omega, hx₀⟩))
  rw [hsort] at hmem hsorted
  -- The first row is of generation 0: it comes no later than the root's own row.
  obtain ⟨i, -, ha⟩ := hmem.1 (.head _)
  obtain ⟨b, -, pg, rfl⟩ := mem_descendantsGen ha
  obtain rfl : i = 0 := by
    rcases List.mem_cons.1 (hmem.2 ⟨0, by omega, hx₀⟩) with he | hx
    · exact (congrArg Descendant.level he).symm
    · exact Nat.le_zero.1 (Descendant.level_le_of_precedes (List.rel_of_sorted_cons hsorted _ hx))
  simp only [fetchTree, h.fetchTreeRows_eq, Option.map_some', hsort, List.map_cons,
    FetchedTreeRow.fromRow_parentGuid_none (by simp [Descendant.ofRow]) (h.root_parentGuid ha)]
  exact ⟨_, rfl⟩

/-! ## On the tables the API builds -/

section Runs

variable {env : StorageEnv} (hs : env.Schema) {allowed : BookmarkPosition → Prop}
include hs

/-- On every table the local bookmark API builds from an empty `moz_bookmarks`, whatever it
is asked and whichever calls fail, and for every GUID, `fetch_tree`'s query ends within as
many generations as the table has rows; it yields the row with the GUID and every row
below it, each once and at its generation; and in the order of its `ORDER BY` no row comes
before its parent, which is there, with its GUID, for every row but the first. -/
theorem edits_fetchTree {c₀ c : Conn} (h₀ : c₀.db.bookmarks = [])
    (hrun : Relation.ReflTransGen (Edit env allowed) c₀ c) (itemGuid : String) :
    ∃ rows, fetchTreeRows c.db.bookmarks itemGuid (c.db.bookmarks.length + 1) = some rows ∧
      (∀ x ∈ rows, ∃ b, Descends c.db.bookmarks itemGuid b x.level ∧
        ∃ pg, x = Descendant.ofRow b x.level pg) ∧
      (∀ b k, Descends c.db.bookmarks itemGuid b k → ∃ x ∈ rows, x.id = b.id ∧ x.level = k) ∧
      (rows.map Descendant.id).Nodup ∧
      rows.Pairwise (fun a b => a.parent ≠ b.id) ∧
      ∀ x ∈ rows, 0 < x.level → ∃ y ∈ rows, y.id = x.parent ∧ x.parentGuid = some y.guid :=
  (edits_tableOk hs h₀ hrun).fetchTreeRows_spec itemGuid

omit hs in
theorem edits_fetchTree_sample :
    ∃ rows, fetchTreeRows Conn.sampleRun.db.bookmarks BookmarkRootGuid.toolbar.asGuid
        (Conn.sampleRun.db.bookmarks.length + 1) = some rows ∧ (rows.map Descendant.id).Nodup := by
  obtain ⟨rows, hrows, -, -, hnodup, -⟩ :=
    edits_fetchTree StorageEnv.sample_schema rfl Conn.sampleRun_edits BookmarkRootGuid.toolbar.asGuid
  exact ⟨rows, hrows, hnodup⟩

/-- On every table the local bookmark API builds from an empty `moz_bookmarks` that is not
empty, `fetch_tree` of the root prints, first, an error for the root's own row: its
`parentGuid` is `NULL`. -/
theorem edits_fetchTree_root {c₀ c : Conn} (h₀ : c₀.db.bookmarks = [])
    (hrun : Relation.ReflTransGen (Edit env allowed) c₀ c) (hne : c.db.bookmarks ≠ []) :
    ∃ out, fetchTree c.db BookmarkRootGuid.root.asGuid (c.db.bookmarks.length + 1) =
      some (throw (.err (.invalidColumnType "parentGuid")) :: out) :=
  (edits_tableOk hs h₀ hrun).fetchTree_root hne

omit hs in
theorem edits_fetchTree_root_sample :
    ∃ out, fetchTree Conn.sampleRun.db BookmarkRootGuid.root.asGuid
      (Conn.sampleRun.db.bookmarks.length + 1) =
        some (throw (.err (.invalidColumnType "parentGuid")) :: out) :=
  edits_fetchTree_root StorageEnv.sample_schema rfl Conn.sampleRun_edits (by decide)

end Runs

end BookmarkSync
