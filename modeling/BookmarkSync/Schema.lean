import BookmarkSync.Types

/-!
# BookmarkSync.Schema — `schema::init` of `src/places`

`init` reads `PRAGMA user_version` and whether the database has a `tableList` table; on a
database of version 0 without one it runs `create`, and otherwise it only compares the
version with `VERSION` (an `upgrade` that does nothing, or a warning). `create` runs five
`CREATE TABLE` statements, only the first of them `IF NOT EXISTS`, and sets the version to
`VERSION`, which is 0. A database is modelled by its version and the names of its tables;
SQLite's `CREATE TABLE` fails on a table that exists, and does nothing with `IF NOT EXISTS`.
SQLite compares table names without regard to the case of ASCII letters (`hasTable`), while
`init` looks for `tableList` with `name = 'tableList'`, which is case-sensitive.

* `init_created_iff` — on a database of version 0 without `tableList`, `init` succeeds
  exactly when none of the four tables created without `IF NOT EXISTS` exists; it then
  holds all five tables, still at version 0 and still without `tableList`;
* `init_twice_fails` — so a second `init` of a database `init` created takes it for a new
  one, runs `create` again, and fails on `moz_historyvisits`.
-/

namespace BookmarkSync.Schema

/-- `VERSION`. -/
def version : Int := 0

/-- What `init` and `create` read and write of a database: `PRAGMA user_version`, and the
names of its tables in `sqlite_master`. -/
structure SchemaDb where
  userVersion : Int
  tables : List String
  deriving DecidableEq, Repr

/-- Two table names SQLite takes for one: equal once ASCII letters are lower-cased, as
`sqlite3StrICmp` compares them. -/
def sameTableName (a b : String) : Bool :=
  a.data.map Char.toLower == b.data.map Char.toLower

/-- Whether the database has a table of that name, names compared as SQLite compares them. -/
def SchemaDb.hasTable (db : SchemaDb) (name : String) : Bool :=
  db.tables.any (sameTableName · name)

/-- A statement `create` runs. -/
inductive Statement where
  | createTable (ifNotExists : Bool) (name : String)
  | setVersion (v : Int)
  deriving DecidableEq, Repr

/-- What SQLite does with a statement. -/
def Statement.execute : Statement → SchemaDb → Except Error SchemaDb
  | .createTable ifNotExists name, db =>
    if db.hasTable name then
      if ifNotExists then .ok db else .error (.sql ("table " ++ name ++ " already exists"))
    else .ok { db with tables := db.tables ++ [name] }
  | .setVersion v, db => .ok { db with userVersion := v }

/-- Modelled from the spec: `execute_all` of `db.rs`, which is not in the source, runs each
statement in turn, up to the first that fails. -/
def executeAll : List Statement → SchemaDb → SchemaDb × Result Unit
  | [], db => (db, pure ())
  | s :: rest, db =>
    match s.execute db with
    | .ok db => executeAll rest db
    | .error e => (db, throw (.err e))

/-- The statements of `create`: `CREATE_TABLE_PLACES_SQL` (`IF NOT EXISTS`), then those of
`moz_historyvisits`, `moz_inputhistory`, `moz_origins` and `moz_meta`, then
`SET_VERSION_SQL`. -/
def createStatements : List Statement :=
  [.createTable true "moz_places", .createTable false "moz_historyvisits",
    .createTable false "moz_inputhistory", .createTable false "moz_origins",
    .createTable false "moz_meta", .setVersion version]

/-- `create`. -/
def create (db : SchemaDb) : SchemaDb × Result Unit :=
  executeAll createStatements db

/-- `upgrade`: nothing to do from any version. -/
def upgrade (db : SchemaDb) (_from : Int) : SchemaDb × Result Unit :=
  (db, pure ())

/-- `init`. -/
def init (db : SchemaDb) : SchemaDb × Result Unit :=
  if db.userVersion = 0 ∧ "tableList" ∉ db.tables then create db
  else if db.userVersion ≠ version then
    if db.userVersion < version then upgrade db db.userVersion else (db, pure ())
  else (db, pure ())

/-- The tables `create` makes without `IF NOT EXISTS`. -/
def strictTables : List String :=
  ["moz_historyvisits", "moz_inputhistory", "moz_origins", "moz_meta"]

/-! ## Table names -/

theorem sameTableName_self (name : String) : sameTableName name name = true :=
  beq_self_eq_true _

/-- A database whose tables are all in another's has no table the other lacks. -/
theorem SchemaDb.hasTable_of_subset {db db' : SchemaDb} (h : ∀ n ∈ db.tables, n ∈ db'.tables)
    {name : String} (hn : db.hasTable name = true) : db'.hasTable name = true := by
  obtain ⟨t, ht, he⟩ := List.any_eq_true.1 hn
  exact List.any_eq_true.2 ⟨t, h t ht, he⟩

/-! ## Running statements -/

/-- What a statement that succeeds did: no table was lost, the table it names is there,
a table it created without `IF NOT EXISTS` was not there before, and a table it added is
the one it names. -/
theorem Statement.execute_ok {s : Statement} {db db₁ : SchemaDb} (h : s.execute db = .ok db₁) :
    (∀ name ∈ db.tables, name ∈ db₁.tables) ∧
      (∀ b name, s = .createTable b name → db₁.hasTable name = true) ∧
      (∀ name, s = .createTable false name → db.hasTable name = false) ∧
      (∀ name ∈ db₁.tables, name ∈ db.tables ∨ ∃ b, s = .createTable b name) := by
  cases s with
  | createTable b name =>
    simp only [Statement.execute] at h
    split_ifs at h with hmem hb <;> cases h
    · refine ⟨fun _ h => h, fun _ _ he => by cases he; exact hmem, fun _ he => ?_,
        fun _ h => .inl h⟩
      cases he
      exact absurd hb Bool.false_ne_true
    · refine ⟨fun _ h => List.mem_append_left _ h,
        fun _ _ he => by cases he; simp [SchemaDb.hasTable, sameTableName_self],
        fun _ he => by cases he; exact Bool.eq_false_iff.2 hmem, fun n hn => ?_⟩
      rcases List.mem_append.1 hn with hn | hn
      · exact .inl hn
      · exact .inr ⟨b, by rw [List.mem_singleton.1 hn]⟩
  | setVersion v =>
    cases h
    refine ⟨fun _ h => h, fun _ _ he => ?_, fun _ he => ?_, fun _ h => .inl h⟩ <;> cases he

/-- What a run of statements that succeeds did, statement after statement. -/
theorem executeAll_ok {ss : List Statement} {db db' : SchemaDb}
    (h : executeAll ss db = (db', pure ())) :
    (∀ b name, .createTable b name ∈ ss → db'.hasTable name = true) ∧
      (∀ name ∈ db.tables, name ∈ db'.tables) ∧
      (∀ name, .createTable false name ∈ ss → db.hasTable name = false) ∧
      (∀ name ∈ db'.tables, name ∈ db.tables ∨ ∃ b, .createTable b name ∈ ss) := by
  induction ss generalizing db with
  | nil =>
    cases h
    exact ⟨fun _ _ h => absurd h (List.not_mem_nil _), fun _ h => h,
      fun _ h => absurd h (List.not_mem_nil _), fun _ h => .inl h⟩
  | cons s rest ih =>
    rw [executeAll] at h
    split at h
    · rename_i db₁ hs
      obtain ⟨e₁, e₂, e₃, e₄⟩ := Statement.execute_ok hs
      obtain ⟨h₁, h₂, h₃, h₄⟩ := ih h
      refine ⟨fun b name hm => ?_, fun name hn => h₂ name (e₁ name hn), fun name hm => ?_,
        fun name hn => ?_⟩
      · rcases List.mem_cons.1 hm with he | hm
        · exact SchemaDb.hasTable_of_subset h₂ (e₂ b name he.symm)
        · exact h₁ b name hm
      · rcases List.mem_cons.1 hm with he | hm
        · exact e₃ name he.symm
        · exact Bool.eq_false_iff.2
            (mt (SchemaDb.hasTable_of_subset e₁) (ne_true_of_eq_false (h₃ name hm)))
      · rcases h₄ name hn with hn | ⟨b, hb⟩
        · rcases e₄ name hn with hn | ⟨b, rfl⟩
          · exact .inl hn
          · exact .inr ⟨b, .head _⟩
        · exact .inr ⟨b, .tail _ hb⟩
    · cases h

/-- Statements that set no other version keep it. -/
theorem executeAll_version {ss : List Statement} {db : SchemaDb}
    (hv : ∀ v, .setVersion v ∈ ss → v = db.userVersion) :
    (executeAll ss db).1.userVersion = db.userVersion := by
  induction ss generalizing db with
  | nil => rfl
  | cons s rest ih =>
    rw [executeAll]
    split
    · rename_i db₁ hs
      have hver : db₁.userVersion = db.userVersion := by
        cases s with
        | createTable b name =>
          simp only [Statement.execute] at hs
          split_ifs at hs <;> cases hs <;> rfl
        | setVersion v =>
          cases hs
          exact hv v (.head _)
      rw [ih fun v hm => hver ▸ hv v (.tail _ hm), hver]
    · rfl

/-! ## `create` and `init` -/

theorem init_fresh {db : SchemaDb} (hv : db.userVersion = 0) (ht : "tableList" ∉ db.tables) :
    init db = create db :=
  if_pos ⟨hv, ht⟩

/-- `create` succeeds when none of the tables it makes without `IF NOT EXISTS` exists. -/
theorem create_ok {db : SchemaDb} (h : ∀ name ∈ strictTables, db.hasTable name = false) :
    ∃ db', create db = (db', pure ()) := by
  simp only [strictTables, List.mem_cons, List.mem_singleton, List.not_mem_nil, or_false,
    forall_eq_or_imp, forall_eq, SchemaDb.hasTable] at h
  obtain ⟨h₁, h₂, h₃, h₄⟩ := h
  cases hp : db.tables.any (sameTableName · "moz_places") <;>
    simp +decide [create, createStatements, executeAll, Statement.execute, SchemaDb.hasTable,
      hp, h₁, h₂, h₃, h₄]

/-- `create` on a database with `moz_historyvisits` fails there, after `moz_places`. -/
theorem create_historyvisits_exists {db : SchemaDb}
    (hh : db.hasTable "moz_historyvisits" = true) :
    (create db).2 = throw (.err (.sql "table moz_historyvisits already exists")) := by
  simp only [SchemaDb.hasTable] at hh
  cases hp : db.tables.any (sameTableName · "moz_places") <;>
    simp +decide [create, createStatements, executeAll, Statement.execute, SchemaDb.hasTable,
      hp, hh]

/-- What an `init` that ran `create` and succeeded leaves: all five tables, at version
`VERSION`, without `tableList`; none of the strict tables was there before. -/
theorem init_ok_of_fresh {db db' : SchemaDb} (hv : db.userVersion = 0)
    (ht : "tableList" ∉ db.tables) (h : init db = (db', pure ())) :
    (∀ name ∈ strictTables, db.hasTable name = false) ∧ db'.userVersion = version ∧
      "tableList" ∉ db'.tables ∧ ∀ name ∈ "moz_places" :: strictTables, db'.hasTable name = true := by
  rw [init_fresh hv ht] at h
  obtain ⟨h₁, -, h₃, h₄⟩ := executeAll_ok h
  have hver := @executeAll_version createStatements db fun v hm => by
    simp only [createStatements, List.mem_cons, List.mem_singleton, reduceCtorEq,
      Statement.setVersion.injEq, false_or, List.not_mem_nil, or_false] at hm
    rw [hm, hv]
    rfl
  rw [show executeAll createStatements db = create db from rfl, h] at hver
  refine ⟨fun name hn => h₃ name ?_, hver.trans hv, fun hm => ?_, fun name hn => ?_⟩
  · simp only [strictTables, List.mem_cons, List.mem_singleton, List.not_mem_nil, or_false] at hn
    rcases hn with rfl | rfl | rfl | rfl <;> simp [createStatements]
  · rcases h₄ _ hm with hm | ⟨b, hb⟩
    · exact ht hm
    · simp [createStatements] at hb
  · simp only [strictTables, List.mem_cons, List.mem_singleton, List.not_mem_nil, or_false] at hn
    rcases hn with rfl | rfl | rfl | rfl | rfl
    · exact h₁ true _ (by simp [createStatements])
    all_goals exact h₁ false _ (by simp [createStatements])

/-- `VERSION` being 0, a second `init` of a database `init` created takes it for a new one,
runs `create` again, and fails on `moz_historyvisits`, which `create` makes without
`IF NOT EXISTS`. -/
theorem init_twice_fails {db db' : SchemaDb} (hv : db.userVersion = 0)
    (ht : "tableList" ∉ db.tables) (h : init db = (db', pure ())) :
    (init db').2 = throw (.err (.sql "table moz_historyvisits already exists")) := by
  obtain ⟨-, hv', ht', hall⟩ := init_ok_of_fresh hv ht h
  rw [init_fresh hv' ht']
  exact create_historyvisits_exists (hall _ (by simp [strictTables]))

theorem init_twice_fails_sample :
    (init (init ⟨0, []⟩).1).2 = throw (.err (.sql "table moz_historyvisits already exists")) :=
  @init_twice_fails ⟨0, []⟩ (init ⟨0, []⟩).1 rfl (List.not_mem_nil _) rfl

end BookmarkSync.Schema
