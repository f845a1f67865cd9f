import Mathlib.Logic.Basic
import Mathlib.Tactic.SplitIfs

/-!
# The PGBouncer multitenant database: `internal/tools/aws/database_multitenant_pgbouncer.go`

`RDSMultitenantPGBouncerDatabase` checks its configuration, picks the RDS tag value and the
database count limit by its database type, and leaves every operation on AWS undone: each
returns an error. The constants it compares with and answers (`model.DatabaseEngineTypeMySQL`
and `…Postgres`, the `DatabaseType…Aurora` tag values and the
`DefaultRDSMultitenantDatabase…CountLimit`s) are defined outside `src/`, so they are the fields
of a `Constants` record, and every theorem holds for every choice of them (the two engine types
being distinct where a theorem needs it).

`NewRDSMultitenantPGBouncerDatabase` builds an `RDSMultitenantDatabase`, a type of another file,
not the type this file defines; it is not modelled.

* `isValid_eq_ok_iff` — `IsValid` accepts exactly a set installation ID with one of the two
  engine types; `isValid_eq_error` — the installation ID is checked first, and each error names
  the field it found wrong.
* `databaseTypeTagValue_maxSupportedDatabases` — the tag value and the count limit are chosen by
  the same test: MySQL's for a MySQL database, Postgres' for every other type, one `IsValid`
  rejects included.
* `pgbouncer_operations_fail` — no operation on AWS succeeds, whatever the database and the
  store. The `pgbouncer.ini` the file generates is its base text: the loop over the databases
  has an empty body.
-/

namespace MattermostCloud.Aws

/-- The constants of the `model` and `aws` packages the file reads. -/
structure Constants where
  databaseEngineTypeMySQL : String
  databaseEngineTypePostgres : String
  databaseTypeMySQLAurora : String
  databaseTypePostgresSQLAurora : String
  defaultRDSMultitenantDatabaseMySQLCountLimit : Int
  defaultRDSMultitenantDatabasePostgresCountLimit : Int
  deriving DecidableEq, Repr

/-- The fields of `RDSMultitenantPGBouncerDatabase` its methods read. -/
structure RDSMultitenantPGBouncerDatabase where
  databaseType : String
  installationID : String
  instanceID : String
  deriving DecidableEq, Repr

section database

variable (k : Constants) (d : RDSMultitenantPGBouncerDatabase)

/-- `IsValid`: an installation ID, and one of the two engine types.
Source: `database_multitenant_pgbouncer.go` lines 37-51. -/
def isValid : Except String Unit :=
  if d.installationID.length = 0 then .error "installation ID is not set"
  else if d.databaseType = k.databaseEngineTypeMySQL ∨ d.databaseType = k.databaseEngineTypePostgres
  then .ok ()
  else .error ("invalid database type " ++ d.databaseType)

/-- `DatabaseTypeTagValue`. Source: `database_multitenant_pgbouncer.go` lines 53-61. -/
def databaseTypeTagValue : String :=
  if d.databaseType = k.databaseEngineTypeMySQL then k.databaseTypeMySQLAurora
  else k.databaseTypePostgresSQLAurora

/-- `MaxSupportedDatabases`. Source: `database_multitenant_pgbouncer.go` lines 63-71. -/
def maxSupportedDatabases : Int :=
  if d.databaseType = k.databaseEngineTypeMySQL then k.defaultRDSMultitenantDatabaseMySQLCountLimit
  else k.defaultRDSMultitenantDatabasePostgresCountLimit

/-- Go's `len(s) == 0`: a string has no characters exactly when it is empty. -/
theorem length_eq_zero_iff_eq_empty {s : String} : s.length = 0 ↔ s = "" :=
  ⟨fun h => String.ext (List.length_eq_zero.mp h), fun h => h ▸ rfl⟩

/-- **What `IsValid` accepts**: a set installation ID, and a database type that is one of the two
engine types. -/
theorem isValid_eq_ok_iff :
    isValid k d = .ok () ↔ d.installationID ≠ "" ∧
      (d.databaseType = k.databaseEngineTypeMySQL ∨
        d.databaseType = k.databaseEngineTypePostgres) := by
  unfold isValid
  split_ifs with h₁ h₂ <;> simp_all [length_eq_zero_iff_eq_empty]

/-- **The error `IsValid` gives names the field it found wrong**: an unset installation ID,
whatever the database type; otherwise a database type that is neither engine type, quoted. -/
theorem isValid_eq_error (e : String) :
    isValid k d = .error e ↔
      (d.installationID = "" ∧ e = "installation ID is not set") ∨
      (d.installationID ≠ "" ∧ d.databaseType ≠ k.databaseEngineTypeMySQL ∧
        d.databaseType ≠ k.databaseEngineTypePostgres ∧
        e = "invalid database type " ++ d.databaseType) := by
  unfold isValid
  by_cases h₁ : d.installationID = ""
  · simp [h₁, eq_comm]
  rw [if_neg fun h => h₁ (length_eq_zero_iff_eq_empty.mp h)]
  by_cases h₂ : d.databaseType = k.databaseEngineTypeMySQL ∨
      d.databaseType = k.databaseEngineTypePostgres
  · simp only [if_pos h₂]
    simpa [h₁] using fun ha hb => (h₂.elim ha hb).elim
  · rw [if_neg h₂]
    rw [not_or] at h₂
    simp [h₁, h₂, eq_comm]

/-- **The tag value and the count limit are chosen by one test**, the engine types being distinct:
a MySQL database gets MySQL's tag value and count limit, a Postgres database Postgres'; and a
database whose installation ID is set but which `IsValid` rejects gets Postgres' too, its type
being neither. -/
theorem databaseTypeTagValue_maxSupportedDatabases
    (hk : k.databaseEngineTypeMySQL ≠ k.databaseEngineTypePostgres) :
    (d.databaseType = k.databaseEngineTypeMySQL →
      (databaseTypeTagValue k d, maxSupportedDatabases k d) =
        (k.databaseTypeMySQLAurora, k.defaultRDSMultitenantDatabaseMySQLCountLimit)) ∧
    (d.databaseType = k.databaseEngineTypePostgres →
      (databaseTypeTagValue k d, maxSupportedDatabases k d) =
        (k.databaseTypePostgresSQLAurora, k.defaultRDSMultitenantDatabasePostgresCountLimit)) ∧
    (d.installationID ≠ "" → isValid k d ≠ .ok () →
      (databaseTypeTagValue k d, maxSupportedDatabases k d) =
        (k.databaseTypePostgresSQLAurora, k.defaultRDSMultitenantDatabasePostgresCountLimit)) := by
  refine ⟨fun h => by simp [databaseTypeTagValue, maxSupportedDatabases, h],
    fun h => by simp [databaseTypeTagValue, maxSupportedDatabases, h, Ne.symm hk],
    fun hid hbad => ?_⟩
  -- a rejected type with the ID set is neither engine type
  have hnot : d.databaseType ≠ k.databaseEngineTypeMySQL := fun h =>
    hbad ((isValid_eq_ok_iff k d).mpr ⟨hid, .inl h⟩)
  simp [databaseTypeTagValue, maxSupportedDatabases, hnot]

/-! ## The operations on AWS -/

/-- `Provision`. Source: `database_multitenant_pgbouncer.go` lines 73-77. -/
def provision : Except String Unit := .error "NOT DONE"

/-- `Snapshot`. Source: `database_multitenant_pgbouncer.go` lines 79-82. -/
def snapshot : Except String Unit := .error "not implemented"

/-- `GenerateDatabaseSecret`: no secret. Source: `database_multitenant_pgbouncer.go` lines 84-88. -/
def generateDatabaseSecret : Except String Unit := .error "NOT DONE"

/-- `Teardown`. Source: `database_multitenant_pgbouncer.go` lines 90-93. -/
def teardown (_keepData : Bool) : Except String Unit := .error "NOT DONE"

end database

/-- **No operation on AWS succeeds**, for every `keepData`: the four answer an error. -/
theorem pgbouncer_operations_fail (keepData : Bool) :
    ∀ op ∈ [provision, snapshot, generateDatabaseSecret, teardown keepData],
      ∃ e, op = Except.error e := by
  simp [provision, snapshot, generateDatabaseSecret, teardown]

/-- The base of `pgbouncer.ini`: the `[pgbouncer]` section, and the `[databases]` header.
Source: `database_multitenant_pgbouncer.go` lines 95-109. -/
def baseIni : String :=
  "\n[pgbouncer]\nlisten_addr = *\nlisten_port = 5432\nauth_file = /etc/userlist/userlist.txt\n" ++
  "admin_users = admin\nignore_startup_parameters = extra_float_digits\n" ++
  "pool_mode = transaction\nmin_pool_size = 20\ndefault_pool_size = 20\n" ++
  "reserve_pool_size = 5\nmax_client_conn = 10000\nmax_db_connections = 20\n[databases]\n"

/-- `generatePGBouncerIni`: the base text, then, for each database, the loop's empty body.
Source: `database_multitenant_pgbouncer.go` lines 111-119. -/
def generatePGBouncerIni : String :=
  ["blah"].foldl (fun ini _ => ini) baseIni

end MattermostCloud.Aws
