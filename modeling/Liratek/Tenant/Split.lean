import Liratek.Lib.Calls
import Mathlib.Algebra.Order.Ring.Rat
import Mathlib.Data.List.Sort
import Mathlib.Data.String.Basic

/-! The shared database split into a platform file and one file for each shop. -/

namespace Liratek.Tenant.Split
open Lib.Calls

inductive Value where
  | null
  | number (x : ℚ)
  | text (s : String)
  | blob (bytes : List UInt8)
  deriving DecidableEq, Repr

/-- `a = b`, which a null never meets. A `tenant_id` and an id are stored as numbers. -/
def sqlEq (a b : Value) : Bool :=
  a ≠ .null && a = b

/-- `a != b`, which a null never meets. -/
def sqlNe (a b : Value) : Bool :=
  a ≠ .null && b ≠ .null && a ≠ b

/-- The values of the columns, in their order. -/
abbrev Row := List Value

/-- Names are the same up to the case of their letters. -/
def sameName (a b : String) : Bool :=
  a.toList.map Char.toLower = b.toList.map Char.toLower

def cellOf : List String → Row → String → Value
  | column :: columns, value :: row, wanted => if sameName column wanted then value else cellOf columns row wanted
  | _, _, _ => .null

structure SqlTable where
  name : String
  columns : List String
  rows : List Row
  deriving DecidableEq, Repr

abbrev Database := List SqlTable

def SqlTable.cell (t : SqlTable) (column : String) (row : Row) : Value :=
  cellOf t.columns row column

def SqlTable.setCell (t : SqlTable) (column : String) (value : Value) (row : Row) : Row :=
  List.zipWith (fun name old => if sameName name column then value else old) t.columns row

def table? (db : Database) (name : String) : Option SqlTable :=
  db.find? fun t => sameName t.name name

/-- The table a statement names, with the columns it names. -/
def openTable (db : Database) (name : String) (columns : List String) : Except String SqlTable :=
  match table? db name with
  | none => .error ("no such table: " ++ name)
  | some t =>
    match columns.find? fun column => !t.columns.any (sameName column) with
    | some column => .error ("no such column: " ++ column)
    | none => .ok t

def alter (db : Database) (name : String) (change : SqlTable → List Row) : Database :=
  db.map fun t => if sameName t.name name then { t with rows := change t } else t

/-- `DELETE FROM name WHERE p` -/
def deleteFrom (db : Database) (name : String) (columns : List String) (p : SqlTable → Row → Bool) : Except String Database :=
  (openTable db name columns).map fun _ => alter db name fun t => t.rows.filter fun row => !p t row

/-! Names. -/

def expectedGlobalTables : List String :=
  ["users", "sessions", "audit_log"]

def specialCasedTables : List String :=
  ["tenants", "tenant_subscriptions"]

def platformOnlyTables : List String :=
  ["signup_invitations", "email_outbox", "sso_handoff_tokens", "signin_codes", "signin_directory"]

def knownTablesWithoutTenantId : List String :=
  ["tenants", "sync_queue", "sync_errors", "schema_migrations"] ++ platformOnlyTables

def litestreamTablePrefix : String := "_litestream_"

def isLitestreamTable (name : String) : Bool :=
  litestreamTablePrefix.toList.isPrefixOf name.toList

/-- `/^[A-Za-z_][A-Za-z0-9_]*$/` -/
def isSimpleIdentifier (name : String) : Bool :=
  match name.toList with
  | [] => false
  | first :: rest => (first.isAlpha || first = '_') && rest.all fun c => c.isAlphanum || c = '_'

/-- `LIKE 'sqlite_%'`, where `_` stands for any one character. -/
def likeSqlite (name : String) : Bool :=
  (name.toList.take 6).map Char.toLower = "sqlite".toList && 7 ≤ name.length

def quoteIdent (name : String) : Except String String :=
  if isSimpleIdentifier name then .ok name else .error ("Refusing to use unexpected table name in SQL: " ++ name)

/-- A table the database does not have has no columns. -/
def tableColumnNames (db : Database) (table : String) : List String :=
  ((table? db table).map (·.columns)).getD []

def tableExistsIn (db : Database) (table : String) : Bool :=
  db.any fun t => t.name = table

def SqlTable.hasTenantId (t : SqlTable) : Bool :=
  t.columns.contains "tenant_id"

def discoverTenantScopedTables (db : Database) : List String :=
  (db.filter fun t =>
    !likeSqlite t.name && t.name ≠ "tenants" && isSimpleIdentifier t.name && t.hasTenantId).map (·.name)

/-- The tables `LIKE 'sqlite_%'` and those of the replication are never a finding. -/
def scanned (db : Database) : List SqlTable :=
  db.filter fun t => !likeSqlite t.name && !isLitestreamTable t.name

def unsafeTables (db : Database) : List String :=
  ((scanned db).filter fun t => !isSimpleIdentifier t.name).map (·.name)

def unscopedTables (db : Database) : List String :=
  ((scanned db).filter fun t =>
    isSimpleIdentifier t.name && !knownTablesWithoutTenantId.contains t.name && !t.hasTenantId).map (·.name)

def discoverLitestreamTables (db : Database) : List String :=
  (db.filter fun t => !likeSqlite t.name && isLitestreamTable t.name && isSimpleIdentifier t.name).map (·.name)

def dropTables (db : Database) (tables : List String) : Database :=
  db.filter fun t => !tables.any (sameName t.name)

/-! The legacy impersonator rows. -/

def legacyImpersonatorTable : String := "audit_log"

def legacyImpersonatorColumn : String := "impersonator_id"

inductive Json where
  | stored (value : Value)
  | bool (b : Bool)
  | array (items : List Json)
  | object (fields : List (String × Json))

def setField (fields : List (String × Json)) (key : String) (value : Json) : List (String × Json) :=
  if fields.any (·.1 = key) then fields.map fun field => if field.1 = key then (key, value) else field
  else fields ++ [(key, value)]

/-- What JavaScript takes as false. -/
def Value.isFalsy (value : Value) : Bool :=
  value = .null || value = .number 0 || value = .text ""

structure RewrittenLegacyImpersonatorRow where
  table : String
  rowid : Value
  impersonatorUserId : Value
  deriving DecidableEq, Repr

section
variable (parse : Value → Option Json) (stringify : Json → String)

/-- Metadata that is no object is kept under a key of its own. -/
def existingMetadata (metadata : Value) : List (String × Json) :=
  if metadata.isFalsy then []
  else
    match parse metadata with
    | some (.object fields) => fields
    | _ => [("legacyMetadata", .stored metadata)]

def mergeLegacyImpersonatorMetadata (metadata impersonatorUsername impersonatorUserId : Value) : String :=
  stringify (.object (setField
    (setField (existingMetadata parse metadata) "impersonatedBy" (.stored impersonatorUsername))
    "impersonatorUserId" (.stored impersonatorUserId)))

/-- The name of the user of that id without a shop. -/
def platformUser (source : Database) (userId : Value) : Option Value :=
  (table? source "users").bind fun users =>
    (users.rows.find? fun row => sqlEq (users.cell "id" row) userId && users.cell "tenant_id" row = .null).map
      (users.cell "username")

def legacyRows (t : SqlTable) : List Row :=
  t.rows.filter fun row => t.cell legacyImpersonatorColumn row ≠ .null

/-- The update that one row read from the table leads to. -/
def rewriteLegacyRow (source : Database) (t : SqlTable) (rows : List Row) (row : Row) : List Row :=
  match platformUser source (t.cell legacyImpersonatorColumn row) with
  | none => rows
  | some username =>
    let metadata := mergeLegacyImpersonatorMetadata parse stringify (t.cell "metadata" row) username
      (t.cell legacyImpersonatorColumn row)
    rows.map fun other =>
      if sqlEq (t.cell "id" other) (t.cell "id" row) then
        t.setCell legacyImpersonatorColumn .null (t.setCell "metadata" (.text metadata) other)
      else other

def rewriteLegacyImpersonatorRows (file source : Database) :
    Except String (Database × List RewrittenLegacyImpersonatorRow) :=
  if !(tableColumnNames file legacyImpersonatorTable).contains legacyImpersonatorColumn then .ok (file, [])
  else
    (openTable file legacyImpersonatorTable ["id", "metadata"]).bind fun t =>
      match legacyRows t with
      | [] => .ok (file, [])
      | rows =>
        (openTable source "users" ["username", "id", "tenant_id"]).map fun _ =>
          (alter file legacyImpersonatorTable fun t => rows.foldl (rewriteLegacyRow parse stringify source t) t.rows,
            (rows.filter fun row => (platformUser source (t.cell legacyImpersonatorColumn row)).isSome).map fun row =>
              { table := legacyImpersonatorTable
                rowid := t.cell "id" row
                impersonatorUserId := t.cell legacyImpersonatorColumn row })

/-! The files. -/

structure NarrowToTenantOptions where
  sourceDb : Database
  keepOwnSubscriptionRow : Bool := false
  tenantScopedTables : Option (List String) := none
  litestreamTables : Option (List String) := none

/-- Rows of other shops and of no shop leave a table. -/
def deleteOtherShops (tenantId : Value) (db : Database) (table : String) : Except String Database :=
  if specialCasedTables.contains table then .ok db
  else
    (quoteIdent table).bind fun table =>
      deleteFrom db table ["tenant_id"] fun t row =>
        t.cell "tenant_id" row = .null || sqlNe (t.cell "tenant_id" row) tenantId

def deleteSubscriptions (tenantId : Value) (keepOwn : Bool) (db : Database) : Except String Database :=
  if keepOwn then
    deleteFrom db "tenant_subscriptions" ["tenant_id"] fun t row =>
      t.cell "tenant_id" row = .null || sqlNe (t.cell "tenant_id" row) tenantId
  else deleteFrom db "tenant_subscriptions" [] fun _ _ => true

def deletePlatformOnly (db : Database) (table : String) : Except String Database :=
  if tableExistsIn db table then deleteFrom db table [] fun _ _ => true else .ok db

/-- In one transaction, with foreign keys off. -/
def narrowToTenant (db : Database) (tenantId : Value) (opts : NarrowToTenantOptions) :
    Except String (Database × List RewrittenLegacyImpersonatorRow) :=
  if unsafeTables db ≠ [] ∨ unscopedTables db ≠ [] then
    .error ("narrowToTenant: refusing — tables would be copied unfiltered: " ++
      ", ".intercalate (unscopedTables db ++ unsafeTables db))
  else
    (each (deleteOtherShops tenantId) db (opts.tenantScopedTables.getD (discoverTenantScopedTables db))).bind fun narrowed =>
      (deleteFrom narrowed "tenants" ["id"] fun t row => sqlNe (t.cell "id" row) tenantId).bind fun own =>
        (deleteSubscriptions tenantId opts.keepOwnSubscriptionRow own).bind fun unsubscribed =>
          (each deletePlatformOnly unsubscribed platformOnlyTables).bind fun shop =>
            (rewriteLegacyImpersonatorRows parse stringify shop opts.sourceDb).map fun (rewritten, report) =>
              (dropTables rewritten (opts.litestreamTables.getD (discoverLitestreamTables db)), report)

/-- The copy holds what the source does. -/
def buildTenantFile (sourceDb : Database) (tenantScopedTables litestreamTables : List String) (tenantId : Value) :
    Except String (Database × List RewrittenLegacyImpersonatorRow) :=
  narrowToTenant parse stringify sourceDb tenantId
    { sourceDb, tenantScopedTables := some tenantScopedTables, litestreamTables := some litestreamTables }

def deleteShops (db : Database) (table : String) : Except String Database :=
  if table = "tenant_subscriptions" then .ok db
  else
    (quoteIdent table).bind fun table =>
      deleteFrom db table ["tenant_id"] fun t row => t.cell "tenant_id" row ≠ .null

def buildPlatformFile (sourceDb : Database) (tenantScopedTables litestreamTables : List String) : Except String Database :=
  (each deleteShops sourceDb tenantScopedTables).map fun file => dropTables file litestreamTables

structure Files where
  platform : Database
  tenants : List (Value × Database)
  deriving DecidableEq

/-- A copy is not written over a file that is there. -/
def buildTenantFiles (sourceDb : Database) (tenantScopedTables litestreamTables : List String) :
    List Value → Except String (List (Value × Database) × List RewrittenLegacyImpersonatorRow)
  | [] => .ok ([], [])
  | id :: ids =>
    if id ∈ ids then .error "output file already exists"
    else
      (buildTenantFile parse stringify sourceDb tenantScopedTables litestreamTables id).bind fun (file, rewritten) =>
        (buildTenantFiles sourceDb tenantScopedTables litestreamTables ids).map fun (files, others) =>
          ((id, file) :: files, rewritten ++ others)

end

/-! The verification. -/

inductive Scope where
  | tenant (id : Value)
  | platformGlobal
  | platformRetention
  | tenantEmpty (id : Value)
  | tenantMirror (id : Value)
  deriving DecidableEq, Repr

structure TableCountFinding where
  table : String
  scope : Scope
  expected : Nat
  actual : Nat
  deriving DecidableEq, Repr

def countWhere (db : Database) (table : String) (columns : List String) (p : SqlTable → Row → Bool) : Except String Nat :=
  (quoteIdent table).bind fun table => (openTable db table columns).map fun t => (t.rows.filter (p t)).length

def countAll (db : Database) (table : String) : Except String Nat :=
  (quoteIdent table).bind fun table => (openTable db table []).map fun t => t.rows.length

def ofTenant (id : Value) (t : SqlTable) (row : Row) : Bool :=
  sqlEq (t.cell "tenant_id" row) id

def ofNoTenant (t : SqlTable) (row : Row) : Bool :=
  t.cell "tenant_id" row = .null

def finding (table : String) (scope : Scope) (expected actual : Except String Nat) : Except String TableCountFinding :=
  expected.bind fun expected => actual.map fun actual => { table, scope, expected, actual }

/-- Each shop's file, then the platform's. -/
def scopedFindings (sourceDb : Database) (files : Files) (table : String) : Except String (List TableCountFinding) :=
  (gather (fun (id, file) =>
    finding table (.tenant id) (countWhere sourceDb table ["tenant_id"] (ofTenant id)) (countAll file table)) files.tenants).bind
      fun shops =>
        (finding table .platformGlobal (countWhere sourceDb table ["tenant_id"] ofNoTenant) (countAll files.platform table)).map
          fun platform => shops ++ [platform]

/-- The platform keeps all, a shop keeps `kept`. -/
def retentionFindings (sourceDb : Database) (files : Files) (scope : Value → Scope) (kept : Nat) (table : String) :
    Except String (List TableCountFinding) :=
  (finding table .platformRetention (countAll sourceDb table) (countAll files.platform table)).bind fun platform =>
    (gather (fun (id, file) => finding table (scope id) (.ok kept) (countAll file table)) files.tenants).map
      fun shops => platform :: shops

def allFindings (sourceDb : Database) (files : Files) : Except String (List TableCountFinding) :=
  (gather (scopedFindings sourceDb files)
    ((discoverTenantScopedTables sourceDb).filter fun table => table ≠ "tenant_subscriptions")).bind fun narrowed =>
      (retentionFindings sourceDb files .tenantEmpty 0 "tenant_subscriptions").bind fun subscriptions =>
        (gather (retentionFindings sourceDb files .tenantEmpty 0)
          (platformOnlyTables.filter (tableExistsIn sourceDb))).bind fun platformOnly =>
            (retentionFindings sourceDb files .tenantMirror 1 "tenants").map fun tenants =>
              narrowed.flatten ++ subscriptions ++ platformOnly.flatten ++ tenants

structure GlobalRows where
  table : String
  nullRowCount : Nat
  deriving DecidableEq, Repr

def unexpectedGlobalRows (sourceDb : Database) : Except String (List GlobalRows) :=
  (gather (fun table => (countWhere sourceDb table ["tenant_id"] ofNoTenant).map fun nullRowCount => { table, nullRowCount })
    ((discoverTenantScopedTables sourceDb).filter fun table =>
      !expectedGlobalTables.contains table && table ≠ "tenant_subscriptions")).map
    fun counts => counts.filter fun count => 0 < count.nullRowCount

structure ForeignKeyViolationRow where
  table : String
  rowid : Option ℤ
  parent : String
  fkid : Nat
  deriving DecidableEq, Repr

structure FileCheck where
  foreignKeyViolations : Nat
  foreignKeyViolationRows : List ForeignKeyViolationRow
  integrityCheck : String
  deriving DecidableEq, Repr

def maxReportedFkViolationRows : Nat := 50

structure TenantSplitReport where
  dryRun : Bool
  tenantIds : List Value
  tenantScopedTables : List String
  verifiedCounts : List TableCountFinding := []
  mismatches : List TableCountFinding := []
  unexpectedGlobalRows : List GlobalRows
  unexpectedTablesWithoutTenantId : List String
  unsafeTableNames : List String
  droppedReplicationTables : List String
  rewrittenLegacyImpersonatorRows : List RewrittenLegacyImpersonatorRow := []
  fileChecks : List FileCheck := []
  ok : Bool
  deriving DecidableEq

structure TenantSplitOptions where
  /-- none when there is no file at the path -/
  source : Option Database
  /-- what the output directory holds -/
  outputEntries : List String := []
  write : Bool := false

def numberOf : Value → ℚ
  | .number x => x
  | _ => 0

/-- `SELECT id FROM tenants ORDER BY id` -/
def selectTenantIds (sourceDb : Database) : Except String (List Value) :=
  (openTable sourceDb "tenants" ["id"]).map fun t =>
    (t.rows.map (t.cell "id")).insertionSort fun a b => numberOf a ≤ numberOf b

section
variable (parse : Value → Option Json) (stringify : Json → String)
  (foreignKeyCheck : Database → List ForeignKeyViolationRow) (integrityCheck : Database → String)

def checkFileIntegrity (file : Database) : FileCheck where
  foreignKeyViolations := (foreignKeyCheck file).length
  foreignKeyViolationRows := (foreignKeyCheck file).take maxReportedFkViolationRows
  integrityCheck := integrityCheck file

def FileCheck.failed (check : FileCheck) : Bool :=
  0 < check.foreignKeyViolations || check.integrityCheck ≠ "ok"

/-- What the split finds out about the source. -/
def plannedReport (sourceDb : Database) (tenantIds : List Value) (unexpected : List GlobalRows) (write ok : Bool) :
    TenantSplitReport where
  dryRun := !write
  tenantIds := tenantIds
  tenantScopedTables := discoverTenantScopedTables sourceDb
  unexpectedGlobalRows := unexpected
  unexpectedTablesWithoutTenantId := unscopedTables sourceDb
  unsafeTableNames := unsafeTables sourceDb
  droppedReplicationTables := discoverLitestreamTables sourceDb
  ok := ok

def buildFiles (sourceDb : Database) (tenantIds : List Value) :
    Except String (Files × List RewrittenLegacyImpersonatorRow) :=
  (buildTenantFiles parse stringify sourceDb (discoverTenantScopedTables sourceDb) (discoverLitestreamTables sourceDb)
    tenantIds).bind fun (tenants, rewritten) =>
      (buildPlatformFile sourceDb (discoverTenantScopedTables sourceDb) (discoverLitestreamTables sourceDb)).map
        fun platform => ({ platform, tenants }, rewritten)

/-- The report of a split that was written, from what was counted in its files. -/
def writtenReport (sourceDb : Database) (tenantIds : List Value) (unexpected : List GlobalRows) (files : Files)
    (rewritten : List RewrittenLegacyImpersonatorRow) (findings : List TableCountFinding) : TenantSplitReport :=
  let mismatches := findings.filter fun f => f.expected ≠ f.actual
  let fileChecks := (files.platform :: files.tenants.map (·.2)).map (checkFileIntegrity foreignKeyCheck integrityCheck)
  { plannedReport sourceDb tenantIds unexpected true
      (mismatches.isEmpty && unexpected.isEmpty && (fileChecks.filter (·.failed)).isEmpty &&
        (unsafeTables sourceDb).isEmpty && (unscopedTables sourceDb).isEmpty) with
    verifiedCounts := findings.filter fun f => f.expected = f.actual
    mismatches := mismatches
    rewrittenLegacyImpersonatorRows := rewritten
    fileChecks := fileChecks }

/-- The report, and the files when they were written. -/
def splitTenantDatabase (options : TenantSplitOptions) : Except String (TenantSplitReport × Option Files) :=
  match options.source with
  | none => .error "Source database not found"
  | some sourceDb =>
    if options.outputEntries ≠ [] then .error "Refusing to write into a non-empty output directory"
    else
      (selectTenantIds sourceDb).bind fun tenantIds =>
        (unexpectedGlobalRows sourceDb).bind fun unexpected =>
          if unsafeTables sourceDb ≠ [] ∨ unscopedTables sourceDb ≠ [] then
            .ok (plannedReport sourceDb tenantIds unexpected options.write false, none)
          else if !options.write then
            .ok (plannedReport sourceDb tenantIds unexpected false unexpected.isEmpty, none)
          else
            (buildFiles parse stringify sourceDb tenantIds).bind fun (files, rewritten) =>
              (allFindings sourceDb files).map fun findings =>
                (writtenReport foreignKeyCheck integrityCheck sourceDb tenantIds unexpected files rewritten findings, some files)

end

end Liratek.Tenant.Split
