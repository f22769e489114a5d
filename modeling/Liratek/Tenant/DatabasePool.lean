import Liratek.Lib.Entries
import Liratek.Lib.Table
import Mathlib.Algebra.Order.Group.Int

/-! The pool of connections to the databases of the tenants. It opens, migrates, keeps and closes one connection for a tenant. -/

namespace Liratek.Tenant.DatabasePool
open Lib

structure Connection where
  tenantId : ℕ
  isMigrated : Bool := false
  isOpen : Bool := true
  inTransaction : Bool := false
  deriving DecidableEq, Repr

structure PoolEntry where
  /-- the number of the connection -/
  db : ℕ
  lastUsedAt : ℤ
  deriving DecidableEq, Repr

/-- What has happened, the last first. -/
inductive Event where
  | closed (db : ℕ) (wasInTransaction atShutdown : Bool)
  /-- the close has thrown -/
  | leaked (db : ℕ)
  deriving DecidableEq, Repr

structure System where
  /-- every connection that was ever opened -/
  connections : Table Connection := {}
  entries : Entries ℕ PoolEntry := .empty
  /-- the tenants whose migration threw, with its error -/
  poisoned : Entries ℕ String := .empty
  /-- the tenants with a database file -/
  existsSync : ℕ → Bool := fun _ => false
  log : List Event := []

/-- What a call meets outside the pool. -/
structure Outside where
  clock : ℤ
  openDatabase : Except String Unit
  migrate : Except String Unit
  closeFails : ℕ → Bool

section
variable (filePath : ℕ → String) (maxOpen : ℕ) (idleMs : ℤ)

namespace System
variable (s : System) (outside : Outside)

def inTransaction (db : ℕ) : Bool :=
  (s.connections.get db).any (·.inTransaction)

/-- An open transaction goes with its connection. -/
def closeConnection (db : ℕ) (atShutdown : Bool) : System :=
  if outside.closeFails db then { s with log := .leaked db :: s.log }
  else
    { s with
      connections := s.connections.update db fun c => { c with isOpen := false, inTransaction := false }
      log := .closed db (s.inTransaction db) atShutdown :: s.log }

def removeEntry (tenantId : ℕ) : System :=
  { s with entries := s.entries.erase tenantId }

def closeOne (tenantId : ℕ) : System :=
  match s.entries.get tenantId with
  | none => s
  | some entry => if s.inTransaction entry.db then s else (s.closeConnection outside entry.db false).removeEntry tenantId

/-- The least recently used entry that is not in a transaction. -/
def leastRecent (entries : List (ℕ × PoolEntry)) : Option (ℕ × PoolEntry) :=
  entries.foldl
    (fun lru entry =>
      if s.inTransaction entry.2.db then lru
      else
        match lru with
        | none => some entry
        | some first => if entry.2.lastUsedAt < first.2.lastUsedAt then some entry else some first)
    none

def enforceMaxOpen : System :=
  if s.entries.size ≤ maxOpen then s
  else
    match s.leastRecent s.entries.list with
    | none => s
    | some (tenantId, _) => s.closeOne outside tenantId

def missingFile (tenantId : ℕ) : String :=
  "TenantDatabasePool: no database file for tenant " ++ tenantId.repr ++ " at " ++ filePath tenantId ++ ". " ++
    "Provisioning a missing tenant database is out of scope here — this pool never creates one."

def openConnection (tenantId : ℕ) : System :=
  { s with connections := s.connections.insert { tenantId } }

/-- The connection is migrated, and an entry from now on. -/
def keepConnection (tenantId db : ℕ) : System :=
  { s with
    connections := s.connections.update db fun c => { c with isMigrated := true }
    entries := s.entries.set tenantId { db, lastUsedAt := outside.clock } }

/-- The connection of a tenant, opened and migrated on first use. -/
def get (tenantId : ℕ) : System × Except String ℕ :=
  match s.entries.get tenantId with
  | some cached => ({ s with entries := s.entries.set tenantId { cached with lastUsedAt := outside.clock } }, .ok cached.db)
  | none =>
    match s.poisoned.get tenantId with
    | some error => (s, .error error)
    | none =>
      if !s.existsSync tenantId then (s, .error (missingFile filePath tenantId))
      else
        match outside.openDatabase with
        -- a factory that throws has closed what it opened
        | .error error => (s, .error error)
        | .ok _ =>
          let db := s.connections.nextId
          let opened := s.openConnection tenantId
          match outside.migrate with
          | .error error =>
            ({ opened with poisoned := opened.poisoned.set tenantId error }.closeConnection outside db false, .error error)
          | .ok _ => ((opened.keepConnection outside tenantId db).enforceMaxOpen maxOpen outside, .ok db)

def closeIdle : System :=
  s.entries.list.foldl
    (fun s entry =>
      if s.inTransaction entry.2.db then s
      else if idleMs ≤ outside.clock - entry.2.lastUsedAt then s.closeOne outside entry.1
      else s)
    s

/-- Whether there was a connection to close. -/
def evict (tenantId : ℕ) : System × Except String Bool :=
  match s.entries.get tenantId with
  | none => (s, .ok false)
  | some entry =>
    if s.inTransaction entry.db then
      (s, .error ("TenantDatabasePool: cannot evict tenant " ++ tenantId.repr ++ " while a transaction is in progress"))
    else ((s.closeConnection outside entry.db false).removeEntry tenantId, .ok true)

/-- At shutdown: a transaction does not stop it. -/
def closeAll : System :=
  s.entries.keys.foldl
    (fun s tenantId =>
      match s.entries.get tenantId with
      | none => s
      | some entry => (s.closeConnection outside entry.db true).removeEntry tenantId)
    s

def resetPoisoned (tenantId : ℕ) : System :=
  { s with poisoned := s.poisoned.erase tenantId }

/-- A caller begins or ends a transaction on a connection that it holds. -/
def setTransaction (db : ℕ) (begins : Bool) : System :=
  { s with connections := (s.connections.updateIf db (·.isOpen) fun c => { c with inTransaction := begins }).1 }

end System

inductive Action where
  | get (tenantId : ℕ) (outside : Outside)
  | closeIdle (outside : Outside)
  | evict (tenantId : ℕ) (outside : Outside)
  | closeAll (outside : Outside)
  | resetPoisoned (tenantId : ℕ)
  | setTransaction (db : ℕ) (begins : Bool)
  /-- a database file is made or moved away -/
  | setFile (tenantId : ℕ) (isThere : Bool)

def exec (s : System) : Action → System
  | .get tenantId outside => (s.get filePath maxOpen outside tenantId).1
  | .closeIdle outside => s.closeIdle idleMs outside
  | .evict tenantId outside => (s.evict outside tenantId).1
  | .closeAll outside => s.closeAll outside
  | .resetPoisoned tenantId => s.resetPoisoned tenantId
  | .setTransaction db begins => s.setTransaction db begins
  | .setFile tenantId isThere => { s with existsSync := Function.update s.existsSync tenantId isThere }

end

end Liratek.Tenant.DatabasePool
