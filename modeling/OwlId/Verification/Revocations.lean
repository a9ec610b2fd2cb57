import Mathlib
import OwlId.Lib.Table

/-! # The revocation repository

A database table keyed by credential id, and an in-memory set of the ids that the
verification path looks up.  Every operation is a database statement followed by
a separate update of the set; the two halves are kept apart here, since concurrent
callers interleave between them.
-/

namespace OwlId.Verification

open OwlId.Lib

/-! ## The table -/

/-- The values the column's `CHECK` admits. -/
inductive RevocationStatus where
  | revoked
  | suspended
  | active
deriving DecidableEq

/-- Rows the cache is loaded from: `status IN ('revoked', 'suspended')`. -/
def RevocationStatus.isBlocking : RevocationStatus → Bool
  | .revoked | .suspended => true
  | .active => false

structure Revocation where
  credentialId : String
  issuerPublicKey : String
  status : RevocationStatus
  reason : Option String
  expiresAt : Option Int
deriving DecidableEq

abbrev RevocationTable := Table Revocation.credentialId

namespace RevocationTable

/-- `INSERT … ON CONFLICT DO UPDATE`: an old row keeps its issuer and its expiry. -/
def upsert (table : RevocationTable) (new : Revocation) : RevocationTable :=
  match table.find new.credentialId with
  | some row => table.insert { row with status := new.status, reason := new.reason }
  | none => table.insert new

def revoke (table : RevocationTable) (credentialId issuerPublicKey : String)
    (reason : Option String) (expiresAt : Option Int) : RevocationTable :=
  table.upsert ⟨credentialId, issuerPublicKey, .revoked, reason, expiresAt⟩

def suspend (table : RevocationTable) (credentialId issuerPublicKey : String)
    (reason : Option String) : RevocationTable :=
  table.upsert ⟨credentialId, issuerPublicKey, .suspended, reason, none⟩

/-- `none` when there is no such row. -/
def reactivate (table : RevocationTable) (credentialId : String) : Option RevocationTable :=
  (table.find credentialId).map fun row => table.insert { row with status := .active }

/-- Deletes the rows whose expiry has passed. -/
def cleanupExpired (table : RevocationTable) (now : Int) : RevocationTable :=
  table.retain fun row => match row.expiresAt with
    | some expiry => !decide (expiry < now)
    | none => true

/-- Whether the table has a row for the id that blocks verification. -/
def blocks (table : RevocationTable) (credentialId : String) : Bool :=
  match table.find credentialId with
  | some row => row.status.isBlocking
  | none => false

@[simp] theorem blocks_upsert (table : RevocationTable) (new : Revocation) (id : String) :
    (table.upsert new).blocks id =
      if id = new.credentialId then new.status.isBlocking else table.blocks id := by
  unfold upsert
  cases found : table.find new.credentialId with
  | none =>
    by_cases here : id = new.credentialId <;> simp [blocks, Table.find_insert, here]
  | some row =>
    have same : row.credentialId = new.credentialId := (Table.find_eq_some.mp found).2
    by_cases here : id = new.credentialId <;> simp [blocks, Table.find_insert, same, here]

@[simp] theorem blocks_revoke (table : RevocationTable) (credentialId issuer : String)
    (reason : Option String) (expiresAt : Option Int) (id : String) :
    (table.revoke credentialId issuer reason expiresAt).blocks id =
      (decide (id = credentialId) || table.blocks id) := by
  by_cases here : id = credentialId <;> simp [revoke, RevocationStatus.isBlocking, here]

@[simp] theorem blocks_suspend (table : RevocationTable) (credentialId issuer : String)
    (reason : Option String) (id : String) :
    (table.suspend credentialId issuer reason).blocks id =
      (decide (id = credentialId) || table.blocks id) := by
  by_cases here : id = credentialId <;> simp [suspend, RevocationStatus.isBlocking, here]

theorem blocks_reactivate {table table' : RevocationTable} {credentialId : String}
    (updated : table.reactivate credentialId = some table') (id : String) :
    table'.blocks id = (decide (id ≠ credentialId) && table.blocks id) := by
  obtain ⟨row, found, rfl⟩ := Option.map_eq_some_iff.mp updated
  have same : row.credentialId = credentialId := (Table.find_eq_some.mp found).2
  by_cases here : id = credentialId <;>
    simp [blocks, Table.find_insert, same, here, RevocationStatus.isBlocking]

/-- Reactivation finds no row exactly when the table has none, so nothing was blocked. -/
theorem blocks_of_reactivate_eq_none {table : RevocationTable} {credentialId : String}
    (missing : table.reactivate credentialId = none) : table.blocks credentialId = false := by
  have absent : table.find credentialId = none := by simpa [reactivate] using missing
  simp [blocks, absent]

end RevocationTable

/-! ## The cache -/

/-- The ids an uncontended lookup finds revoked. -/
structure RevocationCache where
  revokedHashes : Finset String

namespace RevocationCache

def add (cache : RevocationCache) (hash : String) : RevocationCache :=
  ⟨insert hash cache.revokedHashes⟩

def remove (cache : RevocationCache) (hash : String) : RevocationCache :=
  ⟨cache.revokedHashes.erase hash⟩

/-- The lookup when no writer holds the lock. -/
def isRevoked (cache : RevocationCache) (hash : String) : Bool := decide (hash ∈ cache.revokedHashes)

@[simp] theorem isRevoked_add (cache : RevocationCache) (hash id : String) :
    (cache.add hash).isRevoked id = (decide (id = hash) || cache.isRevoked id) := by
  simp [isRevoked, add]

@[simp] theorem isRevoked_remove (cache : RevocationCache) (hash id : String) :
    (cache.remove hash).isRevoked id = (decide (id ≠ hash) && cache.isRevoked id) := by
  simp [isRevoked, remove]

end RevocationCache

/-! ## The repository, one call at a time -/

structure RevocationRepository where
  table : RevocationTable
  cache : RevocationCache

namespace RevocationRepository

/-- Loads every revoked or suspended id. -/
def initializeCache (table : RevocationTable) : RevocationRepository where
  table := table
  cache := ⟨((table.rows.filter fun row => row.status.isBlocking).map
    Revocation.credentialId).toFinset⟩

def revoke (repo : RevocationRepository) (credentialId issuerPublicKey : String)
    (reason : Option String) (expiresAt : Option Int) : RevocationRepository :=
  ⟨repo.table.revoke credentialId issuerPublicKey reason expiresAt, repo.cache.add credentialId⟩

def suspend (repo : RevocationRepository) (credentialId issuerPublicKey : String)
    (reason : Option String) : RevocationRepository :=
  ⟨repo.table.suspend credentialId issuerPublicKey reason, repo.cache.add credentialId⟩

/-- An unknown id is an error, and nothing is changed. -/
def reactivate (repo : RevocationRepository) (credentialId : String) :
    Option RevocationRepository :=
  (repo.table.reactivate credentialId).map fun table => ⟨table, repo.cache.remove credentialId⟩

/-- Only the table is cleaned. -/
def cleanupExpired (repo : RevocationRepository) (now : Int) : RevocationRepository :=
  { repo with table := repo.table.cleanupExpired now }

/-- The cache holds exactly the ids whose row is revoked or suspended. -/
def Coherent (repo : RevocationRepository) : Prop :=
  ∀ id, repo.cache.isRevoked id = repo.table.blocks id

theorem initializeCache_coherent (table : RevocationTable) :
    (initializeCache table).Coherent := by
  intro id
  rw [Bool.eq_iff_iff, RevocationCache.isRevoked, decide_eq_true_iff]
  simp only [initializeCache, List.mem_toFinset, List.mem_map, List.mem_filter,
    RevocationTable.blocks]
  constructor
  · rintro ⟨row, ⟨member, blocking⟩, rfl⟩
    rw [Table.find_eq_some.mpr ⟨member, rfl⟩]
    exact blocking
  · intro blocked
    cases found : table.find id with
    | none => simp [found] at blocked
    | some row =>
      obtain ⟨member, same⟩ := Table.find_eq_some.mp found
      exact ⟨row, ⟨member, by simpa [found] using blocked⟩, same⟩

end RevocationRepository

end OwlId.Verification
