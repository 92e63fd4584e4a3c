/-
The settings that the daemon and the operator's tool share: how many slices there are, which
pool they divide, and where the records lie.
-/
import RanSlicing.Document.Decode
import RanSlicing.Store.Files

namespace RanSlicing

/-- The slices, their pool and their records. -/
structure SlicingSettings where
  tenants : Nat
  pool : Pool
  records : RecordLayout
  deriving DecidableEq, Repr, Inhabited

namespace SlicingSettings

/-- The most slices that the radio stack serves. -/
def mostTenants : Nat := 10

/-- The settings of a cell that is not configured otherwise. -/
def standard : SlicingSettings := ⟨2, .standard, .standard⟩

/-- Checks that there are slices, that the pool has a unit for each, and that the records have
names. -/
def validate (s : SlicingSettings) : Except Fault Unit := do
  if s.tenants = 0 ∨ mostTenants < s.tenants then .error (.tenantCount s.tenants mostTenants)
  s.pool.validate
  if s.pool.limit < s.tenants then .error (.poolTooSmall s.pool.limit s.tenants)
  s.records.validate

end SlicingSettings

/-! ### Slicing settings as documents -/

/-- The document of a pool. -/
def Pool.toDocument (p : Pool) : Document :=
  .fields [("size", .nat p.size), ("limit", .nat p.limit)]

/-- The pool of a document. -/
def Pool.ofDocument? (dialect : Dialect) (d : Document) : Option Pool := do
  let entries ← dialect.fields ["size", "limit"] d
  some ⟨← Dialect.required entries "size" dialect.nat,
    ← Dialect.required entries "limit" dialect.nat⟩

/-- The document of a layout. -/
def RecordLayout.toDocument (l : RecordLayout) : Document :=
  .fields
    [("dir", .text l.directory.text),
      ("mask_prefix", .text l.maskPrefix),
      ("policy_file", .text l.policyFile),
      ("uplink", .flag l.uplink)]

/-- The layout of a document. -/
def RecordLayout.ofDocument? (dialect : Dialect) (d : Document) : Option RecordLayout := do
  let entries ← dialect.fields ["dir", "mask_prefix", "policy_file", "uplink"] d
  some
    { directory := ⟨← Dialect.required entries "dir" dialect.text⟩
      maskPrefix := ← Dialect.required entries "mask_prefix" dialect.text
      policyFile := ← Dialect.required entries "policy_file" dialect.text
      uplink := ← Dialect.required entries "uplink" dialect.flag }

namespace SlicingSettings

/-- The names of the fields, in order. -/
def fieldNames : List String := ["tenants", "pool", "store"]

/-- The entries of the document of slicing settings. -/
def toEntries (s : SlicingSettings) : List (String × Document) :=
  [("tenants", .nat s.tenants),
    ("pool", s.pool.toDocument),
    ("store", s.records.toDocument)]

/-- The document of slicing settings. -/
def toDocument (s : SlicingSettings) : Document := .fields s.toEntries

/-- The slicing settings among the entries of a table. -/
def ofEntries? (dialect : Dialect) (entries : List (Key × Document)) : Option SlicingSettings := do
  some
    { tenants := ← Dialect.required entries "tenants" dialect.nat
      pool := ← Dialect.required entries "pool" (Pool.ofDocument? dialect)
      records := ← Dialect.required entries "store" (RecordLayout.ofDocument? dialect) }

/-- The slicing settings of a document. -/
def ofDocument? (dialect : Dialect) (d : Document) : Option SlicingSettings :=
  (dialect.fields fieldNames d).bind (ofEntries? dialect)

end SlicingSettings

end RanSlicing
