/-
The two places where records can be kept.
-/
import RanSlicing.Store.Files
import RanSlicing.Store.Memory

namespace RanSlicing

/-- A store in memory beside a file tree that it leaves alone, or a store in files. -/
inductive Backend where
  | memory (store : MemoryStore) (files : FileTree)
  | file (store : FileStore)
  deriving Repr

namespace Backend

/-- The name of the kind of store. -/
def kind : Backend → String
  | .memory .. => "memory"
  | .file _ => "file"

/-- The writes carried out and refused so far. -/
def stats : Backend → WriteStats
  | .memory store _ => store.stats
  | .file store => store.stats

/-- The file tree that the process sees. -/
def tree : Backend → FileTree
  | .memory _ files => files
  | .file store => store.files

/-- The backend over a file tree that someone else has changed. -/
def withTree (b : Backend) (t : FileTree) : Backend :=
  match b with
  | .memory store _ => .memory store t
  | .file store => .file { store with files := t }

instance : Store Backend where
  readMask
    | .memory store _, slice => Store.readMask store slice
    | .file store, slice => Store.readMask store slice
  hasMask?
    | .memory store _, slice => Store.hasMask? store slice
    | .file store, slice => Store.hasMask? store slice
  writeMask
    | .memory store files, slice, mask =>
      let (answer, store) := Store.writeMask store slice mask
      (answer, .memory store files)
    | .file store, slice, mask =>
      let (answer, store) := Store.writeMask store slice mask
      (answer, .file store)
  readPolicies
    | .memory store _ => Store.readPolicies store
    | .file store => Store.readPolicies store
  writePolicies
    | .memory store files, policies =>
      let (answer, store) := Store.writePolicies store policies
      (answer, .memory store files)
    | .file store, policies =>
      let (answer, store) := Store.writePolicies store policies
      (answer, .file store)

end Backend

end RanSlicing
