/-
A store in files, which the radio stack reads.

Each slice has a file with its mask on one line, and one file holds the policies.  A record is
replaced at one stroke, so the radio stack never sees half of one.
-/
import RanSlicing.FileTree.Basic
import RanSlicing.Pool
import RanSlicing.Store.Basic
import RanSlicing.Store.PolicyRecord

namespace RanSlicing

/-- Where the records lie and what they are called. -/
structure RecordLayout where
  directory : Path
  maskPrefix : String
  policyFile : String
  uplink : Bool
  deriving DecidableEq, Repr, Inhabited

namespace RecordLayout

/-- The layout that the radio stack expects. -/
def standard : RecordLayout where
  directory := ⟨"/root/radio_code/scope_config/slicing"⟩
  maskPrefix := "slice_allocation_mask_tenant_"
  policyFile := "slice_scheduling_policy.txt"
  uplink := false

/-- Checks that the records have names. -/
def validate (l : RecordLayout) : Except Fault Unit :=
  if l.maskPrefix = "" then .error .noMaskPrefix
  else if l.policyFile = "" then .error .noPolicyFile
  else .ok ()

/-- The file of a slice's mask; the masks of the uplink have names of their own. -/
def maskPath (l : RecordLayout) (slice : Nat) : Path :=
  l.directory.join
    ((if l.uplink then "ul_" else "") ++ l.maskPrefix ++ Number.natText slice ++ ".txt")

/-- The file of the policies. -/
def policyPath (l : RecordLayout) : Path := l.directory.join l.policyFile

/-- The files of all records, and the directory they belong to. -/
def paths (l : RecordLayout) (tenants : Nat) : List Path :=
  l.directory :: l.policyPath :: (List.range tenants).map l.maskPath

end RecordLayout

/-- Masks and policies kept in files. -/
structure FileStore where
  layout : RecordLayout
  pool : Pool
  tenants : Nat
  files : FileTree
  stats : WriteStats
  deriving DecidableEq, Repr

namespace FileStore

/-- The text of a record, if there is one. -/
def readRecord (s : FileStore) (path : Path) : Except Fault (Option String) :=
  match s.files.readText path with
  | .ok text => .ok (some text)
  | .error .notFound => .ok none
  | .error e => .error (.unreadable path e)

/-- The mask in the text of a record: its first line, cut or padded to the pool. -/
def readMaskText (s : FileStore) (path : Path) (record : String) : Except Fault Mask :=
  let line := String.ofList (Text.trim ((Text.lines record.toList).headD []))
  if line = "" then .ok s.pool.emptyMask
  else
    match Mask.ofText? line with
    | .error e => .error (.maskRecord path e)
    | .ok mask => .ok (mask.resized s.pool.size)

/-- The mask of a slice. -/
def readMask (s : FileStore) (slice : Nat) : Except Fault Mask := do
  let path := s.layout.maskPath slice
  match ← s.readRecord path with
  | none => .ok s.pool.emptyMask
  | some record => s.readMaskText path record

/-- Puts a record in place, or counts the failure. -/
def writeRecord (s : FileStore) (path : Path) (record : String) : Except Fault Unit × FileStore :=
  match s.files.replaceText path record with
  | .ok files => (.ok (), { s with files })
  | .error e =>
    (.error (.unwritable path e),
      { s with stats := { s.stats with failed := s.stats.failed + 1 } })

/-- Writes the mask of a slice. -/
def writeMask (s : FileStore) (slice : Nat) (mask : Mask) : Except Fault Unit × FileStore :=
  match s.writeRecord (s.layout.maskPath slice) (mask.text ++ "\n") with
  | (.ok (), s) => (.ok (), { s with stats := { s.stats with masks := s.stats.masks + 1 } })
  | refused => refused

/-- The policies on record; without a record, and for a slice without a line, round-robin. -/
def readPolicies (s : FileStore) : Except Fault PolicyTable := do
  let path := s.layout.policyPath
  match ← s.readRecord path with
  | none => .ok (.uniform s.tenants .roundRobin)
  | some record => PolicyRecord.read path s.tenants record

/-- Writes the policies into the record that is there.  A record that cannot be read is not
written, and that is no failed write. -/
def writePolicies (s : FileStore) (policies : PolicyTable) : Except Fault Unit × FileStore :=
  let path := s.layout.policyPath
  match s.readRecord path with
  | .error e => (.error e, s)
  | .ok record =>
    match s.writeRecord path (PolicyRecord.update (record.getD "") policies) with
    | (.ok (), s) =>
      (.ok (), { s with stats := { s.stats with policies := s.stats.policies + 1 } })
    | refused => refused

/-- Makes the directory of the records. -/
def prepare (s : FileStore) : Except Fault Unit × FileStore :=
  match s.files.makeDirectory s.layout.directory with
  | .ok files => (.ok (), { s with files })
  | .error e =>
    (.error (.within ("Failed to create record directory " ++ s.layout.directory.text)
      (.refused e)), s)

instance : Store FileStore where
  readMask := readMask
  hasMask? s slice := .ok (s.files.isFile (s.layout.maskPath slice))
  writeMask := writeMask
  readPolicies := readPolicies
  writePolicies := writePolicies

end FileStore

end RanSlicing
