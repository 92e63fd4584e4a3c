/-
The settings of the metrics and of the two controllers, as documents.

Every field may be left out and then has its standard value.
-/
import RanSlicing.Control.Heuristic
import RanSlicing.Document.Requests

namespace RanSlicing

namespace TelemetrySettings

/-- The document of the settings. -/
def toDocument (s : TelemetrySettings) : Document :=
  .fields
    [("dir", .text s.directory.text),
      ("window_seconds", .nat s.windowSeconds),
      ("rows_per_second", .nat s.rowsPerSecond),
      ("min_user_id_len", .nat s.minUserIdLength)]

/-- The settings of a document. -/
def ofDocument? (dialect : Dialect) (d : Document) : Option TelemetrySettings := do
  let entries ←
    dialect.fields ["dir", "window_seconds", "rows_per_second", "min_user_id_len"] d
  let number (name : String) (field : TelemetrySettings → Nat) : Option Nat :=
    Dialect.defaulted entries name dialect.nat (field standard)
  some
    { directory := ⟨← Dialect.defaulted entries "dir" dialect.text standard.directory.text⟩
      windowSeconds := ← number "window_seconds" (·.windowSeconds)
      rowsPerSecond := ← number "rows_per_second" (·.rowsPerSecond)
      minUserIdLength := ← number "min_user_id_len" (·.minUserIdLength) }

end TelemetrySettings

namespace HeuristicSettings

/-- The document of the settings. -/
def toDocument (s : HeuristicSettings) : Document :=
  .fields
    [("thresholds", .ofTextMap id s.thresholds),
      ("buffer_free_index", .nat s.bufferUnit),
      ("throughput_free_index", .nat s.throughputUnit)]

/-- The settings of a document. -/
def ofDocument? (dialect : Dialect) (d : Document) : Option HeuristicSettings := do
  let entries ←
    dialect.fields ["thresholds", "buffer_free_index", "throughput_free_index"] d
  some
    { thresholds :=
        ← Dialect.defaulted entries "thresholds" (Dialect.textMap dialect.any) standard.thresholds
      bufferUnit :=
        ← Dialect.defaulted entries "buffer_free_index" dialect.nat standard.bufferUnit
      throughputUnit :=
        ← Dialect.defaulted entries "throughput_free_index" dialect.nat standard.throughputUnit }

end HeuristicSettings

/-- The cycle of allocations of the rotation. -/
structure RotationSettings where
  allocations : List (SliceMap Range)
  deriving DecidableEq, Repr

namespace RotationSettings

/-- Three splits of the standard pool between two slices. -/
def standard : RotationSettings where
  allocations :=
    [(11, 12), (5, 6), (17, 18)].map fun (last, first) =>
      .ofList [(0, ⟨0, last⟩), (1, ⟨first, 23⟩)]

/-- The document of the settings. -/
def toDocument (s : RotationSettings) : Document :=
  .fields [("allocations", .list (s.allocations.map Range.mapToDocument))]

/-- The settings of a document. -/
def ofDocument? (dialect : Dialect) (d : Document) : Option RotationSettings := do
  let entries ← dialect.fields ["allocations"] d
  some ⟨← Dialect.defaulted entries "allocations"
    (Dialect.listOf (Range.mapOfDocument? dialect)) standard.allocations⟩

end RotationSettings

end RanSlicing
