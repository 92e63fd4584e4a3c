/-
Where a look at the metrics comes from: the directory of the radio stack, or looks prepared
beforehand.

In the directory each user has one file.  A file that cannot be used takes that user out of the
look and nobody else; only a directory that cannot be listed leaves nothing to look at.
-/
import RanSlicing.FileTree.Basic
import RanSlicing.Telemetry.Table

namespace RanSlicing

namespace TelemetrySettings

/-- What the name of a user's file ends with. -/
def fileSuffix : String := "_metrics.csv"

/-- The user a file belongs to, if its name says so. -/
def userOfFile? (s : TelemetrySettings) (name : String) : Option String :=
  let cs := name.toList
  if cs.head? = some '.' then none
  else if fileSuffix.toList.isSuffixOf cs then
    let user := String.ofList (cs.take (cs.length - fileSuffix.length))
    if s.minUserIdLength ≤ user.utf8ByteSize then some user else none
  else none

/-- The users among the names in a directory, sorted. -/
def usersAmong (s : TelemetrySettings) (names : List FileName) : List String :=
  let users := names.filterMap fun
    | .text name => s.userOfFile? name
    | .bytes _ => none
  users.mergeSort fun a b => decide (a ≤ b)

/-- The users that have a file. -/
def users (s : TelemetrySettings) (files : FileTree) : Except TelemetryFault (List String) :=
  match files.list s.directory with
  | .ok names => .ok (s.usersAmong names)
  | .error e => .error (.noDirectory s.directory e)

/-- The file of a user. -/
def userPath (s : TelemetrySettings) (user : String) : Path :=
  s.directory.join (user ++ fileSuffix)

/-- The samples of a user, if the file exists and has a row that counts. -/
def readUser (s : TelemetrySettings) (files : FileTree) (user : String) :
    Except TelemetryFault (Option UserRecord) :=
  match files.readText (s.userPath user) with
  | .error .notFound => .ok none
  | .error e => .error (.unreadable e)
  | .ok content => (MetricsTable.read user s.windowRows content).mapError (.table (s.userPath user))

/-- One look at the directory. -/
def collect (s : TelemetrySettings) (files : FileTree) : Except TelemetryFault MetricsWindow := do
  let users ← s.users files
  .ok ⟨users.filterMap fun user =>
    match s.readUser files user with
    | .ok record => record
    | .error _ => none⟩

end TelemetrySettings

/-- A source of looks at the metrics. -/
inductive MetricsSource where
  | directory (settings : TelemetrySettings)
  | replay (windows : List (Except TelemetryFault MetricsWindow))

namespace MetricsSource

/-- The next look; prepared ones are followed by looks that find nobody. -/
def collect (source : MetricsSource) (files : FileTree) :
    Except TelemetryFault MetricsWindow × MetricsSource :=
  match source with
  | .directory settings => (settings.collect files, source)
  | .replay [] => (.ok .empty, source)
  | .replay (window :: rest) => (window, .replay rest)

end MetricsSource

end RanSlicing
