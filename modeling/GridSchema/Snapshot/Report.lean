import GridSchema.Calendar
import GridSchema.Table.Record

/-! What a snapshot run reports. -/

namespace GridSchema

structure SkippedCache where
  name : String
  reason : String
  deriving DecidableEq, Repr

/-- The outcome of a run that wrote a file: where, the caches in it, those left out, and a digest of
the file in hexadecimal. -/
structure Report where
  success : Bool
  fileName : String
  path : String
  dumped : List String
  skipped : List SkippedCache
  warnings : List TypeWarning
  sha256 : String
  deriving DecidableEq, Repr

def Report.skippedNames (report : Report) : List String :=
  report.skipped.map SkippedCache.name

structure Span where
  started : Moment
  completed : Moment
  deriving DecidableEq, Repr

def Span.duration (span : Span) : Json :=
  .number (secondsText (span.started.millisecondsTo span.completed))

def Span.durationText (span : Span) : String :=
  roundedSecondsText (span.started.millisecondsTo span.completed) ++ "s"

/-- The part of a report that does not depend on the time. -/
def Report.fields (report : Report) : List (String × Json) := [
  ("result", .ofFields [
    ("success", .bool report.success),
    ("file_name", .ofText report.fileName)]),
  ("path", .ofText report.path),
  ("dumped_caches", .ofTexts report.dumped),
  ("skipped_caches", .array (report.skipped.map fun cache => .ofFields [
    ("cache_name", .ofText cache.name),
    ("reason", .ofText cache.reason)])),
  ("warnings", .array (report.warnings.map TypeWarning.toJson)),
  ("sha256", .ofText report.sha256)]

def Report.toJson (report : Report) (span : Span) : Json :=
  .ofFields (report.fields ++ [
    ("started_at", .ofText span.started.text),
    ("completed_at", .ofText span.completed.text)])

end GridSchema
