import QueryKit.Json.Fields
import QueryKit.Time

/-!
# Spans and timestamps in JSON

A span is its whole milliseconds as an unsigned 64-bit word. A timestamp is a
record of seconds and nanoseconds since the epoch, with no other member.
-/

namespace QueryKit

namespace Duration

/-- The document of a span. -/
def toJson (span : Duration) : Json := Json.nat span.millisWord

/-- The span of a document. -/
def ofJson? (document : Json) : Option Duration := document.word?.map ofMillis

end Duration

namespace Timestamp

/-- The names of the fields of a timestamp. -/
def fieldNames : List String := ["secs_since_epoch", "nanos_since_epoch"]

/-- The document of a timestamp. -/
def toJson (timestamp : Timestamp) : Json :=
  Json.record
    [("secs_since_epoch", Json.nat timestamp.seconds),
      ("nanos_since_epoch", Json.nat timestamp.subsecond)]

/-- The timestamp of a document. -/
def ofJson? (document : Json) : Option Timestamp :=
  if Json.Fields.onlyKnown fieldNames document then do
    let fields ← Json.Fields.of? fieldNames document
    let seconds ← fields.required "secs_since_epoch" Json.word?
    let nanoseconds ← fields.required "nanos_since_epoch" (Json.natural? 0x1_0000_0000)
    ofSeconds? seconds nanoseconds
  else none

end Timestamp

end QueryKit
