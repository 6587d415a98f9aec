import PackageVitals.Json
import PackageVitals.Time.Iso

/-!
# Timestamps in documents

A provider writes a timestamp as a text, and nothing else can be treated as
one.
-/

namespace PackageVitals.Json

/-- The timestamp that a value writes. -/
def toTimestamp : Json → Except Failure Timestamp
  | str s => Timestamp.read s
  | _ => .error .unsupported

end PackageVitals.Json
