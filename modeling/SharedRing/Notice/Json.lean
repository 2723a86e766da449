import SharedRing.Notice
import SharedRing.Text.Json

/-!
Notices as JSON objects on one line: the level, the fields with the wording first, and the part of
the system that reports.
-/

namespace SharedRing.Notice

def Value.toJson : Value → String
  | text s => Text.json s
  | count n => toString n

def toJson (n : Notice) : String :=
  let fields := ("message", Value.text n.message) :: n.fields
  let members := fields.map (fun f => Text.json f.1 ++ ":" ++ f.2.toJson)
  String.join ["\x7b\"level\":", Text.json n.level.text, ",\"fields\":\x7b",
    ",".intercalate members, "\x7d,\"target\":", Text.json n.target, "\x7d"]

end SharedRing.Notice
