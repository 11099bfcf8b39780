import BuildTrace.Invocation.Encoding
import BuildTrace.Precompile.Stamp
import BuildTrace.Precompile.Key

/-!
# Encoding — keys and stamps as data

* `StampKind`, `FileStamp` — as cases;
* `StampTable` — as a record of one object, whose names are the paths;
* `HeaderKey` — as a record.
-/

namespace BuildTrace

namespace StampKind

/-- The name of a kind in data. -/
def name : StampKind → String
  | .mtime => "mtime"
  | .content => "content"

/-- The kind that data stand for. -/
def ofJson? (v : Json) : Option StampKind :=
  match v.plainVariant? with
  | some "mtime" => some .mtime
  | some "content" => some .content
  | _ => none

end StampKind

namespace FileStamp

/-- The stamp as data. -/
def toJson : FileStamp → Json
  | .modified time => .record [("modified", .nat time)]
  | .content digest => .record [("content", .text digest)]

/-- The stamp that data stand for. -/
def ofJson? (v : Json) : Option FileStamp := do
  match ← v.variant? with
  | ("modified", some time) => return .modified (← time.natBelow? (Number.limit 64))
  | ("content", some digest) => return .content (← digest.text?)
  | _ => none

end FileStamp

namespace StampTable

/-- The table as data. -/
def toJson (t : StampTable) : Json :=
  .record [("entries", .record (t.entries.map fun (p, stamp) => (p.spelling, stamp.toJson)))]

/-- One entry of the table. -/
def entryOfJson? : Option String × Json → Option (Path × FileStamp)
  | (some p, stamp) => (FileStamp.ofJson? stamp).map fun stamp => (⟨p⟩, stamp)
  | (none, _) => none

/-- The table that data stand for. -/
def ofJson? (v : Json) : Option StampTable := do
  match ← v.fields? false ["entries"] with
  | [some (.object members)] => return .insertAll {} (← members.mapM entryOfJson?)
  | _ => none

end StampTable

namespace HeaderKey

/-- The key as data. -/
def toJson (s : HeaderKey) : Json :=
  .record [("digest", .text s.digest), ("header", s.header.toJson),
    ("flags", .array (s.flags.map Json.text))]

/-- The key that data stand for. -/
def ofJson? (v : Json) : Option HeaderKey := do
  match ← v.fields? false ["digest", "header", "flags"] with
  | [some digest, some header, some flags] =>
    return { digest := ← digest.text?
             header := ← Path.ofJson? header
             flags := ← flags.listOf? Json.text? }
  | _ => none

end HeaderKey
end BuildTrace
