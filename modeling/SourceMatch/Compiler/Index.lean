import SourceMatch.Json.Decoder
import SourceMatch.Text.Dict
import SourceMatch.Version.Pragma
import SourceMatch.Version.Range

/-!
The index of compiler builds: an ordered list of builds, and the file that the official release of
each version has. The version clause of a source selects a release of the index.
-/
namespace SourceMatch

open Json (Decoder)

structure CompilerRelease where
  path : String
  version : String
  longVersion : String
  build : String
deriving DecidableEq, Repr, Inhabited

/-- Builds in their order, and the release file of each version. -/
structure CompilerIndex where
  builds : List CompilerRelease := []
  releases : Dict String := {}
deriving DecidableEq, Inhabited

namespace CompilerRelease

def decoder : Decoder CompilerRelease :=
  Decoder.record
    [Decoder.probe "path" Decoder.string, Decoder.probe "version" Decoder.string,
      Decoder.probe "longVersion" Decoder.string, Decoder.probe "build" Decoder.string]
    fun f => do
      let path ← f.orElse "path" Decoder.string ""
      let version ← f.required "version" Decoder.string
      let longVersion ← f.required "longVersion" Decoder.string
      let build ← f.orElse "build" Decoder.string ""
      return ⟨path, version, longVersion, build⟩

def toJson (r : CompilerRelease) : Json :=
  .object [("path", .string r.path), ("version", .string r.version),
    ("longVersion", .string r.longVersion), ("build", .string r.build)]

end CompilerRelease

def Json.Decoder.dict {α : Type} (d : Decoder α) : Decoder (Dict α) :=
  (Decoder.members d).map Dict.ofList

def Dict.toJson {α : Type} (encode : α → Json) (d : Dict α) : Json :=
  .object (d.entries.map fun e => (e.1, encode e.2))

namespace CompilerIndex

def decoder : Decoder CompilerIndex :=
  let builds := Decoder.list CompilerRelease.decoder
  let releases := Decoder.dict Decoder.string
  Decoder.record [Decoder.probe "builds" builds, Decoder.probe "releases" releases] fun f => do
    let builds ← f.orElse "builds" builds []
    let releases ← f.orElse "releases" releases {}
    return ⟨builds, releases⟩

def ofText (text : String) : Except Json.Category CompilerIndex := decoder.ofText text

def toJson (i : CompilerIndex) : Json :=
  .object [("builds", .array (i.builds.map CompilerRelease.toJson)),
    ("releases", i.releases.toJson .string)]

def contains (i : CompilerIndex) (version : String) : Bool := i.releases.contains version

def canonicalId? (i : CompilerIndex) (version : String) : Option String := i.releases.get? version

/-- The build with the release file of a version; failing that, the first build of the version
whose long version has no hyphen, which a nightly build has. -/
def release? (i : CompilerIndex) (version : String) : Option CompilerRelease := do
  let path ← i.canonicalId? version
  (i.builds.find? (·.path = path)).or <|
    i.builds.find? fun b => b.version = version && !b.longVersion.toList.contains '-'

def longVersion? (i : CompilerIndex) (version : String) : Option String :=
  (i.release? version).map (·.longVersion)

def versions (i : CompilerIndex) : List (Version × String) :=
  i.releases.keys.filterMap fun key => (Version.parse? key).map (·, key)

def highest? : List (Version × String) → Option (Version × String)
  | [] => none
  | e :: entries =>
    match highest? entries with
    | none => some e
    | some best => if (e.1.cmp best.1) == .lt then some best else some e

/-- The release that a source is to be built with. A version that the index lists is taken as it
is; anything else is a range, of which the highest release is taken. -/
def resolve? (i : CompilerIndex) (source : String) : Option String := do
  let spec ← Version.Pragma.extract? source
  if (Version.parse? spec).isSome && i.contains spec then return spec
  let range ← Version.Range.parse? spec
  let best ← highest? (i.versions.filter fun e => Version.Range.holds range e.1)
  return best.2

end CompilerIndex

end SourceMatch
