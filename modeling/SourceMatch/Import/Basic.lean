import SourceMatch.Json.Decoder
import SourceMatch.Text.Scan

/-!
Imports of a source: the path that an import statement names and, once it is known, the content
that the path stands for.
-/
namespace SourceMatch

open Json (Decoder)

/-- An import. The file name tells where the content was found. -/
structure Import where
  path : String
  source : Option String := none
  sourceFileName : Option String := none
deriving DecidableEq, Repr, Inhabited

namespace Import

def fileNameOf (path : String) : String := String.ofList (Text.afterLast '/' path.toList)

def fileName (i : Import) : String := fileNameOf i.path

def isResolved (i : Import) : Bool := i.source.isSome

def unresolved (path : String) : Import := { path }

def unresolvedCount (imports : List Import) : Nat := imports.countP (!·.isResolved)

def supply (imports : List Import) (path source : String) (sourceFileName : Option String) :
    List Import :=
  imports.map fun i => if i.path = path then ⟨i.path, some source, sourceFileName⟩ else i

@[simp]
theorem map_path_supply (imports : List Import) (path source : String) (name : Option String) :
    (supply imports path source name).map (·.path) = imports.map (·.path) := by
  simp only [supply, List.map_map]
  congr 1
  funext i
  simp only [Function.comp]
  split <;> rfl

def decoder : Decoder Import :=
  let text := Decoder.nullable Decoder.string
  Decoder.record
    [Decoder.probe "path" Decoder.string, Decoder.probe "source" text,
      Decoder.probe "sourceFileName" text]
    fun f => do
      let path ← f.required "path" Decoder.string
      let source ← f.named "source" text none
      let sourceFileName ← f.named "sourceFileName" text none
      return ⟨path, source, sourceFileName⟩

def toJson (i : Import) : Json :=
  .object [("path", .string i.path), ("source", .optional .string i.source),
    ("sourceFileName", .optional .string i.sourceFileName)]

end Import

end SourceMatch
