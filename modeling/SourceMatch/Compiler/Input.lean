import SourceMatch.Compiler.Index
import SourceMatch.Import.Basic

/-!
What the compiler is asked: an entry source, the contents of its imports, and a compiler version.
-/
namespace SourceMatch

structure CompileRequest where
  sourceFileName : String
  source : String
  importSources : Dict String
  compilerVersion : String
deriving DecidableEq, Inhabited

namespace CompileRequest

/-- The names of an import that has content: its path, then its file name, since sources may refer
to it either way. -/
def importEntries (i : Import) : List (String × String) :=
  match i.source with
  | some content => [(i.path, content), (i.fileName, content)]
  | none => []

def ofImports (sourceFileName source : String) (imports : List Import)
    (compilerVersion : String) : CompileRequest :=
  ⟨sourceFileName, source, Dict.ofList (imports.flatMap importEntries), compilerVersion⟩

end CompileRequest

structure CompilerInput where
  version : String
  sources : Dict String
  entryFileName : String
deriving DecidableEq, Inhabited

namespace CompilerInput

/-- The compiler is named by its long version if the index knows it, else as it was asked for. -/
def ofRequest (request : CompileRequest) (index : CompilerIndex) : CompilerInput where
  version := "v" ++ (index.longVersion? request.compilerVersion).getD request.compilerVersion
  sources :=
    (Dict.insert {} request.sourceFileName request.source).insertAll request.importSources.entries
  entryFileName := request.sourceFileName

def outputSelection : Json :=
  .object [("*", .object [("*", .strings ["abi", "evm.deployedBytecode.object"])])]

def toJson (i : CompilerInput) : Json :=
  .object [
    ("version", .string i.version),
    ("standardJsonInput", .object [
      ("language", .string "Solidity"),
      ("sources", i.sources.toJson fun content => .object [("content", .string content)]),
      ("settings", .object [("outputSelection", outputSelection)])]),
    ("entryFileName", .string i.entryFileName)]

end CompilerInput

end SourceMatch
