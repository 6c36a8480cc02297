/-!
The five steps of a local verification, and how they follow each other.
-/
namespace SourceMatch

inductive Step where
  | sourceEntry
  | compilerSelection
  | importResolution
  | compileAndCompare
  | register
deriving DecidableEq, Repr, Inhabited

namespace Step

def number : Step → Nat
  | .sourceEntry => 1
  | .compilerSelection => 2
  | .importResolution => 3
  | .compileAndCompare => 4
  | .register => 5

def ofNumber? : Nat → Option Step
  | 1 => some .sourceEntry
  | 2 => some .compilerSelection
  | 3 => some .importResolution
  | 4 => some .compileAndCompare
  | 5 => some .register
  | _ => none

def next? : Step → Option Step
  | .sourceEntry => some .compilerSelection
  | .compilerSelection => some .importResolution
  | .importResolution => some .compileAndCompare
  | .compileAndCompare => some .register
  | .register => none

def previous? : Step → Option Step
  | .compilerSelection => some .sourceEntry
  | .importResolution => some .compilerSelection
  | .compileAndCompare => some .importResolution
  | .sourceEntry | .register => none

def title : Step → String
  | .sourceEntry => "source entry"
  | .compilerSelection => "compiler selection"
  | .importResolution => "import resolution"
  | .compileAndCompare => "compile and compare"
  | .register => "register"

def text (s : Step) : String := toString s.number ++ " (" ++ s.title ++ ")"

theorem number_previous? {s t : Step} (h : s.previous? = some t) : s.number = t.number + 1 := by
  cases s <;> simp [previous?] at h <;> subst h <;> rfl

end Step

end SourceMatch
