/-!
Cutting texts: what follows a given start, and the pieces between separators.
-/
namespace SourceMatch.Text

def after? : List Char → List Char → Option (List Char)
  | [], cs => some cs
  | _ :: _, [] => none
  | s :: start, c :: cs => if s = c then after? start cs else none

theorem after?_eq_some_iff {start cs rest : List Char} :
    after? start cs = some rest ↔ cs = start ++ rest := by
  induction start generalizing cs with
  | nil => simp [after?]
  | cons s start ih =>
    cases cs with
    | nil => simp [after?]
    | cons c cs =>
      simp only [after?, List.cons_append, List.cons.injEq]
      split
      · rename_i h; simp [ih, h]
      · rename_i h; simp [Ne.symm h]

def splitAtChar (sep : Char) : List Char → List (List Char)
  | [] => [[]]
  | c :: cs =>
    if c = sep then [] :: splitAtChar sep cs
    else
      match splitAtChar sep cs with
      | [] => [[c]]
      | piece :: pieces => (c :: piece) :: pieces

def splitAtDouble (sep : Char) : List Char → List (List Char)
  | [] => [[]]
  | [c] => [[c]]
  | c :: d :: cs =>
    if c = sep ∧ d = sep then [] :: splitAtDouble sep cs
    else
      match splitAtDouble sep (d :: cs) with
      | [] => [[c]]
      | piece :: pieces => (c :: piece) :: pieces

def afterLast (sep : Char) (cs : List Char) : List Char :=
  (cs.reverse.takeWhile (· ≠ sep)).reverse

end SourceMatch.Text
