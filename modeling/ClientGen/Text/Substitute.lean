/-! Replacing one text by another. -/

namespace ClientGen.Text

/-- The rest of the text behind another one at its start. -/
def dropStart? : (start s : List Char) → Option (List Char)
  | [], s => some s
  | _ :: _, [] => none
  | a :: start, c :: s => if a = c then dropStart? start s else none

/-- Replaces every occurrence of a text, from left to right; `skip` characters belong to one that
has been replaced. -/
def replaceFrom (old new : List Char) (skip : Nat) : List Char → List Char
  | [] => []
  | c :: rest =>
    match skip with
    | skip + 1 => replaceFrom old new skip rest
    | 0 => match dropStart? old (c :: rest) with
      | some _ => new ++ replaceFrom old new (old.length - 1) rest
      | none => c :: replaceFrom old new 0 rest

/-- The text with every occurrence of `old`, which is not empty, replaced by `new`. -/
def replaceAll (text old new : String) : String :=
  String.ofList (replaceFrom old.toList new.toList 0 text.toList)

example : replaceAll "aaab" "aa" "c" = "cab" := by decide

end ClientGen.Text
