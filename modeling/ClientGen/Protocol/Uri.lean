import ClientGen.Error

/-!
# Path templates

A template is literal text with labels in braces. A label whose name a plus sign follows is greedy,
which means that its value may contain slashes.
-/

namespace ClientGen

inductive UriSegment
  | literal (text : List Char)
  | label (name : List Char) (greedy : Bool)
deriving DecidableEq

namespace UriSegment

/-- Why a text is no template. -/
inductive Fault
  /-- A label is not closed. -/
  | unterminated
  /-- A label has no name. -/
  | nameless
deriving DecidableEq

/-- The literal of a text, unless it is empty. -/
def literals (text : List Char) : List UriSegment := if text.isEmpty then [] else [literal text]

/-- The label for the text between braces. -/
def ofLabel (text : List Char) : UriSegment :=
  if text.getLast? = some '+' then label text.dropLast true else label text false

/-- The name of a label, or the text of a literal. -/
def name : UriSegment → List Char
  | literal text => text
  | label name _ => name

def ofTemplate (s : List Char) : Except Fault (List UriSegment) :=
  match _hs : s.dropWhile (· ≠ '\x7b') with
  | [] => .ok (literals s)
  | _ :: inner =>
    match _hi : inner.dropWhile (· ≠ '\x7d') with
    | [] => .error .unterminated
    | _ :: rest =>
      let l := ofLabel (inner.takeWhile (· ≠ '\x7d'))
      if l.name.isEmpty then .error .nameless
      else match ofTemplate rest with
        | .ok segments => .ok (literals (s.takeWhile (· ≠ '\x7b')) ++ l :: segments)
        | .error fault => .error fault
termination_by s.length
decreasing_by
  have h₁ := (List.dropWhile_suffix (l := s) (· ≠ '\x7b')).length_le
  have h₂ := (List.dropWhile_suffix (l := inner) (· ≠ '\x7d')).length_le
  rw [_hs] at h₁
  rw [_hi] at h₂
  simp only [List.length_cons] at h₁ h₂
  omega

/-- The fault as an error of the operation with the template. -/
def Fault.error (template : String) (operation : ShapeId) : Fault → GenerationError
  | unterminated => .config (.unterminatedLabel template operation)
  | nameless => .config (.emptyLabel template operation)

/-- A text inside a format template: braces are written twice. -/
def escapeFormat (text : List Char) : List Char :=
  text.flatMap fun c => if c = '\x7b' || c = '\x7d' then [c, c] else [c]

/-- The format template of some segments, with a place for each label. -/
def formatTemplate (segments : List UriSegment) : List Char :=
  segments.flatMap fun
    | literal text => escapeFormat text
    | label .. => ['\x7b', '\x7d']

def literalText (segments : List UriSegment) : List Char :=
  segments.flatMap fun
    | literal text => text
    | label .. => []

end UriSegment

/-- The two parts of a text at the first such character, if there is one. -/
def splitOnce (c : Char) (s : List Char) : List Char × Option (List Char) :=
  match s.dropWhile (· ≠ c) with
  | [] => (s, none)
  | _ :: rest => (s.takeWhile (· ≠ c), some rest)

/-- A path template with the pairs of a literal query. -/
structure UriTemplate where
  path : String
  query : List (String × String)

/-- Splits a template at its first question mark, and its query into the pairs that are not empty.
-/
def UriTemplate.ofText (uri : String) : UriTemplate :=
  let (path, query) := splitOnce '?' uri.toList
  let pairs := ((query.getD []).splitOn '&').filter (!·.isEmpty)
  ⟨String.ofList path, pairs.map fun pair =>
    let (name, value) := splitOnce '=' pair
    (String.ofList name, String.ofList (value.getD []))⟩

end ClientGen
