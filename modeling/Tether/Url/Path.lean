import Tether.Text.Split

namespace Tether

/-! # Paths of URLs

A path is resolved while it is read: a segment `.` is dropped, and a segment `..` is dropped together with
the one before it. A segment that names a drive stays.
-/

namespace UrlPath

/-- A segment that stands for the place it is in. -/
def isHere (segment : List Char) : Bool :=
  segment = ['.'] || segment.map Char.toLower = ['%', '2', 'e']

/-- A segment that stands for the place above. -/
def isAbove (segment : List Char) : Bool :=
  let s := segment.map Char.toLower
  s = ['.', '.'] || s = ['.', '%', '2', 'e'] || s = ['%', '2', 'e', '.'] ||
    s = ['%', '2', 'e', '%', '2', 'e']

/-- A segment that begins with the name of a drive: a letter and a colon or a bar, before a backslash or
the end. -/
def isDrive : List Char → Bool
  | [a, b] => a.isAlpha && (b = ':' || b = '|')
  | a :: b :: c :: _ => a.isAlpha && (b = ':' || b = '|') && c = '\\'
  | _ => false

/-- The segments without the last one, which comes first here. -/
def up : List (List Char) → List (List Char)
  | [] => []
  | segment :: rest => if isDrive segment then segment :: rest else rest

/-- Resolves segments onto those before, which come in reverse order. The last segment has no slash after
it; where it names a place, nothing is written for it. -/
def resolve (before : List (List Char)) : List (List Char) → List (List Char)
  | [] => before
  | [last] =>
    if isAbove last then [] :: up before else if isHere last then [] :: before else last :: before
  | segment :: rest =>
    if isAbove segment then resolve (up before) rest
    else if isHere segment then resolve before rest
    else resolve (segment :: before) rest

/-- The text of the path that the segments of a text resolve to. -/
def ofChars (cs : List Char) : List Char :=
  (resolve [] (Split.parts '/' cs)).reverse.flatMap ('/' :: ·)

end UrlPath

end Tether
