import Telemux.Url.Percent

namespace Telemux

def isSingleDot (segment : List Char) : Bool :=
  [['.'], ['%', '2', 'e'], ['%', '2', 'E']].contains segment

def isDoubleDot (segment : List Char) : Bool :=
  [['.', '.'], ['%', '2', 'e', '%', '2', 'e'], ['%', '2', 'e', '%', '2', 'E'],
    ['%', '2', 'E', '%', '2', 'e'], ['%', '2', 'E', '%', '2', 'E'], ['%', '2', 'e', '.'],
    ['%', '2', 'E', '.'], ['.', '%', '2', 'e'], ['.', '%', '2', 'E']].contains segment

/-- A letter and a colon, or a bar in its place. Such a segment is never left by going up. -/
def isDriveLetter : List Char → Bool
  | [letter, mark] => letter.isAlpha && (mark = ':' || mark = '|')
  | _ => false

/-- Leaves the last directory. The directories are listed from the last to the first. -/
def goUp : List (List Char) → List (List Char)
  | [] => []
  | last :: above => if isDriveLetter last then last :: above else above

/-- Resolves the dot segments of a path and encodes the others. `done` lists the directories so far
from the last to the first; the last segment of the path is its file. -/
def resolveSegments (done : List (List Char)) : List (List Char) → List (List Char)
  | [] => done.reverse
  | [file] =>
    let file := percentEncode .path file
    if isDoubleDot file then (([] : List Char) :: goUp done).reverse
    else if isSingleDot file then ([] :: done).reverse
    else (file :: done).reverse
  | segment :: rest =>
    let segment := percentEncode .path segment
    if isDoubleDot segment then resolveSegments (goUp done) rest
    else if isSingleDot segment then resolveSegments done rest
    else resolveSegments (segment :: done) rest

def splitSegments : List Char → List (List Char)
  | [] => [[]]
  | c :: cs =>
    if c = '/' ∨ c = '\\' then [] :: splitSegments cs
    else match splitSegments cs with
      | segment :: segments => (c :: segment) :: segments
      | [] => [[c]]

def joinSegments (segments : List (List Char)) : List Char :=
  segments.flatMap ('/' :: ·)

/-- The path of a URL that names a server, from its raw text. It always starts with a slash. -/
def resolvePath (raw : List Char) : List Char :=
  let relative := match raw with
    | '/' :: cs => cs
    | '\\' :: cs => cs
    | cs => cs
  joinSegments (resolveSegments [] (splitSegments relative))

end Telemux
