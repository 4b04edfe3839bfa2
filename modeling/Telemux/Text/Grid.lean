import Telemux.Text.Split
import Telemux.Text.Width

namespace Telemux

/-- Rows of cells under a header, in columns as wide as their widest line. -/
structure Grid where
  header : List String
  rows : List (List String)

namespace Grid

/-- The characters of a horizontal line: its left end, its body, a crossing and its right end. -/
structure Rule where
  left : Char
  body : Char
  crossing : Char
  right : Char

def top : Rule := ⟨'┌', '─', '┬', '┐'⟩
def underHeader : Rule := ⟨'╞', '═', '╪', '╡'⟩
def betweenRows : Rule := ⟨'├', '╌', '┼', '┤'⟩
def bottom : Rule := ⟨'└', '─', '┴', '┘'⟩

def cellLines (cell : String) : List (List Char) :=
  splitAtEvery '\n' cell.toList

def cellWidth (cell : String) : Nat :=
  (cellLines cell).foldl (fun w line => max w (displayWidth line)) 0

def widths (g : Grid) : List Nat :=
  g.rows.foldl (fun ws row => List.zipWith max ws (row.map cellWidth)) (g.header.map cellWidth)

/-- A horizontal line; every column has a blank on both sides. -/
def ruleLine (ws : List Nat) (r : Rule) : List Char :=
  r.left :: ((ws.map fun w => List.replicate (w + 2) r.body).intersperse [r.crossing]).flatten
    ++ [r.right]

def pad (w : Nat) (line : List Char) : List Char :=
  ' ' :: line ++ List.replicate (w - displayWidth line + 1) ' '

def textLine (ws : List Nat) (parts : List (List Char)) : List Char :=
  '│' :: ((List.zipWith pad ws parts).intersperse ['┆']).flatten ++ ['│']

/-- The lines of a row: as many as its tallest cell has. -/
def rowLines (ws : List Nat) (row : List String) : List (List Char) :=
  let cells := row.map cellLines
  let height := cells.foldl (fun h lines => max h lines.length) 0
  (List.range height).map fun i => textLine ws (cells.map fun lines => lines.getD i [])

def lines (g : Grid) : List (List Char) :=
  let ws := g.widths
  let rows := (g.rows.map (rowLines ws)).intersperse [ruleLine ws betweenRows]
  ruleLine ws top :: rowLines ws g.header ++ ruleLine ws underHeader :: rows.flatten
    ++ [ruleLine ws bottom]

def text (g : Grid) : String :=
  String.ofList (g.lines.intersperse ['\n']).flatten

end Grid

end Telemux
