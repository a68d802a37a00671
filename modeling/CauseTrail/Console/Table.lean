import CauseTrail.Console.Screen
import CauseTrail.Text.Blank

/-!
# Tables

A table has a title, a row of headings and rows of cells, drawn with lines that are heavy around
the headings. Each column is as wide as its widest cell, with a space on both sides. The title
stands above, centred over the width of the table and broken between words, or within a word that
is wider than the table.

## Main definitions

* `Table`: the tables
* `Table.draw`: what a table puts on the console
-/

namespace CauseTrail.Console

/-- A column: its heading and whether its cells stand at the right. -/
structure Column where
  heading : String
  atRight : Bool := false

/-- A table. The texts of the title and of the cells may hold markup. -/
structure Table where
  title : String
  columns : List Column
  rows : List (List String)

namespace Table

/-- Spaces. -/
def spaces (n : Nat) : List Char := List.replicate n ' '

/-- A cell of the given width with a space on both sides. -/
def cell (atRight : Bool) (width : Nat) (cs : List Char) : List Char :=
  let gap := spaces (width - Text.columns cs)
  ' ' :: (if atRight then gap ++ cs else cs ++ gap) ++ [' ']

/-- A line of a table: its left end, what stands between its cells, its right end. -/
def line (left middle right : Char) (cells : List (List Char)) : List Char :=
  left :: [middle].intercalate cells ++ [right, '\n']

/-- A line that is drawn across columns of the given widths. -/
def rule (left fill middle right : Char) (widths : List Nat) : List Char :=
  line left middle right (widths.map fun w => List.replicate (w + 2) fill)

/-- The words of a text, each with the gap behind it and the first one with the gap before it. -/
def words : (current : List Char) → (inWord inGap : Bool) → List Char → List (List Char)
  | current, inWord, _, [] => if inWord then [current.reverse] else []
  | current, inWord, inGap, c :: cs =>
    if Text.isGap c then words (c :: current) inWord inWord cs
    else if inGap then current.reverse :: words [c] true false cs
    else words (c :: current) true false cs

/-- A word in pieces no wider than `width`. -/
def chop (width : Nat) : (current : List Char) → (taken : Nat) → List Char → List (List Char)
  | current, _, [] => [current.reverse]
  | current, taken, c :: cs =>
    let w := Text.charColumns c
    if width < taken + w then current.reverse :: chop width [c] w cs
    else chop width (c :: current) (taken + w) cs

/-- The lines that words make, of which `current` is the last so far and takes `taken` columns. -/
def wrapWords (width : Nat) : (current : List Char) → (taken : Nat) → List (List Char) →
    List (List Char)
  | current, _, [] => [current]
  | current, taken, w :: ws =>
    let bare := Text.columns (w.reverse.dropWhile Text.isGap).reverse
    if bare ≤ width - taken then
      wrapWords width (current ++ w) (taken + Text.columns w) ws
    else if width < bare then
      match (chop width [] 0 w).reverse with
      | [] => wrapWords width current taken ws
      | last :: before =>
        (if current = [] then [] else [current]) ++ before.reverse ++
          wrapWords width last (Text.columns last) ws
    else if taken = 0 then wrapWords width (current ++ w) taken ws
    else current :: wrapWords width w (Text.columns w) ws

/-- A line centred in the given width, without the blanks at its end. -/
def centre (width : Nat) (cs : List Char) : List Char :=
  let cs := (cs.reverse.dropWhile Text.isGap).reverse
  let left := (width - Text.columns cs) / 2
  let padded := spaces left ++ cs
  padded ++ spaces (width - Text.columns padded) ++ ['\n']

/-- The lines of a text, without their ends. -/
def linesOf : (current : List Char) → List Char → List (List Char)
  | current, [] => [current.reverse]
  | current, c :: cs =>
    if c = '\n' then current.reverse :: linesOf [] cs else linesOf (c :: current) cs

/-- The title above a table of the given width. -/
def drawTitle (width : Nat) (cs : List Char) : List Char :=
  (linesOf [] (expandTabs cs)).flatMap fun l =>
    (wrapWords width [] 0 (words [] false false l)).flatMap (centre width)

/-- What is shown of the cells of a row. -/
def shownRow (row : List String) : Except Markup.Unmatched (List (List Char)) :=
  row.mapM fun s => expandTabs <$> Markup.render s.toList

/-- The width of each column. -/
def widths (rows : List (List (List Char))) : List Nat :=
  match rows with
  | [] => []
  | row :: rows =>
    rows.foldl (fun ws row => ws.zipWith max (row.map Text.columns)) (row.map Text.columns)

/-- The cells of a row with their widths and places. -/
def cells (columns : List Column) (widths : List Nat) (row : List (List Char)) :
    List (List Char) :=
  ((columns.zip widths).zip row).map fun x => cell x.1.1.atRight x.1.2 x.2

/-- What a table puts on the console. -/
def draw (t : Table) : Except Markup.Unmatched (List Char) := do
  let title ← Markup.render t.title.toList
  let headings ← shownRow (t.columns.map Column.heading)
  let rows ← t.rows.mapM shownRow
  let ws := widths (headings :: rows)
  let width := ws.foldl (fun n w => n + (w + 3)) 1
  return drawTitle width title ++
    rule '┏' '━' '┳' '┓' ws ++
    line '┃' '┃' '┃' (cells t.columns ws headings) ++
    rule '┡' '━' '╇' '┩' ws ++
    rows.flatMap (fun row => line '│' '│' '│' (cells t.columns ws row)) ++
    rule '└' '─' '┴' '┘' ws

end Table

end CauseTrail.Console
