import CauseTrail.Console.Markup
import CauseTrail.Text.Width

/-!
# The console

A text with markup is printed with a line end behind it. The console is wide enough for any line;
tabs reach to the next column that is a multiple of eight.

## Main definitions

* `Console.expandTabs`: a text with its tabs as spaces
* `Console.print`: what a text with markup puts on the console
-/

namespace CauseTrail.Console

/-- The distance of the columns that tabs reach to. -/
def tabSize : Nat := 8

/-- The text from `column` on with its tabs as spaces. -/
def expandFrom : (column : Nat) → List Char → List Char
  | _, [] => []
  | column, c :: cs =>
    if c = '\t' then
      let count := tabSize - column % tabSize
      List.replicate count ' ' ++ expandFrom (column + count) cs
    else if c = '\n' then c :: expandFrom 0 cs
    else c :: expandFrom (column + Text.charColumns c) cs

/-- A text with its tabs as spaces. -/
def expandTabs (cs : List Char) : List Char := expandFrom 0 cs

/-- What a text with markup puts on the console. -/
def print (markup : List Char) : Except Markup.Unmatched (List Char) :=
  (fun shown => expandTabs shown ++ ['\n']) <$> Markup.render markup

example : expandTabs "ab\tc".toList = "ab      c".toList := by decide +kernel

end CauseTrail.Console
