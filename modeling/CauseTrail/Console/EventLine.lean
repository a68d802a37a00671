import CauseTrail.Console.Screen
import CauseTrail.Event.Basic
import CauseTrail.Value.Literal

/-!
# Events on the console

An event takes one line of the console: its identifier, its level, and its chain with the
outermost error first. The texts of the errors are shown as they are, with no markup in them.

## Main definitions

* `Event.chainText`: the chain of an event in one line
* `Event.markup`: the line with its markup
-/

namespace CauseTrail

/-- A record in one phrase; a question mark stands for an empty type. -/
def Record.headline (r : Record) : String :=
  (if r.type = "" then "?" else r.type) ++ ": " ++ r.value?.getD Value.null.literal

namespace Event

/-- The chain of an event, the outermost error first. -/
def chainText (e : Event) : String := " <- ".intercalate (e.records.reverse.map Record.headline)

/-- The line of an event with its markup. -/
def markup (e : Event) : String :=
  s!"[bold]{e.id.hex}[/bold] level={e.level.name} " ++ Markup.escape e.chainText

end Event

end CauseTrail
