import CauseTrail.Proofs.Console.Verbatim
import CauseTrail.Proofs.Telemetry.Sending
import CauseTrail.Proofs.Text.Digits

/-!
# The lines of events on the console

Events that are sent to the console are printed there in their order, each with a line end behind
it, and none is refused: the chain is escaped, so whatever brackets are in it, also if a tag begins
in one record and ends in another, nothing of it is taken for markup.

What is printed of an event is its identifier, its level and its chain as texts, one line of it,
if the chain is one line and no escape shows. That is not always so. A line end in the chain ends
the line, a backslash before a bracket that begins no tag is lost, a single backslash at the end
is doubled, emoji are shown for their codes, tabs become spaces, and characters that move the
cursor are dropped. Chains with none of these are printed as they are, and only these.

## Main definitions

* `Event.summary`: the line of an event as a text
* `Event.printed`: what is printed of it
* `Record.Plain`: a record that is printed as it is in any chain
* `Telemetry.ConsoleRun`: a run of events that are sent to the console
* `Telemetry.ShowsLines`: one line stands on the console for each event
* `Telemetry.PrintsEvents`: what a run leaves on the console

## Main results

* `Event.print_markup`: the markup of an event is printed, whatever the event says
* `Event.printed_eq_iff`, `Event.verbatim_of_records`: when the line is printed as it is
* `Telemetry.ConsoleRun.console_eq`: what a run prints
* `Telemetry.ConsoleRun.printsEvents`: when it prints one line for each event
* `Telemetry.not_showsLines_driveHub`: two events that do not get the line they should
-/

namespace CauseTrail

/-- A record that is printed as it is in any chain, whatever brackets it has. -/
structure Record.Plain (r : Record) : Prop where
  codeless : ¬ Emoji.HoldsCode r.headline.toList
  chars : ∀ c ∈ r.headline.toList, c ≠ '\\' ∧ Markup.isShown c = true ∧ c ≠ '\t' ∧ c ≠ '\n'

namespace Event

open Markup

/-- The line of an event up to its chain. -/
def opening (e : Event) : String := e.id.hex ++ " level=" ++ e.level.name ++ " "

/-- The line of an event as a text. -/
def summary (e : Event) : String := e.opening ++ e.chainText

/-- What is printed of an event, up to the line end. -/
def printed (e : Event) : List Char :=
  Console.expandTabs
    ((e.opening.toList ++ Emoji.replace (seamed e.chainText.toList)).filter isShown)

/-- Whether a character is printed whatever is around it, and ends no line. -/
def isOpening (c : Char) : Bool := isPlain c && isShown c && c ≠ '\t' && c ≠ '\n' && c ≠ ':'

theorem isOpening_iff {c : Char} : isOpening c = true ↔
    isPlain c = true ∧ isShown c = true ∧ c ≠ '\t' ∧ c ≠ '\n' ∧ c ≠ ':' := by
  simp [isOpening, and_assoc]

theorem isPlain_of_isOpening {cs : List Char} (opening : cs.all isOpening = true) :
    cs.all isPlain = true :=
  List.all_eq_true.mpr fun c there => (isOpening_iff.mp (List.all_eq_true.mp opening c there)).1

/-- No code of an emoji begins in such characters. -/
theorem colon_notMem_of_isOpening {cs : List Char} (opening : cs.all isOpening = true) :
    some ':' ∉ cs.map some := by
  intro there
  obtain ⟨c, there, same⟩ := List.mem_map.mp there
  obtain rfl := Option.some.inj same
  exact absurd (List.all_eq_true.mp opening _ there) (by decide)

theorem isOpening_hex (e : Event) : e.id.hex.toList.all isOpening = true := by
  rw [Uuid.hex, String.toList_ofList, List.all_eq_true]
  exact Text.forall_mem_hexDigits (by decide) 32 _

theorem isOpening_level (e : Event) :
    (" level=" ++ e.level.name ++ " ").toList.all isOpening = true := by
  cases e.level <;> decide +kernel

theorem toList_opening (e : Event) :
    e.opening.toList = e.id.hex.toList ++ (" level=" ++ e.level.name ++ " ").toList := by
  simp only [opening, String.toList_append, List.append_assoc]

theorem isOpening_of_mem_opening {e : Event} {c : Char} (there : c ∈ e.opening.toList) :
    isPlain c = true ∧ isShown c = true ∧ c ≠ '\t' ∧ c ≠ '\n' ∧ c ≠ ':' := by
  rw [toList_opening, List.mem_append] at there
  rcases there with there | there
  · exact isOpening_iff.mp (List.all_eq_true.mp e.isOpening_hex c there)
  · exact isOpening_iff.mp (List.all_eq_true.mp e.isOpening_level c there)

theorem toList_summary (e : Event) : e.summary.toList = e.opening.toList ++ e.chainText.toList :=
  String.toList_append

/-- The markup of an event is its line with two tags in it, and with its chain escaped. -/
theorem toList_markup (e : Event) :
    e.markup.toList = '[' :: ("bold".toList ++ ']' :: (e.id.hex.toList ++
      '[' :: ("/bold".toList ++ ']' :: ((" level=" ++ e.level.name ++ " ").toList ++
        escapeChars e.chainText.toList)))) := by
  have written : e.markup = "[bold]" ++ e.id.hex ++ "[/bold] level=" ++ e.level.name ++ " " ++
    escape e.chainText := rfl
  rw [written]
  simp [escape]

/-- **The markup of an event** is printed, whatever the event says. -/
theorem print_markup (e : Event) : Console.print e.markup.toList = .ok (e.printed ++ ['\n']) := by
  have bold : IsInner "bold".toList := fun _ => rfl
  have slashBold : IsInner "/bold".toList := fun _ => rfl
  -- from behind: the chain, the level, the closing tag, the identifier, the opening tag
  have chain := shows_escapeChars inert_nil (.nil []) e.chainText.toList
  rw [List.append_nil, List.append_nil] at chain
  have level := chain.chars (" level=" ++ e.level.name ++ " ").toList
  rw [← pieces_append (isPlain_of_isOpening e.isOpening_level)] at level
  have closing : Shows ["bold"] (.tag 0 "/bold".toList :: _) _ :=
    .closed (by decide +kernel : tagName "/bold".toList = '/' :: "bold".toList)
      (by decide +kernel) level
  rw [← pieces_tag slashBold] at closing
  have id := closing.chars e.id.hex.toList
  rw [← pieces_append (isPlain_of_isOpening e.isOpening_hex)] at id
  have whole : Shows [] (.tag 0 "bold".toList :: _) _ := .opened (by decide +kernel) id
  rw [← pieces_tag bold, ← toList_markup] at whole
  rw [Console.print, whole.render, Except.ok_map, printed, toList_opening]
  have split (cs : Seamed) : Emoji.replace (none :: none :: cs) = Emoji.replace cs := rfl
  rw [split, Emoji.replace_append (colon_notMem_of_isOpening e.isOpening_hex), split,
    Emoji.replace_append (colon_notMem_of_isOpening e.isOpening_level), Emoji.reduceOption_map_some,
    Emoji.reduceOption_map_some, List.append_assoc]

/-- **An event is printed as it is** just when its chain is. -/
theorem printed_eq_iff (e : Event) : e.printed = e.summary.toList ↔ Verbatim e.chainText.toList := by
  rw [toList_summary]
  refine Console.expandTabs_replace_eq_iff (fun c there => ?_) fun there => ?_
  · exact (isOpening_of_mem_opening there).2.1
  · exact (isOpening_of_mem_opening there).2.2.1 rfl

theorem newline_notMem_opening (e : Event) : '\n' ∉ e.opening.toList :=
  fun there => (isOpening_of_mem_opening there).2.2.2.1 rfl

theorem newline_mem_summary {e : Event} : '\n' ∈ e.summary.toList ↔ '\n' ∈ e.chainText.toList := by
  rw [toList_summary, List.mem_append, or_iff_right e.newline_notMem_opening]

theorem count_newline_summary (e : Event) :
    e.summary.toList.count '\n' = e.chainText.toList.count '\n' := by
  rw [toList_summary, List.count_append, List.count_eq_zero.mpr e.newline_notMem_opening,
    Nat.zero_add]

/-- An event is printed on as many lines as its chain has. -/
theorem count_newline_printed (e : Event) :
    e.printed.count '\n' = e.summary.toList.count '\n' := by
  rw [printed, Console.count_newline_expandTabs, toList_summary]

/-- Records joined by arrows: what holds of an arrow and of two texts around one holds of all. -/
theorem chain_induction {motive : List Char → Prop} {records : List Record} (nil : motive [])
    (each : ∀ r ∈ records, motive r.headline.toList)
    (arrow : ∀ front back, motive front → motive back → motive (front ++ " <- ".toList ++ back)) :
    motive (" <- ".intercalate (records.map Record.headline)).toList := by
  induction records with
  | nil => exact nil
  | cons r records ih =>
    have first := each r (List.mem_cons_self ..)
    cases records with
    | nil => simpa using first
    | cons r' records =>
      rw [List.map_cons, List.map_cons, String.intercalate_cons_cons, ← List.map_cons,
        String.toList_append, String.toList_append]
      exact arrow _ _ first (ih fun rec there => each rec (List.mem_cons_of_mem _ there))

/-- Induction on the chain of an event. -/
theorem chainText_induction {motive : List Char → Prop} {e : Event} (nil : motive [])
    (each : ∀ r ∈ e.records, motive r.headline.toList)
    (arrow : ∀ front back, motive front → motive back → motive (front ++ " <- ".toList ++ back)) :
    motive e.chainText.toList :=
  chain_induction nil (fun r there => each r (List.mem_reverse.mp there)) arrow

/-- No code reaches over an arrow. -/
theorem not_holdsCode_chainText {e : Event}
    (codeless : ∀ rec ∈ e.records, ¬ Emoji.HoldsCode rec.headline.toList) :
    ¬ Emoji.HoldsCode e.chainText.toList := by
  have short {text : List Char} (few : text.count ':' = 0) : ¬ Emoji.HoldsCode text :=
    fun holds => absurd (Emoji.two_le_count_of_holdsCode holds) (by omega)
  refine chainText_induction (motive := fun cs => ¬ Emoji.HoldsCode cs) (short rfl) codeless
    fun front back first second holds => ?_
  have arrow : front ++ " <- ".toList ++ back = front ++ ' ' :: (['<', '-'] ++ ' ' :: back) := by
    rw [List.append_assoc]
    rfl
  rw [arrow] at holds
  rcases Emoji.holdsCode_append_cons (by decide) holds with holds | holds
  · exact first holds
  rcases Emoji.holdsCode_append_cons (by decide) holds with holds | holds
  · exact short (by decide) holds
  · exact second holds

/-- A chain is printed as it is, on one line, if its records are plain. -/
theorem verbatim_of_records {e : Event} (plain : ∀ rec ∈ e.records, rec.Plain) :
    Verbatim e.chainText.toList ∧ '\n' ∉ e.chainText.toList := by
  have each : ∀ c ∈ e.chainText.toList, c ≠ '\\' ∧ isShown c = true ∧ c ≠ '\t' ∧ c ≠ '\n' := by
    refine chainText_induction
      (motive := fun cs => ∀ c ∈ cs, c ≠ '\\' ∧ isShown c = true ∧ c ≠ '\t' ∧ c ≠ '\n')
      (by simp) (fun rec isIn => (plain rec isIn).chars) ?_
    intro front back first second c there
    rw [List.mem_append, List.mem_append] at there
    rcases there with (there | there) | there
    · exact first c there
    · have all : " <- ".toList.all isOpening = true := by decide +kernel
      obtain ⟨isPlain, shown, tab, newline, -⟩ :=
        isOpening_iff.mp (List.all_eq_true.mp all c there)
      exact ⟨(isPlain_iff.mp isPlain).1, shown, tab, newline⟩
    · exact second c there
  refine ⟨verbatim_of_unslashed ?_ ?_ ?_ ?_, ?_⟩
  · exact fun there => (each _ there).1 rfl
  · exact not_holdsCode_chainText fun rec isIn => (plain rec isIn).codeless
  · exact fun c there => (each c there).2.1
  · exact fun there => (each _ there).2.2.1 rfl
  · exact fun there => (each _ there).2.2.2 rfl

end Event

namespace Telemetry

open Markup (isShown Verbatim)

variable {t s s' : Telemetry} {r : Ref Transport} {c : Ref Client} {e : Ref Event}
  {events : List Event}

/-- **A run of events** that are sent to the console, as they were when they were sent. In between
anything may happen that prints nothing. -/
inductive ConsoleRun (t : Telemetry) : List Event → Telemetry → Prop where
  | start : ConsoleRun t [] t
  | sent {s : Telemetry} {events : List Event} {r : Ref Transport} {e : Ref Event}
      (run : ConsoleRun t events s) (prints : s.transport r = .console) :
      ConsoleRun t (events ++ [s.event e]) (s.deliver r e).1
  | meanwhile {s s' : Telemetry} {events : List Event} (run : ConsoleRun t events s)
      (silent : s'.console = s.console) : ConsoleRun t events s'

/-- **An event that is sent to the console** is printed there, and nothing else changes. -/
theorem deliver_console (prints : s.transport r = .console) (e : Ref Event) :
    s.deliver r e =
      ({ s with console := s.console ++ Console.lines [(s.event e).printed] }, .ok ()) := by
  simp only [deliver, prints, Event.print_markup, Console.lines_singleton]

/-- What a run prints: its events one below the other. -/
theorem ConsoleRun.console_eq (run : ConsoleRun t events s) :
    s.console = t.console ++ Console.lines (events.map Event.printed) := by
  -- Induction on the run: only an event that is sent is printed.
  induction run with
  | start => exact (List.append_nil _).symm
  | sent _ prints ih =>
    rw [deliver_console prints, ih, List.map_append, Console.lines_append, List.append_assoc]
    rfl
  | meanwhile _ silent ih => exact silent.trans ih

/-- What an enabled client sends to the console is sent as the client filled it in. -/
theorem ConsoleRun.send (run : ConsoleRun t events s)
    (enabled : (s.client c).options.enabled = true)
    (prints : s.transport (s.client c).transport = .console) (e : Ref Event) :
    ConsoleRun t (events ++ [(s.event e).filled (s.client c).options]) (s.send c e).1 := by
  obtain ⟨log, ready⟩ := s.filledIn_eq c e
  have silent : (s.filledIn c e).console = s.console := by rw [ready]
  have prints' : (s.filledIn c e).transport (s.client c).transport = .console := by
    rw [ready]
    exact prints
  have sent := (run.meanwhile silent).sent prints' (e := e)
  rw [event_filledIn, if_pos rfl] at sent
  rw [send_eq enabled]
  rw [deliver_console prints'] at sent ⊢
  exact sent

/-- One line stands on the console for each event, in their order: the identifier, the level and
the chain. -/
structure ShowsLines (t s : Telemetry) (events : List Event) : Prop where
  console_eq : s.console = t.console ++ Console.lines (events.map (·.summary.toList))
  single : ∀ ev ∈ events, '\n' ∉ ev.summary.toList

/-- What a run leaves on the console. -/
structure PrintsEvents (t s : Telemetry) (events : List Event) : Prop where
  /-- Every event is printed, in their order. -/
  console_eq : s.console = t.console ++ Console.lines (events.map Event.printed)
  /-- Nothing an event says is taken for a tag: backslashes apart, all of it is shown, but for codes
  of emoji, tabs and what the console drops. -/
  unmarked : ∀ ev ∈ events, ∃ shown : Seamed,
    shown.reduceOption.filter (· ≠ '\\') = ev.chainText.toList.filter (· ≠ '\\') ∧
    ev.printed = Console.expandTabs ((ev.opening.toList ++ Emoji.replace shown).filter isShown)
  /-- An event takes a line, and one more for each line end in its chain. -/
  lineEnds : s.console.count '\n' = t.console.count '\n' +
    (events.length + (events.flatMap (·.chainText.toList)).count '\n')
  /-- The chains that are printed as they are. -/
  printed_eq_iff : ∀ ev ∈ events,
    ev.printed = ev.summary.toList ↔ Verbatim ev.chainText.toList
  /-- Each event gets its line just when no chain has a line end or is printed otherwise. -/
  showsLines_iff : t.ShowsLines s events ↔
    ∀ ev ∈ events, Verbatim ev.chainText.toList ∧ '\n' ∉ ev.chainText.toList
  /-- So it does when the records have no backslashes, codes of emoji, tabs, line ends and
  characters that the console drops, whatever brackets there are in one record or in several. -/
  showsLines : (∀ ev ∈ events, ∀ rec ∈ ev.records, rec.Plain) → t.ShowsLines s events
  /-- The next event is printed as well. -/
  next : ∀ r e, s.transport r = .console → s.deliver r e =
    ({ s with console := s.console ++ Console.lines [(s.event e).printed] }, .ok ())

/-- Each event gets its line just when all are printed as they are, and on one line. -/
theorem ConsoleRun.showsLines_iff (run : ConsoleRun t events s) : t.ShowsLines s events ↔
    ∀ ev ∈ events, Verbatim ev.chainText.toList ∧ '\n' ∉ ev.chainText.toList := by
  -- what is printed has the line ends of the text, so it is compared event by event
  have counts : (events.map Event.printed).map (List.count '\n') =
      (events.map (·.summary.toList)).map (List.count '\n') := by
    simp only [List.map_map, Function.comp_def, Event.count_newline_printed]
  have verbatim : s.console = t.console ++ Console.lines (events.map (·.summary.toList)) ↔
      ∀ ev ∈ events, Verbatim ev.chainText.toList := by
    rw [run.console_eq, List.append_cancel_left_eq, Console.lines_eq_iff counts, List.map_inj_left]
    simp only [Event.printed_eq_iff]
  have single : (∀ ev ∈ events, '\n' ∉ ev.summary.toList) ↔
      ∀ ev ∈ events, '\n' ∉ ev.chainText.toList := by
    simp only [Event.newline_mem_summary]
  rw [forall₂_and, ← verbatim, ← single]
  exact ⟨fun shows => ⟨shows.console_eq, shows.single⟩, fun both => ⟨both.1, both.2⟩⟩

/-- **What a run leaves on the console** is one line for each event as long as the chains hold
nothing that is printed otherwise. -/
theorem ConsoleRun.printsEvents (run : ConsoleRun t events s) : t.PrintsEvents s events where
  console_eq := run.console_eq
  unmarked ev _ := by
    refine ⟨Markup.seamed ev.chainText.toList, ?_, rfl⟩
    rw [Markup.reduceOption_seamed]
    exact Markup.filter_told _
  lineEnds := by
    have same (ev : Event) : ev.printed.count '\n' = ev.chainText.toList.count '\n' :=
      ev.count_newline_printed.trans ev.count_newline_summary
    rw [run.console_eq, List.count_append, Console.count_newline_lines, List.length_map,
      List.count_flatten, List.count_flatMap, List.map_map]
    simp only [Function.comp_def, same]
  printed_eq_iff ev _ := ev.printed_eq_iff
  showsLines_iff := run.showsLines_iff
  showsLines plain := run.showsLines_iff.mpr fun ev isIn => Event.verbatim_of_records (plain ev isIn)
  next r e prints := deliver_console prints e

/-- An event of two errors with brackets that are a tag only together. -/
def splitTagEvent : Event :=
  .ofRecords [.ofTexts "" "x] [/bold]", .ofTexts "E" "[red"] .warning

/-- Events on a console. -/
def consoleHub (events : Registry Event) : Telemetry where
  host := ⟨.ofDirectory [], [], []⟩
  sources := ⟨fun n => .ofNat (n + 1), fun _ => default⟩
  events := events
  transports := Registry.empty.add .console

/-- A state with such an event. -/
def splitTagHub : Telemetry := consoleHub (Registry.empty.add splitTagEvent)

/-- The laws for an event that is sent twice, with a tag that begins in one record and ends in
another. -/
theorem ConsoleRun.printsEvents_splitTagHub :
    ∃ s, ConsoleRun splitTagHub [splitTagEvent, splitTagEvent] s ∧
      splitTagHub.PrintsEvents s [splitTagEvent, splitTagEvent] ∧
      splitTagEvent.summary =
        "00000000000000000000000000000000 level=warning E: [red <- ?: x] [/bold]" ∧
      splitTagHub.ShowsLines s [splitTagEvent, splitTagEvent] := by
  have run : ConsoleRun splitTagHub [splitTagEvent, splitTagEvent] _ :=
    (ConsoleRun.start.sent (r := ⟨0⟩) (e := ⟨0⟩) rfl).sent (r := ⟨0⟩) (e := ⟨0⟩) rfl
  have prints := ConsoleRun.printsEvents run
  refine ⟨_, run, prints, by decide +kernel, prints.showsLines fun ev isIn rec isRec => ?_⟩
  simp only [List.mem_cons, List.not_mem_nil, or_false, or_self] at isIn
  obtain rfl := isIn
  have plain : splitTagEvent.records.all fun rec => rec.headline.toList.count ':' < 2 &&
      rec.headline.toList.all fun c => c ≠ '\\' && isShown c && c ≠ '\t' && c ≠ '\n' := by
    decide +kernel
  have one := List.all_eq_true.mp plain rec isRec
  rw [Bool.and_eq_true, decide_eq_true_eq] at one
  refine ⟨fun holds => absurd (Emoji.two_le_count_of_holdsCode holds) (not_le.mpr one.1), ?_⟩
  simpa [and_assoc] using List.all_eq_true.mp one.2

/-- A state with a text that ends in a backslash, and one of two lines. -/
def driveHub : Telemetry :=
  consoleHub ((Registry.empty.add (.ofRecords [.ofTexts "E" "C:\\"] .error)).add
    (.ofRecords [.ofTexts "E" "a\nb"] .error))

/-- **Two events without the line they should have**: a backslash is printed twice, and a text of
two lines is printed on two. -/
theorem not_showsLines_driveHub :
    (∃ s, ConsoleRun driveHub [driveHub.event ⟨0⟩] s ∧
      s.console = "00000000000000000000000000000000 level=error E: C:\\\\\n".toList ∧
      ¬ driveHub.ShowsLines s [driveHub.event ⟨0⟩]) ∧
    ∃ s, ConsoleRun driveHub [driveHub.event ⟨1⟩] s ∧
      s.console = "00000000000000000000000000000000 level=error E: a\nb\n".toList ∧
      ¬ driveHub.ShowsLines s [driveHub.event ⟨1⟩] := by
  refine ⟨⟨_, ConsoleRun.start.sent (r := ⟨0⟩) (e := ⟨0⟩) rfl, by decide +kernel, ?_⟩,
    ⟨_, ConsoleRun.start.sent (r := ⟨0⟩) (e := ⟨1⟩) rfl, by decide +kernel, ?_⟩⟩
  · intro shows
    exact absurd shows.console_eq (by decide +kernel)
  · intro shows
    exact shows.single _ (List.mem_singleton.mpr rfl) (by decide +kernel)

end Telemetry

end CauseTrail
