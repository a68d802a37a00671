import CauseTrail.Proofs.Event.CauseRecords
import CauseTrail.Proofs.Event.ContextLinks
import Mathlib.Data.Nat.Find

/-!
# Which failure is told

A chain may be wrong in several places. The walk along the causes comes first, and is stopped by a
fault that is no error or raises a failure in place of its cause; whatever the texts of the links
are, none of them is asked for by then. Only behind a walk that reaches the root are the links asked
for their texts, from the outermost one inward, each for its debug text before its display text, and
the first failure ends it.

The questions are those that the making of an event keeps itself, so that the order is one of what
is asked and not only of what comes of it. Every link may fail to answer each of its questions, each
with a failure of its own.

## Main definitions

* `Fault.upTo`: the first links of a fault
* `Asked.sources`, `Asked.texts`, `Asked.textsTo`: questions in a row
* `Fault.StopsAt`: where and why a walk is stopped
* `Fault.MuteAt`: which text of which link is the first to be missing behind a complete walk
* `Event.FailsInOrder`: how an event fails to be made

## Main results

* `Fault.chain_of_stopsAt`, `Link.asked_inquire_of_stopsAt`: what a walk comes to that is stopped
* `Link.asked_inquire_of_walk`: the questions of a complete walk
* `Event.ofFault_failsInOrder`: the order of failures
-/

namespace CauseTrail

variable {naming : TypeNaming} {follow : Bool} {f g c : Fault} {q : Question} {x : FaultError}
  {i : Nat}

/-! ## The first links of a fault -/

namespace Fault

/-- The faults that are reached from a fault through fewer causes than a number, the fault itself
first. -/
def upTo (follow : Bool) : Nat → Fault → List Fault
  | 0, _ => []
  | n + 1, f => f :: ((f.cause? follow).map (upTo follow n)).getD []

theorem upTo_one (follow : Bool) (f : Fault) : f.upTo follow 1 = [f] := by
  rw [upTo]
  cases f.cause? follow <;> rfl

theorem upTo_succ_of_cause? (h : f.cause? follow = some c) (n : Nat) :
    f.upTo follow (n + 1) = f :: c.upTo follow n := by
  rw [upTo, h, Option.map_some, Option.getD_some]

/-- The first links stand at their distances from the fault. -/
theorem getElem?_upTo (follow : Bool) (n : Nat) (f : Fault) (i : Nat) :
    (f.upTo follow n)[i]? = if i < n then f.causeAt? follow i else none := by
  induction n generalizing f i with
  | zero => rfl
  | succ n ih =>
    cases i with
    | zero => rfl
    | succ i =>
      rw [upTo, List.getElem?_cons_succ, causeAt?_succ]
      cases f.cause? follow with
      | none => simp
      | some c => simp only [Option.map_some, Option.getD_some, ih, Option.bind_some,
          Nat.add_lt_add_iff_right]

/-- The front of a list of all links has the first of them. -/
theorem take_eq_upTo {fs : List Fault} (nth : ∀ i, fs[i]? = f.causeAt? follow i) (n : Nat) :
    fs.take n = f.upTo follow n := by
  apply List.ext_getElem?
  intro i
  rw [List.getElem?_take, getElem?_upTo, nth]

theorem eq_upTo {fs : List Fault} (nth : ∀ i, fs[i]? = f.causeAt? follow i) :
    fs = f.upTo follow fs.length := by
  rw [← take_eq_upTo nth, List.take_length]

end Fault

namespace Asked

/-- Links that are asked for their causes. -/
def sources (fs : List Fault) : List Asked := fs.map (⟨·, .source⟩)

/-- Links that are asked for their texts. -/
def texts (fs : List Fault) : List Asked := fs.flatMap fun f => [⟨f, .debug⟩, ⟨f, .display⟩]

/-- A link that is asked for its texts up to the one that is missing. -/
def textsTo (f : Fault) : Question → List Asked
  | .debug => [⟨f, .debug⟩]
  | q => [⟨f, .debug⟩, ⟨f, q⟩]

end Asked

/-! ## Where a walk is stopped -/

namespace Fault

/-- A fault that a walk does not get beyond, and why: a value that is no error, or an error that
raises a failure in place of its cause. -/
inductive Stops : Fault → FaultError → Prop where
  | notAnError (kind : String) : Stops (.other kind) (.notAnError kind)
  | failed (kind : String) (debug display : Answer) (failure : Failure) :
    Stops (.foreign kind debug display (.error failure)) (.failed failure)

/-- A walk is stopped at a distance from the fault. -/
structure StopsAt (follow : Bool) (f : Fault) (i : Nat) (g : Fault) (x : FaultError) : Prop where
  reached : f.causeAt? follow i = some g
  stops : g.Stops x

/-- A walk is stopped nowhere. -/
def Walkable (follow : Bool) (f : Fault) : Prop :=
  ∀ i g, f.causeAt? follow i = some g → ∀ x, ¬ g.Stops x

theorem stops_iff : g.Stops x ↔ g.source? follow = .error x := by
  constructor
  · rintro (_ | _) <;> rfl
  · intro refused
    cases g with
    | raised => cases refused
    | simple => cases refused
    | foreign kind debug display cause =>
      cases cause with
      | error failure =>
        obtain rfl := Except.error.inj refused
        exact .failed kind debug display failure
      | ok => cases refused
    | other kind =>
      obtain rfl := Except.error.inj refused
      exact .notAnError kind

/-- Nothing is behind a fault that stops a walk. -/
theorem Stops.cause?_eq (stops : f.Stops x) : f.cause? follow = none := by
  cases stops <;> rfl

/-- A fault that does not stop a walk names its cause. -/
theorem source?_eq (follow : Bool) (names : ∀ x, ¬ f.Stops x) :
    f.source? follow = .ok (f.cause? follow) := by
  apply source?_eq_of_ok
  cases named : f.source? follow with
  | ok source? => exact ⟨source?, rfl⟩
  | error x => exact absurd (stops_iff.mpr named) (names x)

/-- A walk is stopped somewhere or nowhere. -/
theorem walkable_or_stopsAt (follow : Bool) (f : Fault) :
    f.Walkable follow ∨ ∃ i g x, f.StopsAt follow i g x := by
  by_cases some : ∃ i g x, f.StopsAt follow i g x
  · exact .inr some
  · exact .inl fun i g reached x stops => some ⟨i, g, x, reached, stops⟩

/-- A walk that is stopped behind the fault is stopped there on the way from its cause. -/
theorem StopsAt.exists_cause (stops : f.StopsAt follow (i + 1) g x) :
    ∃ c, f.cause? follow = some c ∧ f.source? follow = .ok (some c) ∧ c.StopsAt follow i g x := by
  have reached := stops.reached
  rw [causeAt?_succ] at reached
  obtain ⟨c, cause, reached⟩ := Option.bind_eq_some_iff.mp reached
  have names (y : FaultError) (stops : f.Stops y) : False := by
    cases cause.symm.trans stops.cause?_eq
  exact ⟨c, cause, by rw [source?_eq follow names, cause], reached, stops.stops⟩

/-- Where a walk is stopped there is no chain. -/
theorem chain_of_stopsAt (stops : f.StopsAt follow i g x) : f.chain follow = .error x := by
  induction i generalizing f with
  | zero =>
    obtain rfl := Option.some.inj stops.reached
    have refused : f.source? follow = .error x := stops_iff.mp stops.stops
    rw [chain_eq, refused]
    rfl
  | succ i ih =>
    obtain ⟨c, -, named, below⟩ := stops.exists_cause
    rw [chain_eq, named]
    simp [Except.bind, ih below]

/-- The chain of a fault from which all causes are reached lists them. -/
theorem Walkable.exists_chain (walks : f.Walkable follow) :
    ∃ chain, f.chain follow = .ok chain ∧ ∀ i, chain[i]? = f.causeAt? follow i :=
  exists_chain_of_source? f fun i g reached => ⟨_, source?_eq follow (walks i g reached)⟩

/-- A fault that is taken for no link is no error. -/
theorem exists_eq_other (taken : Link.ofFault? follow f = .error x) : ∃ kind, f = .other kind := by
  cases f <;> first | exact ⟨_, rfl⟩ | cases taken

/-- A value that is no error stops the walk where it is. -/
theorem StopsAt.eq_zero {kind : String} (stops : (other kind).StopsAt follow i g x) :
    i = 0 ∧ g = .other kind := by
  cases i with
  | zero => exact ⟨rfl, (Option.some.inj stops.reached).symm⟩
  | succ i =>
    obtain ⟨_, cause, -⟩ := stops.exists_cause
    cases cause

end Fault

/-- The questions of a walk that is stopped: the link where it is stopped is asked for its cause,
unless it is no error, and so are all links before. -/
theorem Link.asked_inquire_of_stopsAt {passed : List Link} {l : Link} (keeps : l.Keeps follow)
    (stops : l.fault.StopsAt follow i g x) : (l.inquire follow passed).asked =
      Asked.sources (l.fault.upTo follow (if g.isError then i + 1 else i)) := by
  induction i generalizing l passed with
  | zero =>
    obtain rfl := Option.some.inj stops.reached
    have refused : l.next? follow = .error x := by
      rw [next?_eq keeps, Fault.stops_iff.mp stops.stops]
      rfl
    have isError : l.fault.isError = true := by cases l <;> rfl
    rw [inquire_of_error refused, if_pos isError, Fault.upTo_one]
    rfl
  | succ i ih =>
    obtain ⟨c, cause, named, below⟩ := stops.exists_cause
    have next := next?_eq keeps
    rw [named, Except.ok_bind] at next
    dsimp only at next
    cases taken : ofFault? follow c with
    | error y =>
      obtain ⟨kind, rfl⟩ := Fault.exists_eq_other taken
      obtain ⟨rfl, rfl⟩ := below.eq_zero
      rw [taken, Except.error_map] at next
      rw [inquire_of_error next, if_neg (by simp [Fault.isError]), Fault.upTo_one]
      rfl
    | ok m =>
      obtain rfl := fault_of_ofFault? taken
      rw [taken, Except.ok_map] at next
      have rest : (m.inquire follow (l :: passed)).asked = _ :=
        ih (keeps_of_ofFault? taken) below
      have count : (if g.isError then i + 1 + 1 else i + 1) =
          (if g.isError then i + 1 else i) + 1 := by split <;> rfl
      rw [inquire_of_some next, Inquiry.asked_behind, rest, count, Fault.upTo_succ_of_cause? cause]
      rfl

/-- The questions of a complete walk: each link that it passes is asked for its cause. -/
theorem Link.asked_inquire_of_walk {passed links : List Link} {l : Link}
    (walked : l.walk follow passed = .ok links) : ∃ found, links = passed.reverse ++ found ∧
      (l.inquire follow passed).asked = Asked.sources (found.map fault) := by
  rw [walk] at walked
  fun_induction Link.inquire follow passed l with
  | case1 passed l x h => cases walked
  | case2 passed l h =>
    obtain rfl := Except.ok.inj walked
    exact ⟨[l], List.reverse_cons .., rfl⟩
  | case3 passed l c h ih =>
    obtain ⟨found, rfl, asked⟩ := ih walked
    refine ⟨l :: found, by rw [List.reverse_cons, List.append_assoc, List.singleton_append], ?_⟩
    rw [Inquiry.asked_behind, asked]
    rfl

/-- A walk that stops has asked the links on its way, one after the other, for what is behind. -/
theorem Fault.asked_inquire_of_stopsAt (stops : f.StopsAt follow i g x) :
    (f.inquire follow).asked =
      Asked.sources (f.upTo follow (if g.isError then i + 1 else i)) := by
  cases taken : Link.ofFault? follow f with
  | error y =>
    obtain ⟨kind, rfl⟩ := Fault.exists_eq_other taken
    obtain ⟨rfl, rfl⟩ := stops.eq_zero
    rfl
  | ok l =>
    obtain rfl := Link.fault_of_ofFault? taken
    rw [inquire, taken, Inquiry.known, Inquiry.bind_ok, List.nil_append]
    exact Link.asked_inquire_of_stopsAt (Link.keeps_of_ofFault? taken) stops

/-- A walk that ends has asked each of its links once. -/
theorem Fault.asked_inquire_of_walk {links : List Link} (walked : f.walk follow = .ok links) :
    (f.inquire follow).asked = Asked.sources (links.map Link.fault) := by
  rw [walk_eq] at walked
  obtain ⟨l, taken, walked⟩ := Except.bind_eq_ok_iff.mp walked
  obtain ⟨found, rfl, asked⟩ := Link.asked_inquire_of_walk walked
  rw [inquire, taken, Inquiry.known, Inquiry.bind_ok]
  exact asked

/-! ## Which text is missing -/

namespace Fault

/-- A fault that fails to form a text: the first one of its two that is missing, and why. -/
inductive Mute (f : Fault) : Question → FaultError → Prop where
  | debug {x : FaultError} (missing : f.debugText = .error x) : Mute f .debug x
  | display {text : String} {x : FaultError} (formed : f.debugText = .ok text)
    (missing : f.displayText = .error x) : Mute f .display x

/-- A fault that forms both its texts. -/
structure Speaks (f : Fault) : Prop where
  debug : ∃ text, f.debugText = .ok text
  display : ∃ text, f.displayText = .ok text

/-- All causes are reached, and the first text to be missing is that of a link at a distance. -/
structure MuteAt (follow : Bool) (f : Fault) (i : Nat) (g : Fault) (q : Question)
    (x : FaultError) : Prop where
  walkable : f.Walkable follow
  reached : f.causeAt? follow i = some g
  mute : g.Mute q x
  before : ∀ j < i, ∀ h, f.causeAt? follow j = some h → h.Speaks

theorem speaks_or_mute (f : Fault) : f.Speaks ∨ ∃ q x, f.Mute q x := by
  cases debug : f.debugText with
  | error x => exact .inr ⟨_, x, .debug debug⟩
  | ok text =>
    cases display : f.displayText with
    | error x => exact .inr ⟨_, x, .display debug display⟩
    | ok text' => exact .inl ⟨⟨text, debug⟩, text', display⟩

end Fault

namespace Record

/-- The questions for the texts of a link that forms both. -/
theorem inquire_of_speaks (naming : TypeNaming) (speaks : f.Speaks) :
    ∃ r, inquire naming f = ⟨Asked.texts [f], .ok r⟩ := by
  obtain ⟨⟨debug, hd⟩, display, hs⟩ := speaks
  refine ⟨.ofTexts (naming debug) display, ?_⟩
  simp only [inquire, Fault.askDebug, Fault.askDisplay, Inquiry.ask, hd, hs, Inquiry.bind_ok]
  rfl

/-- The questions for the texts of a link up to the one that is missing. -/
theorem inquire_of_mute (naming : TypeNaming) (mute : f.Mute q x) :
    inquire naming f = ⟨Asked.textsTo f q, .error x⟩ := by
  cases mute with
  | debug missing =>
    simp only [inquire, Fault.askDebug, Inquiry.ask, missing, Inquiry.bind_error]
    rfl
  | display formed missing =>
    simp only [inquire, Fault.askDebug, Fault.askDisplay, Inquiry.ask, formed, missing,
      Inquiry.bind_ok, Inquiry.bind_error]
    rfl

/-- The questions for the texts of links up to the one that is missing. -/
theorem mapM_inquire_of_mute {fs : List Fault} (there : fs[i]? = some g) (mute : g.Mute q x)
    (before : ∀ j < i, ∀ h, fs[j]? = some h → h.Speaks) :
    fs.mapM (inquire naming) = ⟨Asked.texts (fs.take i) ++ Asked.textsTo g q, .error x⟩ := by
  induction fs generalizing i with
  | nil => cases there
  | cons f fs ih =>
    cases i with
    | zero =>
      obtain rfl := Option.some.inj there
      rw [List.mapM_cons, inquire_of_mute naming mute, Inquiry.bind_error]
      rfl
    | succ i =>
      obtain ⟨r, asked⟩ := inquire_of_speaks naming (before 0 (Nat.succ_pos i) f rfl)
      have rest := ih there fun j less => before (j + 1) (Nat.succ_lt_succ less)
      rw [List.mapM_cons, asked, Inquiry.bind_ok, rest, Inquiry.bind_error, List.take_succ_cons,
        ← List.append_assoc]
      rfl

/-- The questions for the texts of links that form all of them. -/
theorem mapM_inquire_of_speaks (naming : TypeNaming) {fs : List Fault}
    (speak : ∀ f ∈ fs, f.Speaks) :
    ∃ rs, rs.length = fs.length ∧ fs.mapM (inquire naming) = ⟨Asked.texts fs, .ok rs⟩ := by
  induction fs with
  | nil => exact ⟨[], rfl, rfl⟩
  | cons f fs ih =>
    obtain ⟨first, others⟩ := List.forall_mem_cons.mp speak
    obtain ⟨r, asked⟩ := inquire_of_speaks naming first
    obtain ⟨rs, count, rest⟩ := ih others
    refine ⟨r :: rs, congrArg (· + 1) count, ?_⟩
    rw [List.mapM_cons, asked, Inquiry.bind_ok, rest, Inquiry.bind_ok]
    exact congrArg (Inquiry.mk · _) (congrArg (Asked.texts [f] ++ ·) (List.append_nil _))

end Record

/-! ## The order of failures -/

/-- How the event of a fault fails to be made, with the questions that are put until then. -/
structure Event.FailsInOrder (naming : TypeNaming) (follow : Bool) (f : Fault) : Prop where
  /-- The fault that stops the walk decides, whatever else is wrong. Until then the links before it
  are asked for their causes, and so is that one, unless it is no error; none is asked for a text,
  and none that lies behind is asked at all. -/
  stopped : ∀ i g x, f.StopsAt follow i g x → ofFault naming follow f = .error x ∧
    (inquire naming follow f).asked =
      Asked.sources (f.upTo follow (if g.isError then i + 1 else i))
  /-- Where all causes are reached, each was asked for its own; then the links are asked for their
  texts in order, and the first text that is missing decides. -/
  muted : ∀ i g q x, f.MuteAt follow i g q x → ofFault naming follow f = .error x ∧
    ∃ n, (∀ j, j < n ↔ (f.causeAt? follow j).isSome) ∧
      (inquire naming follow f).asked = Asked.sources (f.upTo follow n) ++
        (Asked.texts (f.upTo follow i) ++ Asked.textsTo g q)
  /-- There is no other failure. -/
  failed : ∀ x, ofFault naming follow f = .error x →
    (∃ i g, f.StopsAt follow i g x) ∨ ∃ i g q, f.MuteAt follow i g q x
  /-- The event is made just when all causes are reached and all texts are formed; then all
  questions were put. -/
  made_iff : (∃ e, ofFault naming follow f = .ok e) ↔
    f.Walkable follow ∧ ∀ i g, f.causeAt? follow i = some g → g.Speaks
  made : ∀ e, ofFault naming follow f = .ok e → (inquire naming follow f).asked =
    Asked.sources (f.upTo follow e.records.length) ++ Asked.texts (f.upTo follow e.records.length)

namespace Event

/-- A walk that reaches all causes, and what is left to be asked behind it. -/
theorem exists_walk (naming : TypeNaming) (walks : f.Walkable follow) :
    ∃ fs : List Fault, (∀ i, fs[i]? = f.causeAt? follow i) ∧
      inquire naming follow f = ⟨Asked.sources fs ++ (fs.mapM (Record.inquire naming)).asked,
        (fun records => ofRecords records.reverse .error) <$>
          (fs.mapM (Record.inquire naming)).result⟩ := by
  obtain ⟨chain, hc, nth⟩ := walks.exists_chain
  obtain ⟨links, walked, rfl⟩ := Fault.exists_walk_of_chain hc
  refine ⟨_, nth, ?_⟩
  have found : f.inquire follow = ⟨Asked.sources (links.map Link.fault), .ok links⟩ := by
    rw [← Fault.asked_inquire_of_walk walked, ← walked]
    rfl
  have rest : (links.mapM fun l => Record.inquire naming l.fault) =
      (links.map Link.fault).mapM (Record.inquire naming) := by
    rw [List.mapM_map]
    rfl
  rw [inquire, found, Inquiry.bind_ok, rest]
  rcases (links.map Link.fault).mapM (Record.inquire naming) with ⟨asked, x | records⟩
  · rfl
  · simp only [Inquiry.bind_ok, Inquiry.asked_pure, List.append_nil, Inquiry.result_pure,
      Except.ok_map]

/-- Behind a complete walk a text is missing, or none is. -/
theorem muteAt_or_speaks (walks : f.Walkable follow) :
    (∃ i g q x, f.MuteAt follow i g q x) ∨ ∀ i g, f.causeAt? follow i = some g → g.Speaks := by
  by_cases some : ∃ i g q x, f.causeAt? follow i = some g ∧ g.Mute q x
  · -- the first distance at which a text is missing
    classical
    obtain ⟨g, q, x, reached, mute⟩ := Nat.find_spec some
    refine .inl ⟨Nat.find some, g, q, x, walks, reached, mute, ?_⟩
    intro j before h there
    rcases h.speaks_or_mute with speaks | ⟨q', y, mute'⟩
    · exact speaks
    · exact absurd ⟨h, q', y, there, mute'⟩ (Nat.find_min some before)
  · refine .inr fun i g reached => ?_
    rcases g.speaks_or_mute with speaks | ⟨q, x, mute⟩
    · exact speaks
    · exact absurd ⟨i, g, q, x, reached, mute⟩ some

/-- An event whose walk stops has no text asked for. -/
theorem inquire_of_stopsAt (stops : f.StopsAt follow i g x) : inquire naming follow f =
    ⟨Asked.sources (f.upTo follow (if g.isError then i + 1 else i)), .error x⟩ := by
  have stopped : f.walk follow = .error x :=
    Fault.walk_eq_error_iff.mpr (Fault.chain_of_stopsAt stops)
  have found : f.inquire follow =
      ⟨Asked.sources (f.upTo follow (if g.isError then i + 1 else i)), .error x⟩ := by
    rw [← Fault.asked_inquire_of_stopsAt stops, ← stopped]
    rfl
  rw [inquire, found, Inquiry.bind_error]

/-- A text that is missing behind a complete walk, with all questions up to it. -/
theorem inquire_of_muteAt (mute : f.MuteAt follow i g q x) :
    ∃ n, (∀ j, j < n ↔ (f.causeAt? follow j).isSome) ∧ inquire naming follow f =
      ⟨Asked.sources (f.upTo follow n) ++ (Asked.texts (f.upTo follow i) ++ Asked.textsTo g q),
        .error x⟩ := by
  obtain ⟨fs, nth, asked⟩ := exists_walk naming mute.walkable
  have missing : fs.mapM (Record.inquire naming) =
      ⟨Asked.texts (fs.take i) ++ Asked.textsTo g q, .error x⟩ := by
    apply Record.mapM_inquire_of_mute ((nth i).trans mute.reached) mute.mute
    intro j less h there
    exact mute.before j less h ((nth j).symm.trans there)
  refine ⟨fs.length, fun j => by simp [← nth], ?_⟩
  rw [asked, missing, Fault.take_eq_upTo nth, ← Fault.eq_upTo nth, Except.error_map]

/-- An event that is made, with all questions. -/
theorem inquire_of_speaks (naming : TypeNaming) (walks : f.Walkable follow)
    (speak : ∀ i g, f.causeAt? follow i = some g → g.Speaks) :
    ∃ e, inquire naming follow f = ⟨Asked.sources (f.upTo follow e.records.length) ++
      Asked.texts (f.upTo follow e.records.length), .ok e⟩ := by
  obtain ⟨fs, nth, asked⟩ := exists_walk naming walks
  have all : ∀ g ∈ fs, g.Speaks := by
    intro g there
    obtain ⟨i, hi⟩ := List.mem_iff_getElem?.mp there
    exact speak i g ((nth i).symm.trans hi)
  obtain ⟨records, count, formed⟩ := Record.mapM_inquire_of_speaks naming all
  refine ⟨ofRecords records.reverse .error, ?_⟩
  have length : (ofRecords records.reverse .error).records.length = fs.length := by
    simp [ofRecords, count]
  rw [asked, formed, Except.ok_map, length, ← Fault.eq_upTo nth]

/-- **The order of failures.** The walk along the causes comes before all texts, and in both the
outermost failure is the one that is told. -/
theorem ofFault_failsInOrder (naming : TypeNaming) (follow : Bool) (f : Fault) :
    FailsInOrder naming follow f := by
  have stopped : ∀ i g x, f.StopsAt follow i g x → ofFault naming follow f = .error x := by
    intro i g x stops
    rw [ofFault, inquire_of_stopsAt stops]
  have muted : ∀ i g q x, f.MuteAt follow i g q x → ofFault naming follow f = .error x := by
    intro i g q x mute
    obtain ⟨n, -, asked⟩ := inquire_of_muteAt mute
    rw [ofFault, asked]
  constructor
  case stopped =>
    intro i g x stops
    exact ⟨stopped i g x stops, by rw [inquire_of_stopsAt stops]⟩
  case muted =>
    intro i g q x mute
    obtain ⟨n, count, asked⟩ := inquire_of_muteAt mute
    exact ⟨muted i g q x mute, n, count, by rw [asked]⟩
  case failed =>
    intro x failed
    rcases f.walkable_or_stopsAt follow with walks | ⟨i, g, y, stops⟩
    · rcases muteAt_or_speaks walks with ⟨i, g, q, y, mute⟩ | speak
      · obtain rfl := Except.error.inj (failed.symm.trans (muted i g q y mute))
        exact .inr ⟨i, g, q, mute⟩
      · obtain ⟨e, asked⟩ := inquire_of_speaks naming walks speak
        rw [ofFault, asked] at failed
        cases failed
    · obtain rfl := Except.error.inj (failed.symm.trans (stopped i g y stops))
      exact .inl ⟨i, g, stops⟩
  case made_iff =>
    constructor
    · rintro ⟨e, made⟩
      rcases f.walkable_or_stopsAt follow with walks | ⟨i, g, y, stops⟩
      · refine ⟨walks, ?_⟩
        rcases muteAt_or_speaks walks with ⟨i, g, q, y, mute⟩ | speak
        · cases made.symm.trans (muted i g q y mute)
        · exact speak
      · cases made.symm.trans (stopped i g y stops)
    · rintro ⟨walks, speak⟩
      obtain ⟨e, asked⟩ := inquire_of_speaks naming walks speak
      exact ⟨e, by rw [ofFault, asked]⟩
  case made =>
    intro e made
    rcases f.walkable_or_stopsAt follow with walks | ⟨i, g, y, stops⟩
    · rcases muteAt_or_speaks walks with ⟨i, g, q, y, mute⟩ | speak
      · cases made.symm.trans (muted i g q y mute)
      · obtain ⟨e', asked⟩ := inquire_of_speaks naming walks speak
        rw [ofFault, asked] at made
        obtain rfl := Except.ok.inj made
        rw [asked]
    · cases made.symm.trans (stopped i g y stops)

/-- Of an error that fails to form either text, the failure of the debug text is told, and a root
that is no error hides both. -/
example (x y : Failure) :
    let mute cause? : Fault := .foreign "Remote" (.error x) (.error y) (.ok cause?)
    ofFault TypeName.ofDebug true (mute none) = .error (.failed x) ∧
      ofFault TypeName.ofDebug true (mute (some (mute (some (.other "int"))))) =
        .error (.notAnError "int") := by
  intro mute
  rw [ofFault_eq_chain, ofFault_eq_chain]
  exact ⟨rfl, rfl⟩

end Event

end CauseTrail
