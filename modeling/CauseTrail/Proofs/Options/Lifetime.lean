import CauseTrail.Proofs.Config.Layers
import CauseTrail.Telemetry.Start

/-!
# The lifetime of options

Options come about in several ways, of values of all kinds, and are then assigned to, with success
or without. Each option takes only values that plainly stand for one of its own kind, and what it
makes of such a value is of that kind and stands for itself. Therefore options hold values of the
right kinds at all times: their mapping makes the same options again, and they choose a transport
unless they want lines in a file and name no file.

## Main definitions

* `Options.Field.Fits`, `Options.Field.Granted`: the values of the kind of an option, and those that
  it was given or made of what it was given
* `Options.attempt`, `Options.after`: the options after assignments, of which some may be refused
* `Options.Reached`: the options that a program can come by
* `Options.Sound`: what holds of them

## Main results

* `Options.Field.accept_eq_self_iff`: the values that stand for themselves are those that fit
* `Options.ofMapping?_dump`: the mapping of options makes them again
* `Transport.ofOptions?_eq_error_iff`: the options that choose no transport
* `Options.get_after`: of all assignments to an option the last one that was taken counts
* `Options.Reached.granted`: options that a program can come by hold nothing else than was granted
* `Options.reached_sound`: what holds of the options that a program can come by
-/

namespace CauseTrail

open Options (Field)

namespace Options

variable {o o' : Options} {f : Field} {v w : Value} {m : Mapping} {name : String}

/-! ## Values that fit -/

/-- A value is of the kind that an option holds. -/
def Field.Fits (f : Field) (v : Value) : Prop :=
  match f with
  | .enabled | .debug | .followContext => ∃ b, v = .bool b
  | .release | .environment | .serverName | .transportPath => v = .null ∨ ∃ s, v = .text s
  | .transport => ∃ s ∈ ["null", "memory", "console", "jsonl"], v = .text s

/-- What an option makes of a value fits. -/
theorem Field.fits_of_accept (accepted : f.accept v = .ok w) : f.Fits w := by
  obtain ⟨o, assigned, rfl⟩ := Except.map_eq_ok_iff.mp accepted
  cases f with
  | enabled | debug | followContext =>
    obtain ⟨b, -, rfl⟩ := Except.map_eq_ok_iff.mp assigned
    exact ⟨b, rfl⟩
  | release | environment | serverName | transportPath =>
    obtain ⟨_ | s, -, rfl⟩ := Except.map_eq_ok_iff.mp assigned
    · exact .inl rfl
    · exact .inr ⟨s, rfl⟩
  | transport =>
    obtain ⟨k, -, rfl⟩ := Except.map_eq_ok_iff.mp assigned
    exact ⟨k.name, by cases k <;> decide, rfl⟩

/-- A value that fits is taken as it is. -/
theorem Field.accept_of_fits (fits : f.Fits v) : f.accept v = .ok v := by
  cases f with
  | enabled | debug | followContext =>
    obtain ⟨b, rfl⟩ := fits
    rfl
  | release | environment | serverName | transportPath =>
    obtain rfl | ⟨s, rfl⟩ := fits <;> rfl
  | transport =>
    obtain ⟨s, known, rfl⟩ := fits
    simp only [List.mem_cons, List.not_mem_nil, or_false] at known
    obtain rfl | rfl | rfl | rfl := known <;> rfl

/-- The values that stand for themselves are those that fit. -/
theorem Field.accept_eq_self_iff : f.accept v = .ok v ↔ f.Fits v :=
  ⟨fits_of_accept, accept_of_fits⟩

/-- What options hold fits. -/
theorem fits_get (o : Options) (f : Field) : f.Fits (o.get f) := by
  have text (s? : Option String) : textOrNull s? = .null ∨ ∃ s, textOrNull s? = .text s := by
    cases s? with
    | none => exact .inl rfl
    | some s => exact .inr ⟨s, rfl⟩
  cases f with
  | enabled | debug | followContext => exact ⟨_, rfl⟩
  | release | environment | serverName | transportPath => exact text _
  | transport =>
    obtain ⟨k, same⟩ : ∃ k, k = o.transport := ⟨_, rfl⟩
    exact ⟨k.name, by cases k <;> decide, by rw [same]; rfl⟩

/-! ## The mapping of options -/

theorem textOrNull_injective : Function.Injective textOrNull := by
  rintro (_ | s) (_ | s') same <;> cases same <;> rfl

/-- Options are the values that they hold. -/
theorem ext_get (same : ∀ f, o.get f = o'.get f) : o = o' := by
  have kind : o.transport = o'.transport := by
    have found := TransportKind.ofName?_name o.transport
    rw [Value.text.inj (same .transport), TransportKind.ofName?_name] at found
    exact (Option.some.inj found).symm
  have enabled := Value.bool.inj (same .enabled)
  have debug := Value.bool.inj (same .debug)
  have follow := Value.bool.inj (same .followContext)
  have release := textOrNull_injective (same .release)
  have environment := textOrNull_injective (same .environment)
  have server := textOrNull_injective (same .serverName)
  have path := textOrNull_injective (same .transportPath)
  cases o
  cases o'
  simp_all only

/-- The mapping that gives a value to every option, and nothing else. -/
def entries (given : Field → Value) : Mapping := Field.all.map fun f => (.text f.name, given f)

/-- Each option is given its value. -/
theorem get?_entries (given : Field → Value) (f : Field) :
    (entries given).get? f.name = some (given f) := by
  cases f <;> simp [entries, Field.all, Field.name]

/-- Values that fit make options that hold just them. -/
theorem exists_ofMapping?_entries {given : Field → Value} (fits : ∀ f : Field, f.Fits (given f)) :
    ∃ o, ofMapping? (entries given) = .ok o ∧ o.get = given := by
  have fine : Options.issues (entries given) = [] := by
    rw [issues_eq (get?_entries given), List.append_eq_nil_iff]
    constructor
    · refine List.filterMap_eq_nil_iff.mpr fun f _ => ?_
      exact rejection?_eq_none_iff.mpr ⟨_, Field.accept_of_fits (fits f)⟩
    · refine List.filterMap_eq_nil_iff.mpr fun e entry => ?_
      obtain ⟨f, -, rfl⟩ := List.mem_map.mp entry
      exact keyIssue?_eq_none_iff.mpr ⟨f, rfl⟩
  refine ⟨overlay {} (entries given), by rw [ofMapping?, fine], funext fun f => ?_⟩
  rw [get_overlay, get?_entries, Option.bind_some, Field.accept_of_fits (fits f)]
  rfl

/-- The mapping of options that hold what fits makes them again. -/
theorem ofMapping?_dump (fits : ∀ f : Field, f.Fits (o.get f)) : ofMapping? o.dump = .ok o := by
  obtain ⟨o', made, same⟩ := exists_ofMapping?_entries fits
  obtain rfl := ext_get (congrFun same)
  exact made

/-- Options of a mapping are the values that the options make of what it gives, or defaults. -/
theorem get_of_ofMapping? (made : ofMapping? m = .ok o) (f : Field) : o.get f =
    ((m.get? f.name).bind fun v => (f.accept v).toOption).getD (({} : Options).get f) := by
  rw [ofMapping?] at made
  split at made
  · obtain rfl := Except.ok.inj made
    exact get_overlay {} m f
  · cases made

/-- Options that are not overridden are kept. -/
theorem get_override (laid : o.override? m = .ok o') (distinct : m.Distinct)
    (free : m.get? f.name = none) (fits : f.Fits (o.get f)) : o'.get f = o.get f := by
  rw [get_of_ofMapping? laid, Mapping.get?_update, distinct.get?_reverse, free, get?_dump,
    Option.none_or, Option.bind_some, Field.accept_of_fits fits]
  rfl

/-! ## Assignments -/

/-- The options after an attempt to set the option of a name. -/
def attempt (o : Options) (a : String × Value) : Options := (o.set? a.1 a.2).toOption.getD o

/-- The options after attempts in a row. -/
def after (o : Options) (attempts : List (String × Value)) : Options := attempts.foldl attempt o

/-- What an option makes of an attempt, if the attempt is on this option and is taken. -/
def Field.taken? (f : Field) (a : String × Value) : Option Value :=
  if a.1 = f.name then (f.accept a.2).toOption else none

/-- An attempt on an option is one to assign to it. -/
theorem set?_name (o : Options) (f : Field) (v : Value) :
    o.set? f.name v = (o.assign f v).mapError fun kind => [⟨kind, [f.name], v⟩] := by
  rw [set?, f.ofName?_name]

/-- An attempt on a name without an option is refused unless the name is a private one. -/
theorem set?_of_free (free : ∀ f : Field, name ≠ f.name) (o : Options) (v : Value) :
    o.set? name v =
      if name.startsWith "_" then .ok o else .error [⟨.noSuchOption name, [name], v⟩] := by
  rw [set?, Field.ofName?_eq_none_iff.mpr free]

/-- An option after an attempt: what it makes of it, or else what it was. -/
theorem get_attempt (o : Options) (a : String × Value) (f : Field) :
    (o.attempt a).get f = (f.taken? a).getD (o.get f) := by
  obtain ⟨name, v⟩ := a
  rw [attempt, Field.taken?]
  by_cases named : ∃ g : Field, name = g.name
  · obtain ⟨g, rfl⟩ := named
    rw [set?_name]
    by_cases same : g = f
    · subst same
      rw [if_pos rfl, accept_eq o]
      cases o.assign g v <;> rfl
    · rw [if_neg (Field.name_injective.ne same)]
      cases assigned : o.assign g v with
      | error kind => rfl
      | ok o' => exact get_assign_of_ne assigned (Ne.symm same)
  · have free (g : Field) : name ≠ g.name := fun same => named ⟨g, same⟩
    rw [set?_of_free free, if_neg (free f)]
    cases name.startsWith "_" <;> rfl

/-- Of all attempts on an option the last one that was taken counts. -/
theorem get_after (o : Options) (attempts : List (String × Value)) (f : Field) :
    (o.after attempts).get f = ((attempts.filterMap f.taken?).getLast?).getD (o.get f) := by
  induction attempts generalizing o with
  | nil => rfl
  | cons a attempts ih =>
    rw [after, List.foldl_cons, ← after, ih, get_attempt, List.filterMap_cons]
    cases f.taken? a with
    | none => rfl
    | some w => rw [List.getLast?_cons]; rfl

/-- Options that want lines in a file and name no file. -/
def Pathless (o : Options) : Prop :=
  o.transport = .jsonl ∧ (o.transportPath? = none ∨ o.transportPath? = some "")

end Options

/-! ## The transport that is chosen -/

namespace Transport

variable {path : Value} {e : ChoiceError} {o : Options}

/-- Of the known kinds only lines in a file can fail, and only for the path. -/
theorem ofValues?_name_eq_error_iff {k : TransportKind} (paths : Field.transportPath.Fits path) :
    ofValues? (.text k.name) path = .error e ↔
      k = .jsonl ∧ (path = .null ∨ path = .text "") ∧ e = .refused .pathRequired := by
  unfold ofValues?
  simp only [TransportKind.ofName?_name]
  cases k with
  | null | memory | console => simp
  | jsonl =>
    obtain rfl | ⟨file, rfl⟩ := paths
    · simp [Value.truthy, eq_comm]
    · by_cases empty : file = ""
      · subst empty
        simp [eq_comm]
      · simp [empty]

/-- Options choose a transport unless they want lines in a file and name no file. -/
theorem ofOptions?_eq_error_iff (paths : Field.transportPath.Fits (o.get .transportPath)) :
    ofOptions? o = .error e ↔ o.Pathless ∧ e = .refused .pathRequired := by
  have free : Options.textOrNull o.transportPath? = .null ↔ o.transportPath? = none :=
    Options.textOrNull_injective.eq_iff (b := none)
  have empty : Options.textOrNull o.transportPath? = .text "" ↔ o.transportPath? = some "" :=
    Options.textOrNull_injective.eq_iff (b := some "")
  rw [ofOptions?, Options.get, ofValues?_name_eq_error_iff paths,
    Options.get, free, empty, Options.Pathless, and_assoc]

end Transport

namespace Options

variable {o o' : Options} {f : Field} {v : Value} {m : Mapping} {name : String}

/-- The options that a program can come by. -/
inductive Reached : Options → Prop where
  /-- Made of names with values. -/
  | ofMapping {m : Mapping} {o : Options} (made : ofMapping? m = .ok o) : Reached o
  | ofValue {v : Value} {o : Options} (made : ofValue? v = .ok o) : Reached o
  | ofEnvironment {lead : String} {env : Environment} {o : Options}
      (made : ofEnvironment? lead env = .ok o) : Reached o
  | validate {source : String} {m : Mapping} {o : Options}
      (made : Loader.validate source m = .ok o) : Reached o
  | load {l : Loader} {h : Host} {file? directory? : Option Path} {o : Options}
      (made : l.load h file? directory? = .ok o) : Reached o
  | loadFile {h : Host} {file : String} {o : Options}
      (made : Loader.loadFile h file = .ok o) : Reached o
  | loadEnvironment {l : Loader} {h : Host} {o : Options}
      (made : l.loadEnvironment h = .ok o) : Reached o
  /-- Those of a start, which lays overrides over options that it is given or loads. -/
  | start {s : Start} {h : Host} {o : Options}
      (given : ∀ base, s.options? = some base → Reached base) (made : s.options h = .ok o) :
      Reached o
  /-- After an attempt to set an option, which may be refused. -/
  | attempt {o : Options} (before : Reached o) (a : String × Value) : Reached (o.attempt a)

/-- What holds of options at all times. -/
structure Sound (o : Options) : Prop where
  /-- Each option holds a value of its kind. -/
  fits : ∀ f : Field, f.Fits (o.get f)
  /-- A value that an option holds stands for itself. -/
  stands : ∀ f : Field, f.accept (o.get f) = .ok (o.get f)
  /-- The mapping of the options makes them again. -/
  again : ofMapping? o.dump = .ok o
  againOfValue : ofValue? (.map o.dump) = .ok o
  /-- With some of them overridden, the others are kept. -/
  kept : ∀ (m : Mapping) o' (f : Field), o.override? m = .ok o' → m.Distinct →
    m.get? f.name = none → o'.get f = o.get f
  /-- Of attempts in a row the last one on an option that was taken counts for it. -/
  after : ∀ attempts (f : Field),
    (o.after attempts).get f = ((attempts.filterMap f.taken?).getLast?).getD (o.get f)
  /-- Attempts that are refused leave all options as they were. -/
  refused : ∀ attempts : List (String × Value),
    (∀ a ∈ attempts, ∃ issues, o.set? a.1 a.2 = .error issues) → o.after attempts = o
  /-- The options of a client are set like others, and no other client is touched: clients hold their
  options by value. -/
  client : ∀ (t : Telemetry) c name v, (t.client c).options = o →
    ((t.setOption c name v).1.client c).options = o.attempt (name, v) ∧
      ∀ d, d ≠ c → (t.setOption c name v).1.client d = t.client d
  /-- A client is left as it is, and all else with it, where its options refuse what they get. -/
  rejected : ∀ (t : Telemetry) c name v issues, (t.client c).options = o →
    ((t.setOption c name v).2 = .error issues ↔ o.set? name v = .error issues) ∧
      ((t.setOption c name v).2 = .error issues → (t.setOption c name v).1 = t)
  /-- The options choose a transport unless they want lines in a file and name no file. -/
  transport : ∀ e, Transport.ofOptions? o = .error e ↔ o.Pathless ∧ e = .refused .pathRequired
  known : ∀ k, Transport.ofOptions? o ≠ .error (.refused (.unknownTransport k))
  /-- A start with the options gets a transport for its client under the same condition. -/
  start : ∀ (s : Start) h e, s.options h = .ok o →
    (s.parts h = .error e ↔ o.Pathless ∧ e = .transport (.refused .pathRequired))

/-- Attempts that are refused leave all options as they were. -/
theorem after_of_refused {attempts : List (String × Value)}
    (refused : ∀ a ∈ attempts, ∃ issues, o.set? a.1 a.2 = .error issues) :
    o.after attempts = o := by
  induction attempts with
  | nil => rfl
  | cons a attempts ih =>
    obtain ⟨⟨issues, first⟩, rest⟩ := List.forall_mem_cons.mp refused
    rw [after, List.foldl_cons, ← after, attempt, first]
    exact ih rest

theorem client_setOption {t : Telemetry} {c : Ref Client} (here : (t.client c).options = o) :
    ((t.setOption c name v).1.client c).options = o.attempt (name, v) ∧
      ∀ d, d ≠ c → (t.setOption c name v).1.client d = t.client d := by
  rw [Telemetry.setOption, here, attempt]
  cases o.set? name v with
  | error issues => exact ⟨here, fun d _ => rfl⟩
  | ok o' =>
    let renewed (client : Client) : Client := { client with options := o' }
    have this : (t.clients.modify c renewed).get c = renewed (t.clients.get c) :=
      Registry.get_modify t.clients c renewed
    have others (d : Ref Client) (other : d ≠ c) :
        (t.clients.modify c renewed).get d = t.clients.get d :=
      Registry.get_modify_of_ne t.clients renewed other
    exact ⟨congrArg Client.options this, others⟩

/-- A value is the default of an option or what the option made of some value. -/
def Field.Granted (f : Field) (w : Value) : Prop :=
  w = ({} : Options).get f ∨ ∃ v, f.accept v = .ok w

theorem Field.Granted.fits (granted : f.Granted v) : f.Fits v := by
  rcases granted with rfl | ⟨w, accepted⟩
  · exact Field.accept_eq_self_iff.mp (by cases f <;> rfl)
  · exact Field.fits_of_accept accepted

/-- What a mapping makes is granted. -/
theorem granted_of_ofMapping? (made : ofMapping? m = .ok o) (f : Field) : f.Granted (o.get f) := by
  rw [get_of_ofMapping? made]
  cases m.get? f.name with
  | none => exact .inl rfl
  | some v =>
    cases accepted : f.accept v with
    | error kind => simp only [accepted, Option.bind_some]; exact .inl rfl
    | ok w => simp only [accepted, Option.bind_some]; exact .inr ⟨v, accepted⟩

/-- What is granted is so after an attempt. -/
theorem granted_attempt (before : f.Granted (o.get f)) (a : String × Value) :
    f.Granted ((o.attempt a).get f) := by
  rw [get_attempt, Field.taken?]
  split
  · cases accepted : f.accept a.2 with
    | error kind => exact before
    | ok w => exact .inr ⟨a.2, accepted⟩
  · exact before

theorem granted_of_validate {source : String} (made : Loader.validate source m = .ok o)
    (f : Field) : f.Granted (o.get f) :=
  granted_of_ofMapping? (Except.mapError_eq_ok_iff.mp made) f

/-- What is loaded is granted. -/
theorem granted_of_load {l : Loader} {h : Host} {file? directory? : Option Path}
    (made : l.load h file? directory? = .ok o) (f : Field) : f.Granted (o.get f) := by
  obtain ⟨chosen?, -, made⟩ := Except.bind_eq_ok_iff.mp made
  obtain ⟨values, -, made⟩ := Except.bind_eq_ok_iff.mp made
  exact granted_of_validate made f

/-- What a start lays over options and what it leaves of them is granted. -/
theorem granted_of_start {s : Start} {h : Host}
    (given : ∀ base, s.options? = some base → f.Granted (base.get f))
    (made : s.options h = .ok o) : f.Granted (o.get f) := by
  obtain ⟨base, based, made⟩ := Except.bind_eq_ok_iff.mp made
  have based : s.base h = .ok base := Except.mapError_eq_ok_iff.mp based
  have before : f.Granted (base.get f) := by
    rw [Start.base] at based
    split at based
    · cases based
    · next o' here free =>
      obtain rfl := Except.ok.inj based
      exact given o' here
    · exact granted_of_load based f
  split at made
  · obtain rfl := Except.ok.inj made
    exact before
  · exact granted_of_ofMapping? (Except.mapError_eq_ok_iff.mp made) f

/-- However options were made and whatever was assigned to them, they hold what was granted. -/
theorem Reached.granted (reached : Reached o) (f : Field) : f.Granted (o.get f) := by
  induction reached with
  | ofMapping made | ofEnvironment made => exact granted_of_ofMapping? made f
  | @ofValue v o made =>
    cases v with
    | map m => exact granted_of_ofMapping? made f
    | _ => cases made
  | validate made | loadEnvironment made => exact granted_of_validate made f
  | load made => exact granted_of_load made f
  | loadFile made =>
    obtain ⟨m, -, made⟩ := Except.bind_eq_ok_iff.mp made
    exact granted_of_validate made f
  | start _ made ih => exact granted_of_start ih made
  | attempt _ a ih => exact granted_attempt ih a

/-- **The options that a program can come by** hold values of their kinds, however they were made
and whatever was assigned to them. Options of the type hold nothing else (`fits_get`), so that the
laws are those of all options; what a program can come by says for which of them they are wanted. -/
theorem reached_sound (reached : Reached o) : o.Sound := by
  have fits (f : Field) : f.Fits (o.get f) := (reached.granted f).fits
  have choice {e : Transport.ChoiceError} :
      Transport.ofOptions? o = .error e ↔ o.Pathless ∧ e = .refused .pathRequired :=
    Transport.ofOptions?_eq_error_iff (fits .transportPath)
  exact {
    fits := fits
    stands := fun f => Field.accept_of_fits (fits f)
    again := ofMapping?_dump fits
    againOfValue := ofMapping?_dump fits
    kept := fun m o' f laid distinct free => get_override laid distinct free (fits f)
    after := get_after o
    refused := fun attempts => after_of_refused
    client := fun t c name v => client_setOption
    rejected := by
      intro t c name v issues here
      rw [Telemetry.setOption, here]
      cases o.set? name v <;> simp
    transport := fun e => choice
    known := by
      intro k unknown
      obtain ⟨-, same⟩ := choice.mp unknown
      cases same
    start := by
      intro s h e settled
      rw [Start.parts, settled, Except.ok_bind, Except.bind_eq_error_iff]
      cases chosen : Transport.ofOptions? o with
      | error e' =>
        obtain ⟨pathless, rfl⟩ := choice.mp chosen
        simp [pathless, eq_comm]
      | ok r =>
        have free : ¬ o.Pathless := by
          intro pathless
          rw [choice.mpr ⟨pathless, rfl⟩] at chosen
          cases chosen
        simp [free] }

/-- A start with options that are given and a path that overrides theirs. -/
def pathStart : Start where
  options? := some { debug := true, transport := .jsonl }
  overrides := [(.text "transport_path", .bytes [111, 117, 116])]

/-- A host without files and variables. -/
def emptyHost : Host := ⟨⟨fun _ => none⟩, [], []⟩

/-- The laws for options that were given, overridden and assigned to. -/
theorem reached_sound_assigned :
    (Reached { debug := true, transport := .jsonl } ∧
      pathStart.options emptyHost =
        .ok { debug := true, transport := .jsonl, transportPath? := some "out" }) ∧
    (({ debug := true, transport := .jsonl, transportPath? := some "out" } : Options).after
        [("transport", .text "file"), ("enabled", .text "Off"), ("transport_path", .null)] =
      { enabled := false, debug := true, transport := .jsonl }) ∧
    Sound { enabled := false, debug := true, transport := .jsonl } := by
  have given : Reached { debug := true, transport := .jsonl } :=
    .ofMapping (m := [(.text "debug", .text "yes"), (.text "transport", .text "jsonl")])
      (Except.toOption_eq_some_iff.mp (by decide +kernel))
  have started : pathStart.options emptyHost =
      .ok { debug := true, transport := .jsonl, transportPath? := some "out" } :=
    Except.toOption_eq_some_iff.mp (by decide +kernel)
  have reached : Reached { debug := true, transport := .jsonl, transportPath? := some "out" } :=
    .start (by rintro base ⟨⟩; exact given) started
  have assigned := ((reached.attempt ("transport", .text "file")).attempt
    ("enabled", .text "Off")).attempt ("transport_path", .null)
  have settled : ({ debug := true, transport := .jsonl, transportPath? := some "out" } :
      Options).after [("transport", .text "file"), ("enabled", .text "Off"),
        ("transport_path", .null)] = { enabled := false, debug := true, transport := .jsonl } := by
    decide +kernel
  rw [after, List.foldl_cons, List.foldl_cons, List.foldl_cons, List.foldl_nil] at settled
  rw [settled] at assigned
  exact ⟨⟨given, started⟩, settled, reached_sound assigned⟩

end Options

end CauseTrail
