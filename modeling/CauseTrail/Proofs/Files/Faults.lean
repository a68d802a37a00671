import CauseTrail.Files.Tree
import CauseTrail.Refusal

/-!
# What is wrong with a path

On the way that a path takes, a name may be missing, be that of a file, or be too long. The question
whether a path leads to a file has an answer in the first two cases and none in the third. A path
that holds the terminator is not even looked up, which the question takes for an absence and reading
does not.

## Main definitions

* `FileTree.holdsFile`: whether a path leads to a file
* `FileTree.Opens`: whether a file can be written at a path
* `FileTree.TooLong`: the path, or a name that it comes to, is too long

## Main results

* `FileTree.isFile_eq_ok_iff`, `FileTree.isFile_eq_error_iff`: the question is answered, rightly,
  unless something is too long
* `FileTree.holdsFile_iff`: a path leads to a file just when it can be read
* `FileTree.find_eq_terminator_iff`: the terminator is at fault just when the path holds it
* `FileTree.opens_of_change`, `FileTree.change_eq_error`: a file is changed just where one can be
  written
-/

namespace CauseTrail

theorem FileFault.number?_eq_none_iff {fault : FileFault} :
    fault.number? = none ↔ fault = .terminator := by
  cases fault <;> simp [number?]

namespace FileTree

variable {t : FileTree} {here : Location} {p : Path} {fault : FileFault} {e : FileError}

/-- Whether a path leads to a file. -/
def holdsFile (t : FileTree) (here : Location) (p : Path) : Bool :=
  match t.find here p with
  | .ok (_, some (.file _)) => true
  | _ => false

/-- A path cannot be looked up, because it, or a name that it comes to, is too long. -/
def TooLong (t : FileTree) (here : Location) (p : Path) : Prop :=
  t.find here p = .error .nameTooLong

/-- Three things can be wrong on the way along names. -/
theorem follow_eq_error {names : List String} (failed : t.follow here names = .error fault) :
    fault = .notFound ∨ fault = .notADirectory ∨ fault = .nameTooLong := by
  induction names generalizing here with
  | nil => cases failed
  | cons n ns ih =>
    rw [follow] at failed
    split at failed
    · exact .inl (Except.error.inj failed).symm
    · exact .inr (.inl (Except.error.inj failed).symm)
    · split at failed
      · exact .inr (.inr (Except.error.inj failed).symm)
      · exact ih failed

theorem find_eq_error_iff : t.find here p = .error fault ↔ t.locate here p = .error fault := by
  rw [find]
  cases t.locate here p <;> simp

/-- A path leads nowhere because it holds the terminator, or because of a name on the way. -/
theorem find_eq_error (failed : t.find here p = .error fault) :
    ('\x00' ∈ p.text.toList ∧ fault = .terminator) ∨
      '\x00' ∉ p.text.toList ∧
        (fault = .notFound ∨ fault = .notADirectory ∨ fault = .nameTooLong) := by
  rw [find_eq_error_iff, locate] at failed
  split at failed
  · next held => exact .inl ⟨List.contains_iff_mem.mp held, (Except.error.inj failed).symm⟩
  · next free =>
    refine .inr ⟨fun held => free (List.contains_iff_mem.mpr held), ?_⟩
    split at failed
    · exact .inr (.inr (Except.error.inj failed).symm)
    · exact follow_eq_error failed

theorem find_eq_terminator_iff :
    t.find here p = .error .terminator ↔ '\x00' ∈ p.text.toList := by
  constructor
  · intro failed
    rcases find_eq_error failed with ⟨held, -⟩ | ⟨-, other⟩
    · exact held
    · simp at other
  · intro held
    rw [find_eq_error_iff, locate, if_pos (List.contains_iff_mem.mpr held)]

/-- Names are followed along a path that does not hold the terminator and is not too long itself. -/
theorem locate_eq_follow (free : '\x00' ∉ p.text.toList)
    (short : (Text.utf8 p.text).length ≤ maxPathBytes) :
    t.locate here p = t.follow (if p.isAbsolute then [] else here) p.names := by
  rw [locate, if_neg fun held => free (List.contains_iff_mem.mp held),
    if_neg (Nat.not_lt.mpr short)]

/-- Whether a path leads to a file cannot be told just when something is too long. -/
theorem isFile_eq_error_iff :
    t.isFile here p = .error e ↔ t.TooLong here p ∧ e = ⟨.nameTooLong, p⟩ := by
  rw [isFile, ask, TooLong]
  cases found : t.find here p with
  | ok place => simp
  | error fault =>
    rcases find_eq_error found with ⟨-, rfl⟩ | ⟨-, rfl | rfl | rfl⟩ <;> simp [isAbsence, eq_comm]

/-- What is told is right. -/
theorem isFile_eq_ok_iff {told : Bool} :
    t.isFile here p = .ok told ↔ ¬ t.TooLong here p ∧ told = t.holdsFile here p := by
  rw [isFile, ask, TooLong, holdsFile]
  cases found : t.find here p with
  | ok place =>
    obtain ⟨l, _ | _ | _⟩ := place <;> simp [eq_comm]
  | error fault =>
    rcases find_eq_error found with ⟨-, rfl⟩ | ⟨-, rfl | rfl | rfl⟩ <;> simp [isAbsence, eq_comm]

theorem holdsFile_of_error (failed : t.find here p = .error fault) :
    t.holdsFile here p = false := by
  rw [holdsFile, failed]

/-- A path leads to a file just when it can be read. -/
theorem holdsFile_iff : t.holdsFile here p = true ↔ ∃ bytes, t.read here p = .ok bytes := by
  rw [holdsFile, read]
  cases t.find here p with
  | error fault => simp
  | ok place => obtain ⟨l, _ | _ | _⟩ := place <;> simp

theorem read_eq_error (failed : t.read here p = .error e) :
    e.path = p ∧
      (t.find here p = .error e.fault ∨ e.fault = .notFound ∨ e.fault = .isADirectory) := by
  rw [read] at failed
  split at failed
  · next found =>
    obtain rfl := Except.error.inj failed
    exact ⟨rfl, .inl found⟩
  · obtain rfl := Except.error.inj failed
    exact ⟨rfl, .inr (.inl rfl)⟩
  · obtain rfl := Except.error.inj failed
    exact ⟨rfl, .inr (.inr rfl)⟩
  · cases failed

/-- What keeps a path from being read has no number just when it is the terminator. -/
theorem read_eq_error_unnumbered_iff :
    t.read here p = .error e ∧ e.fault.number? = none ↔
      '\x00' ∈ p.text.toList ∧ e = ⟨.terminator, p⟩ := by
  rw [FileFault.number?_eq_none_iff]
  constructor
  · rintro ⟨failed, terminator⟩
    obtain ⟨path, found | other⟩ := read_eq_error failed
    · rw [terminator] at found
      exact ⟨find_eq_terminator_iff.mp found, by rw [← path, ← terminator]⟩
    · simp [terminator] at other
  · rintro ⟨held, rfl⟩
    rw [read, find_eq_terminator_iff.mpr held]
    exact ⟨rfl, rfl⟩

/-! ## Files that are written -/

/-- A file can be written at a path: the path leads to a file, or to nothing in a directory. -/
def Opens (t : FileTree) (here : Location) (p : Path) : Prop :=
  ∃ l, t.locate here p = .ok l ∧
    ((∃ bytes, t.content? l = some (.file bytes)) ∨
      t.content? l = none ∧ t.content? l.dropLast = some .directory)

variable {t' : FileTree} {f : List UInt8 → List UInt8}

/-- What a path leads to is what is at its place. -/
theorem find_eq_ok_iff {l : Location} {e? : Option Entry} :
    t.find here p = .ok (l, e?) ↔ t.locate here p = .ok l ∧ e? = t.content? l := by
  rw [find]
  cases t.locate here p with
  | error => simp
  | ok l' =>
    simp only [Except.ok_bind, Except.pure_eq_ok, Except.ok.injEq, Prod.mk.injEq]
    constructor
    · rintro ⟨rfl, rfl⟩
      exact ⟨rfl, rfl⟩
    · rintro ⟨rfl, rfl⟩
      exact ⟨rfl, rfl⟩

/-- A path at which a file can be written does not hold the terminator. -/
theorem Opens.free (opens : t.Opens here p) : '\x00' ∉ p.text.toList := by
  intro held
  obtain ⟨l, leads, -⟩ := opens
  have failed : t.locate here p = .error .terminator :=
    find_eq_error_iff.mp (find_eq_terminator_iff.mpr held)
  rw [failed] at leads
  cases leads

theorem opens_of_change (done : t.change here p f = .ok t') : t.Opens here p := by
  rw [change] at done
  split at done
  · cases done
  · cases done
  · next l bytes found =>
    obtain ⟨leads, there⟩ := find_eq_ok_iff.mp found
    exact ⟨l, leads, .inl ⟨bytes, there.symm⟩⟩
  · next l found =>
    obtain ⟨leads, missing⟩ := find_eq_ok_iff.mp found
    split at done
    · next directory => exact ⟨l, leads, .inr ⟨missing.symm, directory⟩⟩
    · cases done
    · cases done

/-- A file cannot be changed where none can be written, for a fault on the way or at the end. -/
theorem change_eq_error (failed : t.change here p f = .error e) : e.path = p ∧ ¬ t.Opens here p ∧
    (t.find here p = .error e.fault ∨ e.fault.number?.isSome) := by
  rw [change] at failed
  have shut : ∀ l e?, t.find here p = .ok (l, e?) →
      (∀ bytes, e? ≠ some (.file bytes)) →
      (e? = none → t.content? l.dropLast ≠ some .directory) → ¬ t.Opens here p := by
    rintro l e? found noFile noPlace ⟨l', leads, ⟨bytes, there⟩ | ⟨missing, directory⟩⟩
    all_goals
      obtain ⟨leads', rfl⟩ := find_eq_ok_iff.mp found
      obtain rfl := Except.ok.inj (leads.symm.trans leads')
    · exact noFile bytes there
    · exact noPlace missing directory
  split at failed
  · next found =>
    obtain rfl := Except.error.inj failed
    refine ⟨rfl, ?_, .inl found⟩
    rintro ⟨l, leads, -⟩
    rw [find_eq_error_iff.mp found] at leads
    cases leads
  · next found =>
    obtain rfl := Except.error.inj failed
    exact ⟨rfl, shut _ _ found (by simp) (by simp), .inr rfl⟩
  · cases failed
  · next found =>
    split at failed
    · cases failed
    · next file =>
      obtain rfl := Except.error.inj failed
      exact ⟨rfl, shut _ _ found (by simp) (by simp [file]), .inr rfl⟩
    · next nothing =>
      obtain rfl := Except.error.inj failed
      exact ⟨rfl, shut _ _ found (by simp) (by simp [nothing]), .inr rfl⟩

/-- A file whose path holds the terminator is not even asked for. -/
theorem change_of_terminator (held : '\x00' ∈ p.text.toList) :
    t.change here p f = .error ⟨.terminator, p⟩ := by
  rw [change, find_eq_terminator_iff.mpr held]

/-- What keeps a file from being changed has no number just when it is the terminator. -/
theorem number?_eq_none_iff_of_change (failed : t.change here p f = .error e) :
    e.fault.number? = none ↔ '\x00' ∈ p.text.toList := by
  constructor
  · intro unnumbered
    obtain ⟨-, -, found | number⟩ := change_eq_error failed
    · rw [FileFault.number?_eq_none_iff.mp unnumbered] at found
      exact find_eq_terminator_iff.mp found
    · rw [unnumbered] at number
      cases number
  · intro held
    rw [change_of_terminator held] at failed
    rw [← Except.error.inj failed]
    rfl

end FileTree

end CauseTrail
