import CauseTrail.Proofs.Text.Digits
import CauseTrail.Refusal

/-!
# Reading timestamps back

The text of a timestamp is read as that timestamp. The text has a fraction only where there are
microseconds, and an offset that ends with its minutes, its seconds or its microseconds; the
reader tells the cases apart by what stands behind each pair of digits.

## Main definitions

* `Date.InCalendar`: a day that the calendar has
* `Timestamp.Tellable`: a timestamp of the calendar whose offset is zero or at least a second

## Main results

* `Timestamp.ofIso?_iso`: a tellable timestamp is read back from its text
-/

namespace CauseTrail

/-- A day that the calendar has. -/
structure Date.InCalendar (d : Date) : Prop where
  year : 1 ≤ d.year ∧ d.year ≤ 9999
  month : 1 ≤ d.month ∧ d.month ≤ 12
  day : 1 ≤ d.day ∧ d.day ≤ Date.daysInMonth d.year d.month

instance (d : Date) : Decidable d.InCalendar :=
  decidable_of_iff ((1 ≤ d.year ∧ d.year ≤ 9999) ∧ (1 ≤ d.month ∧ d.month ≤ 12) ∧
      1 ≤ d.day ∧ d.day ≤ Date.daysInMonth d.year d.month)
    ⟨fun ⟨year, month, day⟩ => ⟨year, month, day⟩, fun ⟨year, month, day⟩ => ⟨year, month, day⟩⟩

theorem Date.daysInMonth_le (year month : Nat) : daysInMonth year month ≤ 31 := by
  unfold daysInMonth
  split_ifs <;> omega

namespace Date.InCalendar

variable {d : Date}

theorem year_lt (h : d.InCalendar) : d.year < 10 ^ 4 := Nat.lt_of_le_of_lt h.year.2 (by decide)

theorem month_lt (h : d.InCalendar) : d.month < 10 ^ 2 := Nat.lt_of_le_of_lt h.month.2 (by decide)

theorem day_lt (h : d.InCalendar) : d.day < 10 ^ 2 :=
  Nat.lt_of_le_of_lt (Nat.le_trans h.day.2 (daysInMonth_le _ _)) (by decide)

theorem ofParts?_eq (h : d.InCalendar) : Date.ofParts? d.year d.month d.day = .ok d := by
  obtain ⟨⟨y₁, y₂⟩, ⟨m₁, m₂⟩, ⟨d₁, d₂⟩⟩ := h
  rw [ofParts?, if_neg (by omega), if_neg (by omega), if_neg (by omega)]

end Date.InCalendar

namespace Timestamp

/-- An offset within a day that is zero or lasts a second at least. A shorter one has a text, from
which zero is read. -/
def TellableOffset (offset : Int) : Prop :=
  offsetInRange offset = true ∧ (offset = 0 ∨ 1000000 ≤ offset.natAbs)

/-- A timestamp of the calendar with no offset or one that its text tells. -/
structure Tellable (t : Timestamp) : Prop where
  date : t.date.InCalendar
  hour : t.hour ≤ 23
  minute : t.minute ≤ 59
  second : t.second ≤ 59
  micro : t.micro < 1000000
  offset : ∀ x ∈ t.offset?, TellableOffset x

instance (offset : Int) : Decidable (TellableOffset offset) :=
  inferInstanceAs (Decidable (_ ∧ _))

instance (t : Timestamp) : Decidable t.Tellable :=
  decidable_of_iff (t.date.InCalendar ∧ t.hour ≤ 23 ∧ t.minute ≤ 59 ∧ t.second ≤ 59 ∧
      t.micro < 1000000 ∧ ∀ x ∈ t.offset?, TellableOffset x)
    ⟨fun ⟨date, hour, minute, second, micro, offset⟩ =>
      ⟨date, hour, minute, second, micro, offset⟩,
      fun ⟨date, hour, minute, second, micro, offset⟩ =>
        ⟨date, hour, minute, second, micro, offset⟩⟩

/-! ## The written characters -/

/-- Hours and minutes with a colon between them. -/
def minuteChars (hour minute : Nat) : List Char :=
  (padDigits 2 hour).toList ++ ':' :: (padDigits 2 minute).toList

/-- Hours, minutes and seconds. -/
def secondChars (hour minute second : Nat) : List Char :=
  minuteChars hour minute ++ ':' :: (padDigits 2 second).toList

/-- A time of day to the microsecond. -/
def microChars (hour minute second micro : Nat) : List Char :=
  secondChars hour minute second ++ '.' :: (padDigits 6 micro).toList

/-- The time of day of a timestamp. -/
def timeChars (t : Timestamp) : List Char :=
  if t.micro = 0 then secondChars t.hour t.minute t.second
  else microChars t.hour t.minute t.second t.micro

/-- The size of an offset, to the finest part that is not zero. -/
def sizeChars (micros : Nat) : List Char :=
  let seconds := micros / 1000000
  if micros % 1000000 ≠ 0 then
    microChars (seconds / 3600) (seconds / 60 % 60) (seconds % 60) (micros % 1000000)
  else if seconds % 60 ≠ 0 then secondChars (seconds / 3600) (seconds / 60 % 60) (seconds % 60)
  else minuteChars (seconds / 3600) (seconds / 60 % 60)

/-- The sign of an offset. -/
def signChar (offset : Int) : Char := if offset < 0 then '-' else '+'

/-- An offset is written as its sign and its size. -/
theorem toList_offsetText (offset : Int) :
    (offsetText offset).toList = signChar offset :: sizeChars offset.natAbs := by
  have sign : (if offset < 0 then "-" else "+").toList = [signChar offset] := by
    unfold signChar
    split <;> rfl
  simp only [offsetText, String.toList_append, sign]
  by_cases micros : offset.natAbs % 1000000 = 0 <;>
    by_cases seconds : offset.natAbs / 1000000 % 60 = 0 <;>
      simp [sizeChars, microChars, secondChars, minuteChars, micros, seconds]

/-- A timestamp is written as its date, a letter, its time and its offset. -/
theorem toList_iso (t : Timestamp) :
    t.iso.toList = t.date.iso.toList ++ 'T' ::
      (t.timeChars ++ ((t.offset?.map offsetText).getD "").toList) := by
  simp only [iso, written, String.toList_append, timeChars]
  by_cases micros : t.micro = 0 <;> simp [microChars, secondChars, minuteChars, micros]

/-! ## The time of day -/

section Clock

variable {hour minute second micro : Nat}

/-- A part that ends the text. -/
theorem part_last {n : Nat} (h : n < 100) (more : Bool) (left : Nat) (colons : Option Bool)
    (parts : List Nat) :
    readClock?.part more (left + 1) colons parts (padDigits 2 n).toList =
      some (readClock?.clock (n :: parts) 0, more) := by
  have taken := digits?_padDigits 2 (by decide) h []
  rw [List.append_nil] at taken
  simp [readClock?.part, taken]

/-- A part with a colon behind it and two digits or more to follow. -/
theorem part_colon {n m : Nat} (h : n < 100) (hm : m < 100) (more : Bool) (left : Nat)
    (colons : Option Bool) (hc : colons.getD true = true) (parts : List Nat) (rest : List Char) :
    readClock?.part more (left + 1) colons parts
        ((padDigits 2 n).toList ++ ':' :: ((padDigits 2 m).toList ++ rest)) =
      readClock?.part more left (some true) (n :: parts) ((padDigits 2 m).toList ++ rest) := by
  have taken := digits?_padDigits 2 (by decide) h
    (':' :: ((padDigits 2 m).toList ++ rest))
  obtain ⟨a, b, digits, -, -⟩ := exists_padDigits_two hm
  simp only [digits, List.cons_append, List.nil_append] at taken ⊢
  simp [readClock?.part, taken, hc]

/-- Six digits are read as the microseconds that they were written for. -/
theorem fraction?_padDigits (h : micro < 1000000) (more : Bool) :
    fraction? (padDigits 6 micro).toList more = some (micro, more) := by
  have count : (padDigits 6 micro).toList.length = 6 := length_padDigits (by decide) h
  have taken := digits?_padDigits 6 (by decide) h []
  rw [List.append_nil] at taken
  simp [fraction?, count, taken]

/-- A part with a point behind it and the fraction to follow. -/
theorem part_point {n : Nat} (h : n < 100) (hu : micro < 1000000) (more : Bool) (left : Nat)
    (parts : List Nat) :
    readClock?.part more (left + 1) (some true) parts
        ((padDigits 2 n).toList ++ '.' :: (padDigits 6 micro).toList) =
      some (readClock?.clock (n :: parts) micro, more) := by
  have taken := digits?_padDigits 2 (by decide) h ('.' :: (padDigits 6 micro).toList)
  have fraction := fraction?_padDigits hu more
  -- The reader looks whether anything stands behind the point before it reads the fraction.
  have nonempty : (padDigits 6 micro).toList ≠ [] := by
    have count : (padDigits 6 micro).toList.length = 6 := length_padDigits (by decide) hu
    exact List.ne_nil_of_length_pos (by omega)
  obtain ⟨c, cs, digits⟩ := List.exists_cons_of_ne_nil nonempty
  rw [digits] at taken fraction ⊢
  simp [readClock?.part, taken, fraction]

theorem readClock?_minuteChars (hh : hour < 100) (hm : minute < 100) (more : Bool) :
    readClock? (minuteChars hour minute) more = some (⟨hour, minute, 0, 0⟩, more) := by
  have step := part_colon hh hm more 2 none rfl [] []
  rw [List.append_nil, part_last hm] at step
  exact step

theorem readClock?_secondChars (hh : hour < 100) (hm : minute < 100) (hs : second < 100)
    (more : Bool) :
    readClock? (secondChars hour minute second) more =
      some (⟨hour, minute, second, 0⟩, more) := by
  have first := part_colon hh hm more 2 none rfl []
    (':' :: (padDigits 2 second).toList)
  have next := part_colon hm hs more 1 (some true) rfl [hour] []
  rw [List.append_nil] at next
  rw [next, part_last hs] at first
  simpa [readClock?, readClock?.clock, secondChars, minuteChars] using first

theorem readClock?_microChars (hh : hour < 100) (hm : minute < 100) (hs : second < 100)
    (hu : micro < 1000000) (more : Bool) :
    readClock? (microChars hour minute second micro) more =
      some (⟨hour, minute, second, micro⟩, more) := by
  have first := part_colon hh hm more 2 none rfl []
    (':' :: ((padDigits 2 second).toList ++ '.' :: (padDigits 6 micro).toList))
  have next := part_colon hm hs more 1 (some true) rfl [hour]
    ('.' :: (padDigits 6 micro).toList)
  rw [next, part_point hs hu] at first
  simpa [readClock?, readClock?.clock, microChars, secondChars, minuteChars] using first

/-- No character of a clock could start an offset. -/
theorem startsOffset_of_mem_microChars {c : Char} (h : c ∈ microChars hour minute second micro) :
    startsOffset c = false := by
  have digit (hc : c.isDigit = true) : startsOffset c = false := by
    have plus : c ≠ '+' := Text.ne_of_isDigit hc rfl
    have minus : c ≠ '-' := Text.ne_of_isDigit hc rfl
    have zulu : c ≠ 'Z' := Text.ne_of_isDigit hc rfl
    simp [startsOffset, plus, minus, zulu]
  simp only [microChars, secondChars, minuteChars, List.mem_append, List.mem_cons] at h
  rcases h with ((h | rfl | h) | rfl | h) | rfl | h
  all_goals first | rfl | exact digit (isDigit_of_mem_padDigits h)

end Clock

/-- No character of a time begins an offset, so that the reader finds where it begins. -/
theorem startsOffset_of_mem_timeChars {t : Timestamp} {c : Char} (h : c ∈ t.timeChars) :
    startsOffset c = false := by
  rw [timeChars] at h
  split at h
  · have inside : c ∈ microChars t.hour t.minute t.second 0 := List.mem_append_left _ h
    exact startsOffset_of_mem_microChars inside
  · exact startsOffset_of_mem_microChars h

variable {t : Timestamp}

/-- The time of a timestamp is read back. -/
theorem readClock?_timeChars (ht : t.Tellable) (more : Bool) :
    readClock? t.timeChars more = some (⟨t.hour, t.minute, t.second, t.micro⟩, more) := by
  have hh : t.hour < 100 := Nat.lt_of_le_of_lt ht.hour (by decide)
  have hm : t.minute < 100 := Nat.lt_of_le_of_lt ht.minute (by decide)
  have hs : t.second < 100 := Nat.lt_of_le_of_lt ht.second (by decide)
  rw [timeChars]
  split
  · next zero => rw [readClock?_secondChars hh hm hs, zero]
  · exact readClock?_microChars hh hm hs ht.micro more

/-! ## The offset -/

theorem startsOffset_signChar (offset : Int) : startsOffset (signChar offset) = true := by
  unfold signChar
  split <;> rfl

/-- The size of an offset is read back, in hours and its smaller parts. -/
theorem readClock?_sizeChars {micros : Nat} (h : micros < 86400000000) (more : Bool) :
    readClock? (sizeChars micros) more =
      some (⟨micros / 1000000 / 3600, micros / 1000000 / 60 % 60, micros / 1000000 % 60,
        micros % 1000000⟩, more) := by
  have hh : micros / 1000000 / 3600 < 100 := by omega
  have hm : micros / 1000000 / 60 % 60 < 100 := by omega
  have hs : micros / 1000000 % 60 < 100 := by omega
  -- A part is left out only if it and all finer ones are zero.
  simp only [sizeChars]
  split
  · exact readClock?_microChars hh hm hs (Nat.mod_lt _ (by decide)) more
  · next micro =>
    rw [not_not] at micro
    split
    · rw [readClock?_secondChars hh hm hs, micro]
    · next second =>
      rw [not_not] at second
      rw [readClock?_minuteChars hh hm, micro, second]

/-- The time of day and the offset are taken apart at the sign. -/
theorem readTime?_append (ht : t.Tellable) :
    readTime? (t.timeChars ++ ((t.offset?.map offsetText).getD "").toList) =
      some (⟨t.hour, t.minute, t.second, t.micro⟩, t.offset?) := by
  have clock (c : Char) (hc : c ∈ t.timeChars) : (!startsOffset c) = true := by
    rw [startsOffset_of_mem_timeChars hc]
    rfl
  simp only [readTime?, List.takeWhile_append_of_pos clock, List.dropWhile_append_of_pos clock]
  cases offset : t.offset? with
  | none => simp [readClock?_timeChars ht]
  | some x =>
    obtain ⟨range, size⟩ := ht.offset x offset
    have bound : x.natAbs < 86400000000 := by
      obtain ⟨low, high⟩ : -dayMicros < x ∧ x < dayMicros := of_decide_eq_true range
      simp only [dayMicros] at low high
      omega
    have zone := readClock?_sizeChars bound false
    generalize absolute : x.natAbs = n at *
    simp only [Option.map_some, Option.getD_some, toList_offsetText, List.takeWhile_cons,
      List.dropWhile_cons, startsOffset_signChar, absolute]
    rcases Int.lt_or_le x 0 with negative | positive
    · simp [signChar, negative, readClock?_timeChars ht, zone]
      split <;> omega
    · simp [signChar, Int.not_lt.mpr positive, readClock?_timeChars ht, zone]
      split <;> omega

/-! ## The date -/

section Date

variable {d : Date}

theorem toList_dateIso (d : Date) :
    d.iso.toList = (padDigits 4 d.year).toList ++ '-' :: ((padDigits 2 d.month).toList ++
      '-' :: (padDigits 2 d.day).toList) := by
  simp [Date.iso]

theorem length_dateIso (h : d.InCalendar) : d.iso.toList.length = 10 := by
  have year : (padDigits 4 d.year).toList.length = 4 := length_padDigits (by decide) h.year_lt
  have month : (padDigits 2 d.month).toList.length = 2 := length_padDigits (by decide) h.month_lt
  have day : (padDigits 2 d.day).toList.length = 2 := length_padDigits (by decide) h.day_lt
  rw [toList_dateIso]
  simp only [List.length_append, List.length_cons, year, month, day]

/-- A month begins with a digit and not with the letter of a week. -/
theorem exists_month (h : d.InCalendar) :
    ∃ a b : Char, (padDigits 2 d.month).toList = [a, b] ∧ a ≠ 'W' := by
  obtain ⟨a, b, month, digit, -⟩ := exists_padDigits_two h.month_lt
  exact ⟨a, b, month, Text.ne_of_isDigit digit rfl⟩

/-- The date ends behind its tenth character. -/
theorem dateLength_append (h : d.InCalendar) (rest : List Char) :
    dateLength (d.iso.toList ++ rest) = 10 := by
  have year : (padDigits 4 d.year).toList.length = 4 := length_padDigits (by decide) h.year_lt
  obtain ⟨a, b, month, notWeek⟩ := exists_month h
  rw [toList_dateIso, List.append_assoc, dateLength, List.drop_left' year, month]
  simp [notWeek]

theorem readDate?_iso (h : d.InCalendar) :
    readDate? d.iso.toList = some (d.year, d.month, d.day) := by
  have year := digits?_padDigits 4 (by decide) h.year_lt
    ('-' :: ((padDigits 2 d.month).toList ++ '-' :: (padDigits 2 d.day).toList))
  have month := digits?_padDigits 2 (by decide) h.month_lt ('-' :: (padDigits 2 d.day).toList)
  have day := digits?_padDigits 2 (by decide) h.day_lt []
  obtain ⟨a, b, chars, notWeek⟩ := exists_month h
  rw [chars] at year month
  rw [List.append_nil] at day
  rw [toList_dateIso, chars, readDate?, year]
  simp only [List.cons_append, List.nil_append] at month
  simp [notWeek, month, readDate?.hyphen?, day]

end Date

/-- **Reading a timestamp back.** The text of a tellable timestamp is read as that timestamp. -/
theorem ofIso?_iso (ht : t.Tellable) : ofIso? t.iso = .ok t := by
  have cut : t.iso.toList.splitAt (dateLength t.iso.toList) =
      (t.date.iso.toList, 'T' :: (t.timeChars ++ ((t.offset?.map offsetText).getD "").toList)) := by
    rw [toList_iso, dateLength_append ht.date, List.splitAt_eq,
      List.take_left' (length_dateIso ht.date), List.drop_left' (length_dateIso ht.date)]
  have inRange : (t.offset?.any fun x => !offsetInRange x) = false := by
    rw [Option.any_eq_false]
    intro x hx
    simp [(ht.offset x hx).1]
  have parts : ofParts? t.date.year t.date.month t.date.day t.hour t.minute t.second t.micro
      t.offset? = .ok t := by
    have hh := Nat.not_lt.mpr ht.hour
    have hm := Nat.not_lt.mpr ht.minute
    have hs := Nat.not_lt.mpr ht.second
    simp [ofParts?, ht.date.ofParts?_eq, hh, hm, hs]
  simp only [ofIso?, cut, readDate?_iso ht.date, readTime?_append ht]
  simp [inRange, parts]

end Timestamp

end CauseTrail
