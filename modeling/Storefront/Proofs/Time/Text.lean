import Mathlib.Algebra.Group.Nat.Defs
import Storefront.Proofs.Time.Calendar
import Storefront.Time.Text
/-!
# Moments survive being written

A moment on a clock of the years 1 to 9999 whose offset is a whole number of minutes, less than a
day, is read back from its text as the same moment: every part of the text is written with a fixed
width, so each reader takes exactly what was written for it and leaves the rest. All moments that
are read, from texts or from counts, are of this kind.
-/

namespace Storefront.Moment

open Calendar Text

/-- A moment that its text tells completely: the wall clock is within the calendar, and the offset
is a number of minutes less than a day. -/
structure IsWritable (moment : Moment) : Prop where
  start : 0 ≤ moment.wall
  stop : moment.wall < wallEnd
  minutes : ∀ offset ∈ moment.offset, offset % 60 = 0
  day : ∀ offset ∈ moment.offset, offset.natAbs < 86400

section Digits

variable {width n : Nat}

/-- A padded number is its digits behind zeros. -/
theorem toList_paddedDigits (width n : Nat) :
    (Decimal.paddedDigits width n).toList =
      List.replicate (width - (Nat.toDigits 10 n).length) '0' ++ Nat.toDigits 10 n := by
  have digits : (toString n).toList = Nat.toDigits 10 n := Nat.toList_repr
  rw [Decimal.paddedDigits, String.toList_append, String.toList_ofList, ← digits]
  rfl

/-- A padded number is made of digits. -/
theorem isDigit_of_mem_paddedDigits {c : Char}
    (member : c ∈ (Decimal.paddedDigits width n).toList) : c.isDigit = true := by
  rw [toList_paddedDigits, List.mem_append, List.mem_replicate] at member
  rcases member with ⟨-, rfl⟩ | digit
  · rfl
  · exact Nat.isDigit_of_mem_toDigits (by decide) (by decide) digit

/-- A number that fits the width is padded to it. -/
theorem length_paddedDigits (wide : 0 < width) (fits : n < 10 ^ width) :
    (Decimal.paddedDigits width n).toList.length = width := by
  have short := (Nat.length_toDigits_le_iff (show 1 < 10 by decide) wide).mpr fits
  rw [toList_paddedDigits, List.length_append, List.length_replicate]
  omega

/-- The values of some digits. -/
theorem filterMap_plainDigit? {cs : List Char} (digits : ∀ c ∈ cs, c.isDigit = true) :
    cs.filterMap plainDigit? = cs.map fun c => c.toNat - '0'.toNat := by
  induction cs with
  | nil => rfl
  | cons c rest ih =>
    rw [List.forall_mem_cons] at digits
    rw [List.filterMap_cons, plainDigit?, if_pos digits.1, ih digits.2, List.map_cons]

/-- Zeros in front of a number do not count. -/
theorem ofDigitChars_replicate (count : Nat) (cs : List Char) :
    Nat.ofDigitChars 10 (List.replicate count '0' ++ cs) 0 = Nat.ofDigitChars 10 cs 0 := by
  induction count with
  | zero => rfl
  | succ count ih =>
    rw [List.replicate_succ, List.cons_append]
    exact ih

/-- The value of the digits of a padded number is the number. -/
theorem valueOf_paddedDigits (width n : Nat) :
    Numeral.valueOf ((Decimal.paddedDigits width n).toList.filterMap plainDigit?) = n := by
  rw [filterMap_plainDigit? fun c => isDigit_of_mem_paddedDigits, Numeral.valueOf, List.foldl_map]
  change Nat.ofDigitChars 10 (Decimal.paddedDigits width n).toList 0 = n
  rw [toList_paddedDigits, ofDigitChars_replicate]
  exact Nat.ofDigitChars_toDigits (by decide) (by decide)

/-- A padded number is read back, and what follows it is left. -/
theorem takeNumber?_paddedDigits (wide : 0 < width) (fits : n < 10 ^ width) (rest : List Char) :
    takeNumber? width ((Decimal.paddedDigits width n).toList ++ rest) = some (n, rest) := by
  have length := length_paddedDigits wide fits
  have own : ((Decimal.paddedDigits width n).toList ++ rest).take width =
      (Decimal.paddedDigits width n).toList := List.take_left' length
  have others : ((Decimal.paddedDigits width n).toList ++ rest).drop width = rest :=
    List.drop_left' length
  have all : ((Decimal.paddedDigits width n).toList.filterMap plainDigit?).length = width := by
    rw [filterMap_plainDigit? fun c => isDigit_of_mem_paddedDigits, List.length_map, length]
  rw [takeNumber?, own, others]
  rw [if_pos all, valueOf_paddedDigits]

/-- The digits of a padded number are taken up to a character that is no digit. -/
theorem takeDigits_paddedDigits (width n : Nat) {rest : List Char}
    (ends : ∀ c ∈ rest.head?, c.isDigit = false) :
    Numeral.takeDigits ((Decimal.paddedDigits width n).toList ++ rest) =
      ((Decimal.paddedDigits width n).toList.filterMap plainDigit?, rest) := by
  have digit : ∀ c ∈ (Decimal.paddedDigits width n).toList, (plainDigit? c).isSome = true := by
    intro c member
    rw [plainDigit?, if_pos (isDigit_of_mem_paddedDigits member)]
    rfl
  have stops : rest.takeWhile (fun c => (plainDigit? c).isSome) = [] ∧
      rest.dropWhile (fun c => (plainDigit? c).isSome) = rest := by
    cases rest with
    | nil => exact ⟨rfl, rfl⟩
    | cons c others =>
      have other : (plainDigit? c).isSome = false := by
        rw [plainDigit?, ends c rfl]
        rfl
      exact ⟨List.takeWhile_cons_of_neg (by simp [other]),
        List.dropWhile_cons_of_neg (by simp [other])⟩
  rw [Numeral.takeDigits, List.takeWhile_append_of_pos digit, List.dropWhile_append_of_pos digit,
    stops.1, stops.2, List.append_nil]

end Digits

section Parts

/-- A date is read back from its text, and what follows it is left. -/
theorem takeDate?_text {date : Date} (real : date.isValid = true) (rest : List Char) :
    takeDate? ((Decimal.paddedDigits 4 date.year).toList ++
      '-' :: ((Decimal.paddedDigits 2 date.month).toList ++
        '-' :: ((Decimal.paddedDigits 2 date.day).toList ++ rest))) = some (date, rest) := by
  have bounds := real
  simp only [Date.isValid, Bool.and_eq_true, decide_eq_true_eq] at bounds
  have days : monthLength date.year date.month ≤ 31 := by
    unfold monthLength
    split
    · split <;> omega
    · split <;> omega
  have year := takeNumber?_paddedDigits (show 0 < 4 by decide) (show date.year < 10 ^ 4 by omega)
  have month := takeNumber?_paddedDigits (show 0 < 2 by decide) (show date.month < 10 ^ 2 by omega)
  have day := takeNumber?_paddedDigits (show 0 < 2 by decide) (show date.day < 10 ^ 2 by omega)
  simp only [takeDate?, year, month, day, dropChar?, real, Option.bind_eq_bind, Option.bind_some,
    if_true]
  rfl

/-- The fraction of a second as text: nothing, or a point and six digits. -/
def fractionChars (micros : Nat) : List Char :=
  if micros = 0 then [] else '.' :: (Decimal.paddedDigits 6 micros).toList

/-- Text that goes on with neither a digit nor a mark of a fraction. -/
def IsTail (rest : List Char) : Prop :=
  ∀ c ∈ rest.head?, c.isDigit = false ∧ c ≠ '.' ∧ c ≠ ','

/-- A fraction of a second is read back from its text, and what follows it is left. -/
theorem takeFraction?_text {micros : Nat} (fits : micros < 10 ^ 6) {rest : List Char}
    (tail : IsTail rest) : takeFraction? (fractionChars micros ++ rest) = some (micros, rest) := by
  by_cases whole : micros = 0
  · rw [fractionChars, if_pos whole, whole, List.nil_append]
    cases rest with
    | nil => rfl
    | cons c others =>
      obtain ⟨-, point, comma⟩ := tail c rfl
      rw [takeFraction?, if_neg (by simp [point, comma])]
  · have taken := takeDigits_paddedDigits 6 micros fun c head => (tail c head).1
    have length : ((Decimal.paddedDigits 6 micros).toList.filterMap plainDigit?).length = 6 := by
      rw [filterMap_plainDigit? fun c => isDigit_of_mem_paddedDigits, List.length_map,
        length_paddedDigits (by decide) fits]
    have value : fractionMicros ((Decimal.paddedDigits 6 micros).toList.filterMap plainDigit?) =
        micros := by
      rw [fractionMicros, List.take_left' length, valueOf_paddedDigits]
    rw [fractionChars, if_neg whole, List.cons_append, takeFraction?, if_pos (by decide), taken]
    cases digits : (Decimal.paddedDigits 6 micros).toList.filterMap plainDigit? with
    | nil =>
      rw [digits] at length
      cases length
    | cons first others =>
      rw [digits] at value
      rw [← value]

/-- Seconds and their fraction are read back from their text, and what follows them is left. -/
theorem takeSeconds?_text {second micros : Nat} (short : second < 60) (fits : micros < 10 ^ 6)
    {rest : List Char} (tail : IsTail rest) :
    takeSeconds? (':' :: ((Decimal.paddedDigits 2 second).toList ++
      (fractionChars micros ++ rest))) = some (second, micros, rest) := by
  have seconds := takeNumber?_paddedDigits (show 0 < 2 by decide) (show second < 10 ^ 2 by omega)
  simp only [takeSeconds?, seconds, takeFraction?_text fits tail, short, Option.bind_eq_bind,
    Option.bind_some, if_true]
  rfl

/-- An offset as text: nothing if there is none. -/
def offsetChars (mark : UtcMark) (moment : Moment) : List Char :=
  ((moment.offset.map (offsetText mark)).getD "").toList

/-- An offset in hours and minutes: any but one of zero that is written with a letter. -/
theorem toList_offsetText {mark : UtcMark} {east : Int} (plain : mark = .digits ∨ east ≠ 0) :
    (offsetText mark east).toList =
      (if east < 0 then '-' else '+') ::
        ((Decimal.paddedDigits 2 (east.natAbs / 60 / 60)).toList ++
          ':' :: (Decimal.paddedDigits 2 (east.natAbs / 60 % 60)).toList) := by
  have written : offsetText mark east = (if east < 0 then "-" else "+") ++
      Decimal.paddedDigits 2 (east.natAbs / 60 / 60) ++ ":" ++
        Decimal.paddedDigits 2 (east.natAbs / 60 % 60) := by
    unfold offsetText
    split
    · exact plain.elim nofun fun away => absurd rfl away
    · rfl
  rw [written]
  by_cases negative : east < 0 <;> simp [negative, String.toList_append]

/-- An offset is read back from its text. -/
theorem offset?_offsetText (mark : UtcMark) {east : Int} (minutes : east % 60 = 0)
    (day : east.natAbs < 86400) : offset? (offsetText mark east).toList = some (some east) := by
  by_cases plain : mark = .digits ∨ east ≠ 0
  · have hours := takeNumber?_paddedDigits (show 0 < 2 by decide)
      (show east.natAbs / 60 / 60 < 10 ^ 2 by omega)
    have last := takeNumber?_paddedDigits (show 0 < 2 by decide)
      (show east.natAbs / 60 % 60 < 10 ^ 2 by omega) []
    rw [List.append_nil] at last
    have early : east.natAbs / 60 / 60 < 24 := by omega
    have short : east.natAbs / 60 % 60 < 60 := by omega
    have total : (east.natAbs / 60 / 60 * 60 + east.natAbs / 60 % 60) * 60 = east.natAbs := by omega
    rw [toList_offsetText plain]
    generalize east.natAbs / 60 / 60 = hour at *
    generalize east.natAbs / 60 % 60 = minute at *
    by_cases negative : east < 0
    · simp [offset?, negative, hours, last, dropChar?, early, short]
      omega
    · simp [offset?, negative, hours, last, dropChar?, early, short]
      omega
  · obtain ⟨letter, zero⟩ := not_or.mp plain
    cases mark with
    | letter =>
      rw [not_not.mp zero]
      rfl
    | digits => exact absurd rfl letter

/-- The offset of a writable moment is read back from its text. -/
theorem offset?_offsetChars (mark : UtcMark) {moment : Moment} (writable : moment.IsWritable) :
    offset? (moment.offsetChars mark) = some moment.offset := by
  unfold offsetChars
  cases given : moment.offset with
  | none => rfl
  | some east =>
    exact offset?_offsetText mark (writable.minutes east given) (writable.day east given)

/-- The text of an offset is not taken for more of a number. -/
theorem offsetChars_isTail (mark : UtcMark) (moment : Moment) :
    IsTail (moment.offsetChars mark) := by
  unfold offsetChars
  cases moment.offset with
  | none => exact fun c head => by cases head
  | some east =>
    by_cases plain : mark = .digits ∨ east ≠ 0
    · intro c head
      rw [Option.map_some, Option.getD_some, toList_offsetText plain] at head
      cases head
      split <;> decide
    · obtain ⟨letter, zero⟩ := not_or.mp plain
      rw [not_not.mp zero]
      cases mark with
      | letter => exact fun c head => by cases head; decide
      | digits => exact absurd rfl letter

end Parts

section Whole

variable (moment : Moment)

/-- The microseconds of a moment. -/
def micros : Nat := (moment.wall % perSecond).toNat

/-- The second of a moment's wall clock. -/
def seconds : Nat := (moment.wall / perSecond).toNat

/-- The second of the day of a moment. -/
def clock : Nat := moment.seconds % 86400

/-- The date of a moment. -/
def date : Date := Date.ofDays (moment.seconds / 86400)

/-- The text of a moment, part by part. -/
theorem toList_toText (mark : UtcMark) :
    (moment.toText mark).toList =
      (Decimal.paddedDigits 4 moment.date.year).toList ++
        '-' :: ((Decimal.paddedDigits 2 moment.date.month).toList ++
          '-' :: ((Decimal.paddedDigits 2 moment.date.day).toList ++
            'T' :: ((Decimal.paddedDigits 2 (moment.clock / 3600)).toList ++
              ':' :: ((Decimal.paddedDigits 2 (moment.clock / 60 % 60)).toList ++
                ':' :: ((Decimal.paddedDigits 2 (moment.clock % 60)).toList ++
                  (fractionChars moment.micros ++ moment.offsetChars mark)))))) := by
  have fraction : (if moment.micros = 0 then "" else
      "." ++ Decimal.paddedDigits 6 moment.micros).toList = fractionChars moment.micros := by
    unfold fractionChars
    split <;> simp [String.toList_append]
  rw [← fraction]
  change (Decimal.paddedDigits 4 moment.date.year ++ "-" ++ Decimal.paddedDigits 2 moment.date.month
    ++ "-" ++ Decimal.paddedDigits 2 moment.date.day ++ "T" ++
      Decimal.paddedDigits 2 (moment.clock / 3600) ++ ":" ++
      Decimal.paddedDigits 2 (moment.clock / 60 % 60) ++ ":" ++
      Decimal.paddedDigits 2 (moment.clock % 60) ++
      (if moment.micros = 0 then "" else "." ++ Decimal.paddedDigits 6 moment.micros) ++
      (moment.offset.map (offsetText mark)).getD "").toList = _
  have dash : "-".toList = ['-'] := rfl
  have colon : ":".toList = [':'] := rfl
  have letter : "T".toList = ['T'] := rfl
  simp only [String.toList_append, List.append_assoc, offsetChars, dash, colon, letter,
    List.cons_append, List.nil_append]

variable {moment}

/-- A writable moment is made of its parts. -/
theorem ofParts_eq (writable : moment.IsWritable) :
    ofParts moment.date (moment.clock / 3600) (moment.clock / 60 % 60) (moment.clock % 60)
      moment.micros moment.offset = moment := by
  have start := writable.start
  have day : moment.date.toDays = moment.seconds / 86400 := toDays_ofDays _
  have clock : (moment.clock / 3600 * 60 + moment.clock / 60 % 60) * 60 + moment.clock % 60 =
      moment.clock := by omega
  have whole : (moment.seconds / 86400) * 86400 + moment.clock = moment.seconds :=
    Nat.div_add_mod' _ _
  have second : (moment.seconds : Int) = moment.wall / 1000000 :=
    Int.toNat_of_nonneg (Int.ediv_nonneg start (by decide))
  have rest : (moment.micros : Int) = moment.wall % 1000000 :=
    Int.toNat_of_nonneg (Int.emod_nonneg _ (by decide))
  have wall : ((((moment.date.toDays * 24 + (moment.clock / 3600 : Nat)) * 60 +
      (moment.clock / 60 % 60 : Nat)) * 60 + (moment.clock % 60 : Nat) : Int) * 1000000 +
      moment.micros) = moment.wall := by
    rw [day, rest]
    omega
  exact congrArg (Moment.mk · moment.offset) wall

/-- A writable moment is read back from its text. -/
theorem ofFieldText?_toText (mark : UtcMark) (writable : moment.IsWritable) :
    ofFieldText? (moment.toText mark) = some moment := by
  have real : moment.date.isValid = true := by
    refine isValid_ofDays ?_
    have stop := writable.stop
    have start := writable.start
    unfold wallEnd perDay at stop
    unfold seconds
    unfold perSecond at *
    omega
  have clock : moment.clock < 86400 := Nat.mod_lt _ (by decide)
  have hour := takeNumber?_paddedDigits (show 0 < 2 by decide)
    (show moment.clock / 3600 < 10 ^ 2 by omega)
  have minute := takeNumber?_paddedDigits (show 0 < 2 by decide)
    (show moment.clock / 60 % 60 < 10 ^ 2 by omega)
  have fits : moment.micros < 10 ^ 6 := by
    unfold micros perSecond
    omega
  have seconds := takeSeconds?_text (show moment.clock % 60 < 60 by omega) fits
    (offsetChars_isTail mark moment)
  have early : moment.clock / 3600 < 24 ∧ moment.clock / 60 % 60 < 60 := by omega
  have read : ofClockText? (moment.toText mark).toList = some moment := by
    rw [toList_toText, ofClockText?, takeDate?_text real]
    simp only [Option.bind_eq_bind, Option.bind_some, hour, minute, seconds, dropChar?, early,
      offset?_offsetChars mark writable, if_true, and_self, ofParts_eq writable]
    rfl
  rw [ofFieldText?, ofText?, read]
  rfl

end Whole

section Reading

variable {moment : Moment}

/-- The value of some digits is below the power of ten of their number. -/
theorem valueOf_lt {digits : List Nat} (small : ∀ digit ∈ digits, digit < 10) :
    Numeral.valueOf digits < 10 ^ digits.length := by
  have onward : ∀ (digits : List Nat) (value : Nat), (∀ digit ∈ digits, digit < 10) →
      digits.foldl (fun value digit => 10 * value + digit) value <
        (value + 1) * 10 ^ digits.length := by
    intro digits
    induction digits with
    | nil => simp
    | cons digit rest ih =>
      intro value small
      rw [List.forall_mem_cons] at small
      have step : 10 * value + digit + 1 ≤ (value + 1) * 10 := by
        have := small.1
        omega
      refine (ih (10 * value + digit) small.2).trans_le ?_
      rw [List.length_cons, Nat.pow_succ', ← Nat.mul_assoc]
      exact Nat.mul_le_mul_right _ step
  simpa [Numeral.valueOf] using onward digits 0 small

/-- A plain digit is less than ten. -/
theorem plainDigit?_lt {c : Char} {digit : Nat} (read : plainDigit? c = some digit) :
    digit < 10 := by
  unfold plainDigit? at read
  split at read
  · next isDigit =>
    cases read
    simp only [Char.isDigit, Bool.and_eq_true, decide_eq_true_eq] at isDigit
    have most : c.toNat ≤ 57 := isDigit.2
    have zero : '0'.toNat = 48 := rfl
    omega
  · cases read

/-- Digits of a text are less than ten. -/
theorem lt_of_mem_takeDigits {cs : List Char} :
    ∀ digit ∈ (Numeral.takeDigits cs).1, digit < 10 := by
  intro digit member
  obtain ⟨c, -, read⟩ := List.mem_filterMap.mp member
  exact plainDigit?_lt read

/-- The microseconds of a fraction are less than a second. -/
theorem fractionMicros_lt {digits : List Nat} (small : ∀ digit ∈ digits, digit < 10) :
    fractionMicros digits < 10 ^ 6 := by
  have six : ((digits ++ List.replicate 6 0).take 6).length = 6 := by simp
  have smallTaken : ∀ digit ∈ (digits ++ List.replicate 6 0).take 6, digit < 10 := by
    intro digit member
    rcases List.mem_append.mp (List.mem_of_mem_take member) with own | zero
    · exact small digit own
    · rw [List.eq_of_mem_replicate zero]
      decide
  have lt := valueOf_lt smallTaken
  rwa [six] at lt

/-- The fraction of a second is less than a second. -/
theorem takeFraction?_lt {cs rest : List Char} {micros : Nat}
    (read : takeFraction? cs = some (micros, rest)) : micros < 10 ^ 6 := by
  cases cs with
  | nil =>
    cases read
    decide
  | cons mark after =>
    rw [takeFraction?] at read
    split at read
    · have small : ∀ digit ∈ (Numeral.takeDigits after).1, digit < 10 := lt_of_mem_takeDigits
      split at read
      · cases read
      · next digits _ _ taken =>
        rw [taken] at small
        cases read
        exact fractionMicros_lt small
    · cases read
      decide

/-- Seconds are less than a minute. -/
theorem takeSeconds?_lt {cs rest : List Char} {second micros : Nat}
    (read : takeSeconds? cs = some (second, micros, rest)) : second < 60 ∧ micros < 10 ^ 6 := by
  unfold takeSeconds? at read
  split at read
  · simp only [Option.bind_eq_bind, Option.bind_eq_some_iff] at read
    obtain ⟨⟨found, after⟩, -, ⟨fraction, others⟩, fractions, read⟩ := read
    split at read
    · next short =>
      cases read
      exact ⟨short, takeFraction?_lt fractions⟩
    · cases read
  · cases read
    decide

/-- A date that is read exists. -/
theorem takeDate?_valid {cs rest : List Char} {date : Date}
    (read : takeDate? cs = some (date, rest)) : date.isValid = true := by
  unfold takeDate? at read
  simp only [Option.bind_eq_bind, Option.bind_eq_some_iff] at read
  obtain ⟨⟨year, _⟩, -, _, -, ⟨month, _⟩, -, _, -, ⟨day, _⟩, -, read⟩ := read
  split at read
  · next real =>
    cases read
    exact real
  · cases read

/-- Hours and minutes of a clock are a number of minutes less than a day, east or west. -/
theorem signed_writable {hours minutes : Nat} (early : hours < 24) (short : minutes < 60)
    (negative : Bool) (east : Int)
    (signed : (if negative then -((hours * 60 + minutes : Int) * 60)
      else (hours * 60 + minutes) * 60) = east) :
    east % 60 = 0 ∧ east.natAbs < 86400 := by
  subst signed
  split <;> omega

/-- An offset that is read is a number of minutes less than a day. -/
theorem offset?_writable {cs : List Char} {found : Option Int} (read : offset? cs = some found) :
    ∀ east ∈ found, east % 60 = 0 ∧ east.natAbs < 86400 := by
  intro east given
  unfold offset? at read
  split at read
  · cases read
    cases given
  · cases read
    cases given
    decide
  · cases read
    cases given
    decide
  · next sign rest _ _ =>
    have signed : ∀ next : Bool → Option (Option Int),
        (if sign = '+' then (some false).bind next
          else if (sign = '-' || sign = '−') = true then (some true).bind next
          else none.bind next) = some found → ∃ negative, next negative = some found := by
      intro next read
      split at read
      · exact ⟨false, read⟩
      · split at read
        · exact ⟨true, read⟩
        · cases read
    obtain ⟨negative, read⟩ := signed _ read
    simp only [Option.bind_eq_bind, Option.bind_eq_some_iff] at read
    obtain ⟨⟨hours, _⟩, -, ⟨minutes, _⟩, -, read⟩ := read
    split at read
    · next bounds =>
      simp only [Bool.and_eq_true, decide_eq_true_eq] at bounds
      cases read
      exact signed_writable bounds.2 bounds.1.2 negative east (Option.some.inj given)
    · cases read

/-- A moment made of the parts of a clock that exist is writable. -/
theorem ofParts_writable {date : Date} {hour minute second micros : Nat} {east : Option Int}
    (real : date.isValid = true) (hours : hour < 24) (minutes : minute < 60) (seconds : second < 60)
    (fits : micros < 10 ^ 6) (offset : ∀ east' ∈ east, east' % 60 = 0 ∧ east'.natAbs < 86400) :
    (ofParts date hour minute second micros east).IsWritable := by
  have days := toDays_lt real
  refine ⟨?_, ?_, fun _ given => (offset _ given).1, fun _ given => (offset _ given).2⟩
  · simp only [ofParts, perSecond]
    omega
  · simp only [ofParts, wallEnd, perDay, perSecond]
    omega

/-- A moment read as a date with a time of day is writable. -/
theorem ofClockText?_writable {cs : List Char} (read : ofClockText? cs = some moment) :
    moment.IsWritable := by
  unfold ofClockText? at read
  simp only [Option.bind_eq_bind, Option.bind_eq_some_iff] at read
  obtain ⟨⟨date, rest⟩, dated, read⟩ := read
  cases rest with
  | nil => cases read
  | cons mark rest =>
    simp only at read
    split at read
    · simp only [Option.bind_eq_some_iff] at read
      obtain ⟨⟨hour, _⟩, -, _, -, ⟨minute, _⟩, -, ⟨second, micros, after⟩, seconds, east, offset,
        read⟩ := read
      split at read
      · next early =>
        cases read
        obtain ⟨short, fits⟩ := takeSeconds?_lt seconds
        exact ofParts_writable (takeDate?_valid dated) early.1 early.2 short fits
          (offset?_writable offset)
      · cases read
    · cases read

/-- A moment read as a bare date is writable. -/
theorem ofDateText?_writable {cs : List Char} (read : ofDateText? cs = some moment) :
    moment.IsWritable := by
  unfold ofDateText? at read
  split at read
  · next date dated =>
    cases read
    exact ofParts_writable (takeDate?_valid dated) (by decide) (by decide) (by decide) (by decide)
      fun east given => by cases given
  · cases read

/-- A moment of the years 1600 to 9999 in UTC is writable. -/
theorem ofEpochMicros_writable {seconds micros : Int}
    (late : countBounds.1 ≤ seconds + micros / perSecond)
    (early : seconds + micros / perSecond ≤ countBounds.2) :
    (ofEpochMicros (seconds * perSecond + micros)).IsWritable := by
  have epoch : epochSeconds = 62135596800 := rfl
  have stop : wallEnd = 315537897600000000 := rfl
  simp only [countBounds, perSecond] at late early
  refine ⟨?_, ?_, fun east given => ?_, fun east given => ?_⟩
  · simp only [ofEpochMicros, epoch, perSecond]
    omega
  · simp only [ofEpochMicros, epoch, stop, perSecond]
    omega
  · cases given
    rfl
  · cases given
    decide

/-- A moment read as a count is writable. -/
theorem ofCount?_writable {count micros : Int} (read : ofCount? count micros = some moment) :
    moment.IsWritable := by
  unfold ofCount? at read
  split at read
  next seconds rest _ =>
    dsimp only at read
    split at read
    · next bounds =>
      cases read
      exact ofEpochMicros_writable bounds.1 bounds.2
    · cases read

/-- A moment read as a count with a fraction is writable. -/
theorem ofFraction?_writable {count : Float} (read : ofFraction? count = some moment) :
    moment.IsWritable := by
  unfold ofFraction? at read
  split at read
  · exact ofCount?_writable read
  · cases read

/-- A moment read from a text is writable. -/
theorem ofFieldText?_writable {text : String} (read : ofFieldText? text = some moment) :
    moment.IsWritable := by
  unfold ofFieldText? ofText? at read
  cases clock : ofClockText? text.toList with
  | some found =>
    rw [clock] at read
    cases read
    exact ofClockText?_writable clock
  | none =>
    cases date : ofDateText? text.toList with
    | some found =>
      rw [clock, date] at read
      cases read
      exact ofDateText?_writable date
    | none =>
      rw [clock, date] at read
      simp only [Option.orElse_none] at read
      split at read
      · exact ofCount?_writable read
      · unfold ofPointText? at read
        simp only [Option.bind_eq_bind, Option.bind_eq_some_iff] at read
        obtain ⟨after, -, read⟩ := read
        split at read
        · cases read
        · exact ofFraction?_writable read

/-- Taken as UTC, a writable moment is writable. -/
theorem IsWritable.assumingUtc (writable : moment.IsWritable) :
    moment.assumingUtc.IsWritable := by
  refine ⟨writable.start, writable.stop, fun east given => ?_, fun east given => ?_⟩
  · cases given
    cases offset : moment.offset with
    | none => rfl
    | some east => exact writable.minutes east offset
  · cases given
    cases offset : moment.offset with
    | none => decide
    | some east => exact writable.day east offset

end Reading

end Storefront.Moment
