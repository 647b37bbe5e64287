import Provision.Proofs.Number.Digits
import Provision.Proofs.Text.Blanks
import Provision.Time.Timestamp

/-!
# Timestamps are read back

The parts of a timestamp are written one behind the other, and each of them is read back by the
reader that is there for it, however the text goes on (`Reads`). So the whole text is read
(`ofText_toText`): with a sign or without one in front of the year, with any fraction, and also
within a leap second.

Only the second 60 shows that it is a leap second. A leap second after another second than 59 is
written as the second that comes next, and it is read as that second (`settled`). So a timestamp is
read as itself if it is not within such a leap second, and only then (`settled_eq_self_iff`).
-/

set_option autoImplicit false

namespace Provision.Time.Timestamp

open Number (padded)
open Text (isBlank isBlank_of_isDigit trimStart)

variable {α β : Type} {reader : Reader α} {written more rest : List Char} {value : α}

/-- The reader takes what is written for the value, and leaves the rest. -/
def Reads (reader : Reader α) (written : List Char) (value : α) (rest : List Char) : Prop :=
  reader.run (written ++ rest) = .ok (value, rest)

namespace Reads

/-- What is written for two readers is read by the one and then by the other. -/
theorem bind {follow : α → Reader β} {result : β}
    (first : Reads reader written value (more ++ rest))
    (second : Reads (follow value) more result rest) :
    Reads (reader >>= follow) (written ++ more) result rest := by
  unfold Reads at *
  rw [StateT.run_bind, List.append_assoc, first]
  exact second

/-- Nothing has to be written for what is read without looking. -/
theorem bind_silent {follow : α → Reader β} {result : β}
    (first : Reads reader [] value (more ++ rest))
    (second : Reads (follow value) more result rest) :
    Reads (reader >>= follow) more result rest :=
  bind first second

/-- Behind the last part that is written nothing has to follow. -/
theorem bind_last {follow : α → Reader β} {result : β} (first : Reads reader written value rest)
    (second : Reads (follow value) [] result rest) :
    Reads (reader >>= follow) written result rest := by
  rw [← List.append_nil written]
  exact bind first second

theorem pure (value : α) (rest : List Char) : Reads (Pure.pure value) [] value rest := rfl

/-- A reader that looks at the text goes on from there. -/
theorem get_bind {follow : List Char → Reader α}
    (reads : Reads (follow (written ++ rest)) written value rest) :
    Reads (get >>= follow) written value rest := reads

/-- A reader that has looked at one character goes on behind it. -/
theorem set_bind {character : Char} {follow : Unit → Reader β} {result : β}
    (goesOn : Reads (follow ()) more result rest) :
    Reads (MonadStateOf.set (more ++ rest) >>= follow) (character :: more) result rest := goesOn

theorem lift {computed : Except TimestampFault α} (known : computed = .ok value)
    (rest : List Char) :
    Reads (monadLift computed) [] value rest := by
  rw [known]
  rfl

end Reads

/-! ## Digits -/

/-- Digits make a number as long as it stays in its word. -/
theorem addDigits_eq {run : List Char} {start : Nat}
    (fits : Nat.ofDigitChars 10 run start < Number.wordSize 63) :
    addDigits start run = .ok (Nat.ofDigitChars 10 run start) := by
  induction run generalizing start with
  | nil => rfl
  | cons digit run ih =>
      have step : start * 10 + (digit.toNat - 48) = 10 * start + (digit.toNat - '0'.toNat) := by
        rw [Nat.mul_comm]
        rfl
      rw [Nat.ofDigitChars_cons] at fits ⊢
      have below := Nat.lt_of_le_of_lt (Number.le_ofDigitChars run _) fits
      rw [addDigits]
      simp only [step, Nat.not_le.mpr below, if_false]
      exact ih fits

/-- What is written for a number in a given width makes the number. -/
theorem addDigits_padded {width number : Nat} (fits : number < Number.wordSize 63) :
    addDigits 0 (padded width number).toList = .ok number := by
  have value := Number.ofDigitChars_padded width number
  rw [addDigits_eq (by rwa [value]), value]

/-- Digits are read up to the number of them that is allowed. -/
theorem reads_digits_most {run : List Char} {count : Nat} (positive : 0 < count)
    (digit : ∀ character ∈ run, character.isDigit = true) (length : run.length = count)
    (rest : List Char) : Reads (digits (some count)) run run rest := by
  cases run with
  | nil => exact absurd length (Nat.ne_of_lt positive)
  | cons first others =>
      have taken : ((first :: others ++ rest).takeWhile Char.isDigit).take count =
          first :: others := by
        rw [List.takeWhile_append_of_pos digit, List.take_append_of_le_length (by omega), ← length,
          List.take_length]
      show digits (some count) (first :: (others ++ rest)) = _
      simp only [digits, ← List.cons_append, taken, List.isEmpty_cons, Bool.false_eq_true, if_false,
        List.drop_left]

/-- Digits are read up to the first other character. -/
theorem reads_digits {run : List Char} (something : run ≠ [])
    (digit : ∀ character ∈ run, character.isDigit = true)
    (ends : rest.takeWhile Char.isDigit = []) :
    Reads (digits none) run run rest := by
  cases run with
  | nil => exact absurd rfl something
  | cons first others =>
      have taken : (first :: others ++ rest).takeWhile Char.isDigit = first :: others := by
        rw [List.takeWhile_append_of_pos digit, ends, List.append_nil]
      show digits none (first :: (others ++ rest)) = _
      simp only [digits, ← List.cons_append, taken, List.isEmpty_cons, Bool.false_eq_true, if_false,
        List.drop_left]

/-! ## Parts -/

/-- Nothing is skipped in front of a character that can be seen. -/
theorem reads_blanks (visible : ∀ character ∈ rest.head?, isBlank character = false) :
    Reads blanks [] () rest := by
  show Except.ok ((), trimStart rest) = _
  cases rest with
  | nil => rfl
  | cons first others =>
      have seen := visible first rfl
      simp [trimStart, seen]

theorem reads_literal (expected : Char) (rest : List Char) :
    Reads (literal expected) [expected] () rest := by
  show literal expected (expected :: rest) = _
  simp [literal]

/-- A digit stands in front of what is written for a number. -/
theorem padded_visible (width number : Nat) (rest : List Char) :
    ∀ character ∈ ((padded width number).toList ++ rest).head?, isBlank character = false := by
  obtain ⟨digit, others, shape, isDigit⟩ := Number.exists_digit_append width number rest
  intro character first
  rw [shape] at first
  cases first
  exact isBlank_of_isDigit isDigit

/-- A number is read by its digits, and what follows goes on with it. -/
theorem Reads.number {most : Option Nat} {width number : Nat} {follow : Nat → Reader β} {result : β}
    (small : number < Number.wordSize 63)
    (taken : Reads (digits most) (padded width number).toList (padded width number).toList rest)
    (goesOn : Reads (follow number) [] result rest) :
    Reads (digits most >>= fun run => liftM (addDigits 0 run) >>= follow)
      (padded width number).toList result rest :=
  Reads.bind_last taken (Reads.bind_silent (Reads.lift (addDigits_padded small) rest) goesOn)

/-- A number that fills its width is read, whatever follows. -/
theorem reads_padded_most {width number : Nat} (positive : 0 < width)
    (fits : number < Nat.pow 10 width) (rest : List Char) :
    Reads (digits (some width)) (padded width number).toList (padded width number).toList rest :=
  reads_digits_most positive (fun _ => Number.isDigit_of_mem_padded)
    (Number.length_padded positive fits) rest

/-- A number is read if what follows is no digit. -/
theorem reads_padded (width number : Nat) (ends : rest.takeWhile Char.isDigit = []) :
    Reads (digits none) (padded width number).toList (padded width number).toList rest :=
  reads_digits (Number.padded_ne_nil width number) (fun _ => Number.isDigit_of_mem_padded) ends

/-- A field of two digits is read as the number that is written in it. -/
theorem reads_field {low high number : Nat} (bounds : low ≤ number ∧ number ≤ high)
    (short : number < 100) (rest : List Char) :
    Reads (field low high) (padded 2 number).toList number rest := by
  have small : number < Number.wordSize 63 := Nat.lt_trans short (by decide)
  refine Reads.bind_silent (reads_blanks (padded_visible 2 number rest)) ?_
  refine Reads.number small (reads_padded_most Nat.two_pos short rest) ?_
  simp only [bounds, decide_true, Bool.and_self, if_true]
  exact Reads.pure number rest

/-- A mark of one character stands in front of a text. -/
theorem toList_mark_append {mark : String} {character : Char} (single : mark.toList = [character])
    (text : String) : (mark ++ text).toList = character :: text.toList := by
  rw [String.toList_append, single]
  rfl

/-! ## Years -/

/-- There are dates in the years of six digits at most. -/
theorem natAbs_year_lt (date : Date) : date.year.natAbs < 262144 := by
  obtain ⟨low, high, -⟩ := date.isDate
  omega

/-- A sign or a digit stands in front of what is written for a year. -/
theorem yearText_visible (year : Int) (rest : List Char) :
    ∀ character ∈ ((yearText year).toList ++ rest).head?, isBlank character = false := by
  unfold yearText
  split
  · exact padded_visible 4 _ rest
  · intro character first
    rw [String.toList_append] at first
    split at first
    · cases first
      decide
    · cases first
      decide

/-- A year is read with the sign that it needs. -/
theorem reads_yearField {year : Int} (inRange : year.natAbs < 262144)
    (ends : rest.takeWhile Char.isDigit = []) :
    Reads yearField (yearText year).toList year rest := by
  have small : year.natAbs < Number.wordSize 63 := Nat.lt_trans inRange (by decide)
  have accepted : (decide (-(Number.wordSize 31 : Int) ≤ year) &&
      decide (year < Number.wordSize 31)) = true := by
    rw [show Number.wordSize 31 = 2147483648 by decide]
    simp
    omega
  unfold yearField
  refine Reads.bind_silent (reads_blanks (yearText_visible year rest)) (Reads.get_bind ?_)
  unfold yearText
  by_cases plain : (decide (0 ≤ year) && decide (year ≤ 9999)) = true
  · have bounds : 0 ≤ year ∧ year ≤ 9999 := by simpa using plain
    have four : year.toNat < 10000 := by omega
    obtain ⟨digit, others, shape, isDigit⟩ := Number.exists_digit_append 4 year.toNat rest
    rw [if_pos plain, shape]
    -- No sign is a digit, so the digits are read as they stand.
    split
    · rename_i same
      cases same
      cases isDigit
    · rename_i same
      cases same
      cases isDigit
    · refine Reads.number (Nat.lt_trans four (by decide))
        (reads_padded_most (by decide) four rest) (Reads.bind_silent (Reads.pure _ rest) ?_)
      simp only [Int.toNat_of_nonneg bounds.1, accepted, if_true]
      exact Reads.pure year rest
  · rw [if_neg plain]
    by_cases negative : year < 0
    · have value : -(year.natAbs : Int) = year := by omega
      rw [if_pos negative, toList_mark_append rfl]
      refine Reads.set_bind (Reads.number small (reads_padded 4 _ ends)
        (Reads.bind_silent (Reads.pure _ rest) ?_))
      simp only [value, accepted, if_true]
      exact Reads.pure year rest
    · have value : (year.natAbs : Int) = year := by omega
      rw [if_neg negative, toList_mark_append rfl]
      refine Reads.set_bind (Reads.number small (reads_padded 4 _ ends)
        (Reads.bind_silent (Reads.pure _ rest) ?_))
      simp only [value, accepted, if_true]
      exact Reads.pure year rest

/-! ## Fractions -/

/-- Digits of a fraction count by their place. -/
theorem reads_point {width number nano : Nat} (positive : 0 < width) (most : width ≤ 9)
    (fits : number < Nat.pow 10 width) (counts : number * Nat.pow 10 (9 - width) = nano)
    (ends : rest.takeWhile Char.isDigit = []) :
    Reads fraction ("." ++ padded width number).toList nano rest := by
  have length := Number.length_padded positive fits
  have small : number < Number.wordSize 63 :=
    Nat.lt_of_lt_of_le fits (Nat.le_trans (Nat.pow_le_pow_right (by decide) most) (by decide))
  have kept : (padded width number).toList.take 9 = (padded width number).toList :=
    List.take_of_length_le (by rw [length]; exact most)
  unfold fraction
  rw [toList_mark_append rfl]
  refine Reads.get_bind (Reads.set_bind ?_)
  refine Reads.bind_last (reads_padded width number ends) ?_
  rw [kept]
  refine Reads.bind_silent (Reads.lift (addDigits_padded small) rest) ?_
  rw [length, counts]
  exact Reads.pure nano rest

/-- A fraction is read to the nanosecond, with as many digits as it is written in. -/
theorem reads_fraction {nano : Nat} (below : nano < 1000000000)
    (ends : rest.takeWhile Char.isDigit = []) (unpointed : ∀ behind, rest ≠ '.' :: behind) :
    Reads fraction (fractionText nano).toList nano rest := by
  have thousand : Nat.pow 10 3 = 1000 := by decide
  have million : Nat.pow 10 6 = 1000000 := by decide
  have billion : Nat.pow 10 9 = 1000000000 := by decide
  unfold fractionText
  split
  · rename_i zero
    rw [beq_iff_eq.mp zero]
    refine Reads.get_bind ?_
    simp only [String.toList_empty, List.nil_append]
    exact Reads.pure 0 rest
  · split
    · rename_i millis
      have whole : nano % 1000000 = 0 := beq_iff_eq.mp millis
      exact reads_point (by decide) (by decide) (by rw [thousand]; omega)
        (by rw [million]; omega) ends
    · split
      · rename_i micros
        have whole : nano % 1000 = 0 := beq_iff_eq.mp micros
        exact reads_point (by decide) (by decide) (by rw [million]; omega)
          (by rw [thousand]; omega) ends
      · exact reads_point (by decide) (by decide) (by rw [billion]; exact below)
          (Nat.mul_one nano) ends

/-! ## Timestamps -/

/-- The instant as its text is read: a leap second after another second than 59 is taken for the
second that comes next. -/
def settled (time : Timestamp) : Timestamp :=
  if last : time.second = 59 then time
  else
    { time with
      second := time.shownSecond
      nano := time.shownNano
      second_lt := by
        have second := time.second_lt
        have nano := time.nano_lt
        unfold shownSecond
        omega
      nano_lt := by
        unfold shownNano
        omega }

/-- A leap second follows the second 59 only. -/
def Regular (time : Timestamp) : Prop :=
  time.nano < 1000000000 ∨ time.second = 59

theorem settled_of_regular {time : Timestamp} (regular : time.Regular) : time.settled = time := by
  obtain ⟨date, hour, minute, second, nano, _, _, _, _⟩ := time
  unfold settled
  split
  · rfl
  · rename_i other
    have short : nano < 1000000000 := regular.resolve_right other
    have seconds : second + nano / 1000000000 = second := by omega
    have nanos : nano % 1000000000 = nano := Nat.mod_eq_of_lt short
    simp only [shownSecond, shownNano, seconds, nanos]

/-- What has been read once is read as itself. -/
theorem settled_regular (time : Timestamp) : time.settled.Regular := by
  unfold settled
  split
  · rename_i last
    exact .inr last
  · exact .inl (Nat.mod_lt _ (by decide))

theorem settled_eq_self_iff {time : Timestamp} : time.settled = time ↔ time.Regular :=
  ⟨fun same => same ▸ settled_regular time, settled_of_regular⟩

/-- The instant that is read is written as the text that it is read from. -/
theorem toText_settled (time : Timestamp) : time.settled.toText = time.toText := by
  by_cases last : time.second = 59
  · rw [settled_of_regular (.inr last)]
  · have second : time.settled.shownSecond = time.shownSecond := by
      simp only [settled, dif_neg last, shownSecond, shownNano]
      omega
    have nano : time.settled.shownNano = time.shownNano := by
      simp only [settled, dif_neg last, shownNano, Nat.mod_mod]
    unfold toText
    rw [second, nano, settled, dif_neg last]

/-- At a clock that is not ahead, what is shown of a timestamp is the instant as it is read. -/
theorem ofLocal_shown (time : Timestamp) :
    ofLocal time.date.year time.date.month time.date.day time.hour time.minute time.shownSecond
      time.shownNano 0 = .ok time.settled := by
  obtain ⟨date, hour, minute, second, nano, hour_lt, minute_lt, second_lt, nano_lt⟩ := time
  have today : ((hour : Int) * 60 + minute - 0) / 1440 = 0 := by omega
  have hours : (((hour : Int) * 60 + minute - 0) % 1440).toNat / 60 = hour := by omega
  have minutes : (((hour : Int) * 60 + minute - 0) % 1440).toNat % 60 = minute := by omega
  have shifted : date.shift? (((hour : Int) * 60 + minute - 0) / 1440) = some date := by
    rw [today]
    rfl
  have shown : second + nano / 1000000000 ≤ 60 := by omega
  unfold ofLocal
  rw [dif_pos ⟨hour_lt, minute_lt, shown, Nat.mod_lt _ (by decide)⟩]
  simp only [Date.of?_self, shifted, hours, minutes, shownSecond, shownNano]
  -- After the second 59 the leap second is the second 60, and otherwise there is room for it.
  by_cases last : second = 59
  · have seconds : min (second + nano / 1000000000) 59 = second := by omega
    have nanos : (second + nano / 1000000000) / 60 * 1000000000 + nano % 1000000000 = nano := by
      omega
    rw [settled_of_regular (.inr last)]
    simp only [seconds, nanos]
    rfl
  · have seconds : min (second + nano / 1000000000) 59 = second + nano / 1000000000 := by omega
    have nanos : (second + nano / 1000000000) / 60 * 1000000000 + nano % 1000000000 =
        nano % 1000000000 := by omega
    rw [settled, dif_neg last]
    simp only [seconds, nanos]
    rfl

theorem reads_zone : Reads zone ['Z'] 0 [] := rfl

/-- What stands in front of a separator that can be seen is not followed by blanks. -/
theorem reads_separator {separator : Char} {follow : Unit → Reader β} {result : β}
    (visible : isBlank separator = false) (goesOn : Reads (follow ()) more result rest) :
    Reads (blanks >>= fun _ => literal separator >>= follow) (separator :: more) result rest := by
  have taken : Reads (literal separator >>= follow) ([separator] ++ more) result rest :=
    Reads.bind (reads_literal separator _) goesOn
  refine Reads.bind_silent (reads_blanks ?_) taken
  intro character first
  cases first
  exact visible

theorem reads_parts (time : Timestamp) :
    Reads parts time.toText.toList (.ok time.settled) [] := by
  have year := natAbs_year_lt time.date
  obtain ⟨-, -, month_pos, month_le, day_pos, day_le⟩ := time.date.isDate
  have days : time.date.day ≤ 31 := by
    unfold daysInMonth at day_le
    split at day_le
    · split at day_le <;> omega
    · split at day_le <;> omega
  have hour := time.hour_lt
  have minute := time.minute_lt
  have second : time.shownSecond ≤ 60 := by
    have second := time.second_lt
    have nano := time.nano_lt
    unfold shownSecond
    omega
  have whole : time.toText.toList =
      (yearText time.date.year).toList ++ '-' :: ((padded 2 time.date.month).toList ++
        '-' :: ((padded 2 time.date.day).toList ++ 'T' :: ((padded 2 time.hour).toList ++
          ':' :: ((padded 2 time.minute).toList ++ ':' :: ((padded 2 time.shownSecond).toList ++
            ((fractionText time.shownNano).toList ++ ['Z'])))))) := by
    simp [toText]
  rw [whole]
  unfold parts
  refine Reads.bind (reads_yearField year rfl) (reads_separator (by decide) ?_)
  refine Reads.bind (reads_field ⟨month_pos, month_le⟩ (by omega) _)
    (reads_separator (by decide) ?_)
  refine Reads.bind (reads_field ⟨day_pos, days⟩ (by omega) _) (Reads.get_bind ?_)
  refine Reads.set_bind ?_
  refine Reads.bind (reads_field ⟨by omega, by omega⟩ (by omega) _)
    (reads_separator (by decide) ?_)
  refine Reads.bind (reads_field ⟨by omega, by omega⟩ (by omega) _)
    (reads_separator (by decide) ?_)
  refine Reads.bind (reads_field ⟨by omega, second⟩ (by omega) _) ?_
  refine Reads.bind (reads_fraction (Nat.mod_lt _ (by decide)) rfl (fun _ => by rintro ⟨⟩)) ?_
  refine Reads.bind_silent (reads_blanks (fun _ => by rintro ⟨⟩; decide)) ?_
  refine Reads.bind_last reads_zone ?_
  rw [ofLocal_shown]
  exact Reads.pure _ []

/-- **The text of a timestamp is read back**, as the timestamp itself or, within a leap second that
does not show, as the second that it shows. -/
theorem ofText_toText (time : Timestamp) : ofText time.toText = .ok time.settled := by
  have read := reads_parts time
  unfold Reads at read
  rw [List.append_nil] at read
  unfold ofText
  rw [read]
  rfl

end Provision.Time.Timestamp
