import Mathlib.Algebra.Group.Nat.Defs
import Mathlib.Data.Option.Basic
import Parley.Proofs.Moment.Calendar

/-!
# Moments as text

A moment of the calendar is written in one way and may be read in many. `Parley.Moment.ofText?_toText`
says that what is written is read as the moment that was written; `Parley.Moment.valid_of_ofText?` says
that whatever is read is a moment of the calendar.

The text is a row of numbers of fixed length with marks between them, so the proof takes off one number
after the other (`Parley.Moment.number?_padded`).
-/

namespace Parley.Moment

/-- **A moment of the calendar**: the clock shows a time of the years 1 to 9999, and its distance from
universal time, if known, is a number of minutes less than a day. -/
structure Valid (m : Moment) : Prop where
  clock : InCalendar (m.clock.fdiv dayLength)
  ahead : ∀ seconds, m.ahead = some seconds →
    ∃ minutes : Int, seconds = minutes * 60 ∧ -1440 < minutes ∧ minutes < 1440

/-- On a clock of unknown offset only the day counts. -/
theorem valid_of_clock {clock : Int} (h : InCalendar (clock.fdiv dayLength)) : Valid ⟨clock, none⟩ :=
  ⟨h, fun _ known => by cases known⟩

/-! ### Digits -/

theorem toList_padded (width n : Nat) :
    (padded width n).toList =
      List.replicate (width - (Nat.toDigits 10 n).length) '0' ++ Nat.toDigits 10 n := by
  simp only [padded, String.toList_append, String.toList_ofList, Nat.toList_repr, ← String.length_toList]

theorem isDigit_padded {width n : Nat} {c : Char} (mem : c ∈ (padded width n).toList) :
    c.isDigit = true := by
  rw [toList_padded, List.mem_append] at mem
  rcases mem with zero | digit
  · rw [List.eq_of_mem_replicate zero]
    rfl
  · exact Nat.isDigit_of_mem_toDigits (by decide) (by decide) digit

theorem length_padded (width n : Nat) (some_width : 0 < width) (fits : n < 10 ^ width) :
    (padded width n).toList.length = width := by
  have short := (Nat.length_toDigits_le_iff (by decide) some_width).mpr fits
  rw [toList_padded, List.length_append, List.length_replicate]
  omega

/-- Padding does not change the value of digits. -/
theorem digits?_padded (width n : Nat) (some_width : 0 < width) (fits : n < 10 ^ width) :
    Text.digits? (padded width n).toList = some n := by
  have some_digit : (padded width n).toList.isEmpty = false := by
    rw [List.isEmpty_eq_false_iff, ← List.length_pos_iff, length_padded width n some_width fits]
    exact some_width
  have all_digits : (padded width n).toList.all Char.isDigit = true :=
    List.all_eq_true.mpr fun _ => isDigit_padded
  have value : (padded width n).toList.foldl (fun n c => n * 10 + (c.toNat - 48)) 0 =
      Nat.ofDigitChars 10 (padded width n).toList 0 := by
    rw [Nat.ofDigitChars_eq_foldl]
    simp only [Nat.mul_comm]
    rfl
  rw [Text.digits?, some_digit, all_digits, value, toList_padded, Nat.ofDigitChars_append,
    Nat.ofDigitChars_replicate_zero, Nat.mul_zero, Nat.ofDigitChars_ten_toDigits]
  rfl

/-- **A padded number is read back**, and what follows it is left. -/
theorem number?_padded (width n : Nat) (some_width : 0 < width) (fits : n < 10 ^ width)
    (rest : List Char) : number? width ((padded width n).toList ++ rest) = some (n, rest) := by
  have length := length_padded width n some_width fits
  rw [number?, if_pos (by rw [List.length_append]; omega), List.take_left' length,
    List.drop_left' length, digits?_padded width n some_width fits]
  rfl

theorem marked?_padded (mark : Char) (width n : Nat) (some_width : 0 < width) (fits : n < 10 ^ width)
    (rest : List Char) :
    marked? mark width (mark :: ((padded width n).toList ++ rest)) = some (n, rest) := by
  rw [marked?, List.head?_cons, if_pos (beq_self_eq_true _)]
  exact number?_padded width n some_width fits rest

theorem seconds?_padded (n : Nat) (few : n < 60) (rest : List Char) :
    seconds? (':' :: ((padded 2 n).toList ++ rest)) = some (n, rest) := by
  rw [seconds?, List.head?_cons, if_pos (beq_self_eq_true _), List.drop_one, List.tail_cons]
  exact number?_padded 2 n (by decide) (by omega) rest

/-! ### Offsets -/

/-- What stands behind the seconds: the microseconds, if there are any. -/
def fractionText (micros : Nat) : String := if micros = 0 then "" else "." ++ padded 6 micros

/-- What stands at the end: the offset, if it is known. -/
def aheadText (ahead : Option Int) : String :=
  match ahead with
  | some ahead => offsetText ahead
  | none => ""

theorem offset?_marked {mark : Char} {hours minutes : Nat} (is_mark : mark = '+' ∨ mark = '-')
    (lt : hours < 24) (few : minutes < 60) :
    offset? (mark :: ((padded 2 hours).toList ++ ':' :: (padded 2 minutes).toList)) =
      some (some (if mark = '-' then -(((hours * 60 + minutes) * 60 : Nat) : Int)
        else ((hours * 60 + minutes) * 60 : Nat))) := by
  have first := number?_padded 2 hours (by decide) (by omega)
    (':' :: (padded 2 minutes).toList)
  have second := number?_padded 2 minutes (by decide) (by omega) []
  rw [List.append_nil] at second
  rcases is_mark with rfl | rfl <;> simp [offset?, first, second, lt, few, guard]

/-- The marks between numbers. -/
theorem toList_mark :
    "-".toList = ['-'] ∧ "+".toList = ['+'] ∧ ":".toList = [':'] ∧ ".".toList = ['.'] ∧
      "T".toList = ['T'] := by decide

/-- **A written offset is read back.** -/
theorem offset?_aheadText {m : Moment} (h : m.Valid) :
    offset? (aheadText m.ahead).toList = some m.ahead := by
  cases known : m.ahead with
  | none => rfl
  | some seconds =>
    obtain ⟨minutes, rfl, low, high⟩ := h.ahead seconds known
    by_cases zero : minutes * 60 = 0
    · rw [aheadText, offsetText, if_pos zero, zero]
      rfl
    · by_cases before : minutes * 60 < 0
      · rw [aheadText, offsetText, if_neg zero, if_pos before]
        simp only [String.toList_append, toList_mark, List.append_assoc, List.cons_append, List.nil_append]
        rw [offset?_marked (.inr rfl) (by omega) (by omega), if_pos rfl]
        congr 2
        omega
      · rw [aheadText, offsetText, if_neg zero, if_neg before]
        simp only [String.toList_append, toList_mark, List.append_assoc, List.cons_append, List.nil_append]
        rw [offset?_marked (.inl rfl) (by omega) (by omega), if_neg (by decide)]
        congr 2
        omega

/-! ### Whole moments -/

/-- The digits of a fraction end where the offset begins. -/
theorem aheadText_head (ahead : Option Int) (c : Char) (mem : c ∈ (aheadText ahead).toList.head?) :
    c = 'Z' ∨ c = '+' ∨ c = '-' := by
  unfold aheadText offsetText at mem
  cases ahead with
  | none => cases mem
  | some seconds =>
    by_cases zero : seconds = 0
    · rw [zero] at mem
      exact .inl (Option.some.inj mem).symm
    · simp only [if_neg zero] at mem
      by_cases before : seconds < 0
      · simp only [if_pos before, String.toList_append, toList_mark, List.cons_append] at mem
        exact .inr (.inr (Option.some.inj mem).symm)
      · simp only [if_neg before, String.toList_append, toList_mark, List.cons_append] at mem
        exact .inr (.inl (Option.some.inj mem).symm)

theorem takeWhile_digits (width n : Nat) (ahead : Option Int) :
    ((padded width n).toList ++ (aheadText ahead).toList).takeWhile Char.isDigit =
      (padded width n).toList := by
  rw [List.takeWhile_append_of_pos fun _ => isDigit_padded]
  cases text : (aheadText ahead).toList with
  | nil => exact List.append_nil _
  | cons c rest =>
    have no_digit : c.isDigit = false := by
      rcases aheadText_head ahead c (by rw [text]; rfl) with rfl | rfl | rfl <;> rfl
    rw [List.takeWhile_cons_of_neg (by rw [no_digit]; decide), List.append_nil]

theorem dropWhile_digits (width n : Nat) (ahead : Option Int) :
    ((padded width n).toList ++ (aheadText ahead).toList).dropWhile Char.isDigit =
      (aheadText ahead).toList := by
  have all := List.takeWhile_append_dropWhile (p := Char.isDigit)
    (l := (padded width n).toList ++ (aheadText ahead).toList)
  rw [takeWhile_digits] at all
  exact List.append_cancel_left all

theorem toText_eq (m : Moment) :
    m.toText.toList = (padded 4 m.date.year.toNat).toList ++ '-' :: ((padded 2 m.date.month).toList ++
      '-' :: ((padded 2 m.date.day).toList ++ 'T' :: ((padded 2 m.hour).toList ++
      ':' :: ((padded 2 m.minute).toList ++ ':' :: ((padded 2 m.second).toList ++
      ((fractionText (m.sinceMidnight % 1000000)).toList ++ (aheadText m.ahead).toList)))))) := by
  simp only [toText, String.toList_append, toList_mark, List.append_assoc, List.cons_append,
    List.nil_append]
  rfl

/-- The clock of a moment shows a time of day. -/
theorem time_bounds (m : Moment) : m.hour < 24 ∧ m.minute < 60 ∧ m.second < 60 := by
  have day : m.sinceMidnight < 86400000000 := by
    unfold sinceMidnight dayLength
    rw [Int.fmod_eq_emod_of_nonneg _ (by decide)]
    omega
  unfold hour minute second
  omega

theorem fraction_padded {micros : Nat} (lt : micros < 1000000) :
    fraction (padded 6 micros).toList = micros := by
  have length := length_padded 6 micros (by decide) (by omega)
  rw [fraction, List.take_of_length_le (by omega), digits?_padded 6 micros (by decide) (by omega), length]
  exact Nat.mul_one micros

/-- **Written microseconds are read back**, and so are none. -/
theorem micros?_fractionText {micros : Nat} (lt : micros < 1000000) (ahead : Option Int) :
    micros? ((fractionText micros).toList ++ (aheadText ahead).toList) =
      some (micros, (aheadText ahead).toList) := by
  unfold fractionText
  by_cases whole : micros = 0
  · have no_mark : ((aheadText ahead).toList.head? == some '.' ||
        (aheadText ahead).toList.head? == some ',') = false := by
      cases head : (aheadText ahead).toList.head? with
      | none => rfl
      | some c => rcases aheadText_head ahead c head with rfl | rfl | rfl <;> rfl
    rw [if_pos whole, whole, String.toList_empty, List.nil_append, micros?, no_mark]
    rfl
  · have some_digit : (padded 6 micros).toList.isEmpty = false := by
      rw [List.isEmpty_eq_false_iff, ← List.length_pos_iff, length_padded 6 _ (by decide) (by omega)]
      decide
    rw [if_neg whole, String.toList_append, toList_mark.2.2.2.1, List.append_assoc, List.cons_append,
      List.nil_append, micros?, if_pos (by rfl), List.drop_one, List.tail_cons, takeWhile_digits,
      dropWhile_digits]
    simp only [some_digit, fraction_padded lt]
    rfl

theorem ofChars?_toText {m : Moment} (h : m.Valid) :
    ofChars? m.toText.toList = ofFields? m.date.year.toNat m.date.month m.date.day m.hour m.minute
      m.second (m.sinceMidnight % 1000000) m.ahead := by
  obtain ⟨⟨_, _⟩, ⟨_, _⟩, ⟨_, days⟩⟩ := proper_dateOf h.clock
  have long := monthLength_le m.date.year.toNat m.date.month
  obtain ⟨hours, minutes, seconds⟩ := m.time_bounds
  have year := number?_padded 4 m.date.year.toNat (by decide) (by unfold date at *; omega)
  have month := marked?_padded '-' 2 m.date.month (by decide) (by unfold date at *; omega)
  have day := marked?_padded '-' 2 m.date.day (by decide) (by unfold date at *; omega)
  have hour := number?_padded 2 m.hour (by decide) (by omega)
  have minute := marked?_padded ':' 2 m.minute (by decide) (by omega)
  have second := seconds?_padded m.second seconds
  have micros := micros?_fractionText (Nat.mod_lt m.sinceMidnight (by decide)) m.ahead
  rw [toText_eq]
  simp [ofChars?, year, month, day, hour, minute, second, micros, offset?_aheadText h, guard]

/-- **What is written of a moment is read as that moment.** -/
theorem ofText?_toText {m : Moment} (h : m.Valid) : ofText? m.toText = some m := by
  obtain ⟨⟨early, late⟩, months, days⟩ := proper_dateOf h.clock
  have year : ((m.date.year.toNat : Nat) : Int) = m.date.year := Int.toNat_of_nonneg (by unfold date; omega)
  have proper : 1 ≤ m.date.year.toNat ∧ 1 ≤ m.date.month ∧ m.date.month ≤ 12 ∧ 1 ≤ m.date.day ∧
      m.date.day ≤ monthLength m.date.year.toNat m.date.month ∧ m.hour < 24 ∧ m.minute < 60 ∧
      m.second < 60 := by
    exact ⟨by unfold date; omega, months.1, months.2, days.1, days.2, m.time_bounds⟩
  have date : daysOf m.date.year m.date.month m.date.day = m.clock.fdiv dayLength :=
    daysOf_dateOf (m.clock.fdiv dayLength)
  have clock : m.clock.fdiv dayLength * dayLength +
      ((m.hour : Int) * 3600 + (m.minute : Int) * 60 + (m.second : Int)) * 1000000 +
        ((m.sinceMidnight % 1000000 : Nat) : Int) = m.clock := by
    unfold hour minute second sinceMidnight dayLength
    rw [Int.fdiv_eq_ediv_of_nonneg _ (by decide), Int.fmod_eq_emod_of_nonneg _ (by decide)]
    omega
  rw [ofText?, ofChars?_toText h, ofFields?, if_pos proper]
  simp only [year, date, clock]

/-! ### What is read -/

/-- The value of digits is less than the power of their number. -/
theorem digits?_lt {cs : List Char} {n : Nat} (h : Text.digits? cs = some n) : n < 10 ^ cs.length := by
  have bound : ∀ (cs : List Char) (init : Nat), cs.all Char.isDigit = true →
      cs.foldl (fun n c => n * 10 + (c.toNat - 48)) init < (init + 1) * 10 ^ cs.length := by
    intro cs
    induction cs with
    | nil => simp
    | cons c rest ih =>
      intro init all
      simp only [List.all_cons, Bool.and_eq_true] at all
      obtain ⟨digit, others⟩ := all
      have small : c.toNat - 48 ≤ 9 := by
        simp only [Char.isDigit, Bool.and_eq_true, decide_eq_true_eq] at digit
        have := UInt32.le_iff_toNat_le.mp digit.2
        simp only [Char.toNat]
        simpa using this
      refine Nat.lt_of_lt_of_le (ih (init * 10 + (c.toNat - 48)) others) ?_
      rw [List.length_cons, Nat.pow_succ, Nat.mul_comm (10 ^ rest.length) 10, ← Nat.mul_assoc]
      exact Nat.mul_le_mul_right _ (by omega)
  unfold Text.digits? at h
  split at h
  · cases h
  · rename_i all
    cases h
    simp only [Bool.or_eq_true, Bool.not_eq_true', not_or, Bool.not_eq_false] at all
    simpa using bound cs 0 all.2

theorem number?_lt {width n : Nat} {cs rest : List Char} (h : number? width cs = some (n, rest)) :
    n < 10 ^ width := by
  unfold number? at h
  split at h
  · rename_i long
    simp only [Option.map_eq_some_iff, Prod.mk.injEq] at h
    obtain ⟨_, value, rfl, -⟩ := h
    have lt := digits?_lt value
    rwa [List.length_take_of_le long] at lt
  · cases h

theorem fraction_lt (digits : List Char) : fraction digits < 1000000 := by
  have short : (digits.take 6).length ≤ 6 := List.length_take_le 6 digits
  simp only [fraction]
  cases value : Text.digits? (digits.take 6) with
  | none =>
    rw [Option.getD_none, Nat.zero_mul]
    decide
  | some n =>
    rw [Option.getD_some]
    calc n * 10 ^ (6 - (digits.take 6).length)
        < 10 ^ (digits.take 6).length * 10 ^ (6 - (digits.take 6).length) :=
          Nat.mul_lt_mul_of_pos_right (digits?_lt value) (Nat.pow_pos (by decide))
      _ = 10 ^ 6 := by rw [← Nat.pow_add, Nat.add_sub_cancel' short]

theorem micros?_lt {cs rest : List Char} {n : Nat} (h : micros? cs = some (n, rest)) : n < 1000000 := by
  unfold micros? at h
  split at h
  · simp only at h
    split at h
    · cases h
    · cases h
      exact fraction_lt _
  · cases h
    decide

theorem offset?_minutes {cs : List Char} {ahead : Option Int} (h : offset? cs = some ahead)
    {seconds : Int} (known : ahead = some seconds) :
    ∃ minutes : Int, seconds = minutes * 60 ∧ -1440 < minutes ∧ minutes < 1440 := by
  unfold offset? at h
  split at h
  · cases h
    cases known
  · cases h
    cases known
    exact ⟨0, rfl, by decide, by decide⟩
  · cases h
    cases known
    exact ⟨0, rfl, by decide, by decide⟩
  · simp only [Option.bind_eq_bind, Option.bind_eq_some_iff] at h
    obtain ⟨-, -, ⟨hours, _⟩, -, ⟨minutes, _⟩, -, _, few, h⟩ := h
    have few := (Option.guard_eq_some' _).mp few
    simp only [Bool.and_eq_true, decide_eq_true_eq] at few
    cases h
    cases known
    split
    · exact ⟨-(hours * 60 + minutes), by omega, by omega, by omega⟩
    · exact ⟨hours * 60 + minutes, rfl, by omega, by omega⟩

theorem valid_of_ofFields? {year month day hour minute second micros : Nat} {ahead : Option Int}
    {m : Moment} (h : ofFields? year month day hour minute second micros ahead = some m)
    (years : year < 10000) (lt : micros < 1000000)
    (whole : ∀ seconds, ahead = some seconds →
      ∃ minutes : Int, seconds = minutes * 60 ∧ -1440 < minutes ∧ minutes < 1440) : m.Valid := by
  unfold ofFields? at h
  split at h
  · rename_i proper
    cases h
    obtain ⟨_, _, _, _, _, _, _, _⟩ := proper
    have long := monthLength_le year month
    refine ⟨?_, whole⟩
    have days : (daysOf year month day * dayLength +
        ((hour : Int) * 3600 + (minute : Int) * 60 + (second : Int)) * 1000000 + (micros : Int)).fdiv
          dayLength = daysOf year month day := by
      unfold dayLength
      rw [Int.fdiv_eq_ediv_of_nonneg _ (by decide)]
      omega
    rw [days]
    exact inCalendar_daysOf (by omega) (by omega) (by omega)
  · cases h

theorem valid_of_ofInstant? {micros : Int} {m : Moment} (h : ofInstant? micros = some m) : m.Valid := by
  unfold ofInstant? at h
  split at h
  · cases h
    refine ⟨?_, fun seconds known => ⟨0, (Option.some.inj known).symm, by decide, by decide⟩⟩
    unfold InCalendar dayLength
    rw [Int.fdiv_eq_ediv_of_nonneg _ (by decide)]
    simp only
    omega
  · cases h

theorem valid_of_ofChars? {cs : List Char} {m : Moment} (h : ofChars? cs = some m) : m.Valid := by
  unfold ofChars? at h
  simp only [Option.bind_eq_bind, Option.bind_eq_some_iff] at h
  obtain ⟨⟨year, _⟩, four, ⟨month, _⟩, -, ⟨day, rest⟩, -, h⟩ := h
  have years : year < 10000 := number?_lt four
  simp only at h
  split at h
  · exact valid_of_ofFields? h years (by decide) nofun
  · simp only [Option.bind_eq_some_iff] at h
    obtain ⟨-, -, ⟨hour, _⟩, -, ⟨minute, _⟩, -, ⟨second, _⟩, -, ⟨micros, _⟩, some_micros, ahead, read, h⟩ := h
    exact valid_of_ofFields? h years (micros?_lt some_micros) fun _ => offset?_minutes read

/-- **What is read from a text is a moment of the calendar.** -/
theorem valid_of_ofText? {s : String} {m : Moment} (h : ofText? s = some m) : m.Valid := by
  unfold ofText? at h
  split at h
  · rename_i read
    cases h
    exact valid_of_ofChars? read
  · simp only at h
    split at h
    · cases h
    · unfold ofDecimal? at h
      simp only [Option.bind_eq_bind, Option.bind_eq_some_iff] at h
      obtain ⟨n, -, h⟩ := h
      exact valid_of_ofInstant? h

theorem valid_of_ofNumber? {n : Int} {micros : Nat} {m : Moment} (h : ofNumber? n micros = some m) :
    m.Valid := by
  unfold ofNumber? at h
  split at h <;> exact valid_of_ofInstant? h

end Parley.Moment
