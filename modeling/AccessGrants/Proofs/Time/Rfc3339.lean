import AccessGrants.Proofs.Time.Calendar
import AccessGrants.Time.Rfc3339
import Mathlib.Data.List.TakeWhile

/-!
# AccessGrants.Proofs.Time.Rfc3339

A time that is written in the notation of RFC 3339 is read as itself, to the nanosecond.

* `Instant.Civil`  — the times that the notation has a text for.
* `length_padded`, `ofDigitChars_padded` — numbers with leading zeros.
* `number?_append` — digits are read up to where they end.
* `parse?_render`  — the text of a time is read as the time.
* `civil_of_parse?`— every time that is read is one that has a text.
-/

namespace AccessGrants

/-- A representable time; a leap second only ends a minute. -/
structure Instant.Civil (t : Instant) : Prop where
  day : t.representable = true
  nanos : t.nanos < 2 * billion
  leap : billion ≤ t.nanos → t.seconds % 60 = 59

namespace Text

/-! ## Numbers with leading zeros -/

theorem toList_padded (width n : Nat) : (padded width n).toList =
    List.replicate (width - (Nat.toDigits 10 n).length) '0' ++ Nat.toDigits 10 n := by
  rw [padded, Nat.toList_repr, String.toList_ofList]

theorem digits_padded (width n : Nat) : ∀ c ∈ (padded width n).toList, c.isDigit = true := by
  intro c hc
  rw [toList_padded] at hc
  rcases List.mem_append.mp hc with hzero | hdigit
  · rw [List.eq_of_mem_replicate hzero]
    decide
  · exact Nat.isDigit_of_mem_toDigits (by decide) (by decide) hdigit

theorem ofDigitChars_padded (width n : Nat) : Nat.ofDigitChars 10 (padded width n).toList 0 = n := by
  rw [toList_padded, Nat.ofDigitChars_append, Nat.ofDigitChars_replicate_zero, Nat.mul_zero,
    Nat.ofDigitChars_ten_toDigits]

theorem length_padded {width n : Nat} (hw : 0 < width) (h : n < 10 ^ width) :
    (padded width n).toList.length = width := by
  have hlength : (Nat.toDigits 10 n).length ≤ width :=
    (Nat.length_toDigits_le_iff (by decide) hw).mpr h
  rw [toList_padded, List.length_append, List.length_replicate]
  omega

theorem padded_ne_nil (width n : Nat) : (padded width n).toList ≠ [] := by
  rw [toList_padded]
  exact fun h => Nat.toDigits_ne_nil (List.append_eq_nil_iff.mp h).2

end Text

namespace Rfc3339

open Text (trimStart padded)

/-! ## Numbers -/

theorem natOf_eq (cs : List Char) : natOf cs = Nat.ofDigitChars 10 cs 0 := by
  simp only [natOf, Nat.ofDigitChars_eq_foldl, Nat.mul_comm 10]

theorem natOf_padded (width n : Nat) : natOf (padded width n).toList = n := by
  rw [natOf_eq, Text.ofDigitChars_padded]

/-- No digit comes next. -/
def Stops (rest : List Char) : Prop :=
  rest.takeWhile Char.isDigit = []

theorem stops_cons {c : Char} {rest : List Char} (hc : c.isDigit = false) : Stops (c :: rest) := by
  simp [Stops, hc]

variable {cs rest : List Char}

theorem Stops.take (h : Stops rest) (n : Nat) : Stops (rest.take n) := by
  cases n with
  | zero => rfl
  | succ n =>
    cases rest with
    | nil => rfl
    | cons c rest =>
      rw [Stops, List.takeWhile_eq_nil_iff] at h
      exact stops_cons (Bool.eq_false_iff.mpr (h (Nat.zero_lt_succ _)))

theorem takeWhile_digits (hd : ∀ c ∈ cs, c.isDigit = true) (hstop : Stops rest) :
    (cs ++ rest).takeWhile Char.isDigit = cs := by
  rw [List.takeWhile_append_of_pos hd, hstop, List.append_nil]

/-- Digits are read up to the width or to where they end. -/
theorem number?_append {width : Nat} (hne : cs ≠ []) (hd : ∀ c ∈ cs, c.isDigit = true)
    (hw : cs.length ≤ width) (hstop : cs.length = width ∨ Stops rest) :
    number? width (cs ++ rest) = some (natOf cs, rest) := by
  have hrest : Stops (rest.take (width - cs.length)) := by
    rcases hstop with heq | hstop
    · rw [heq, Nat.sub_self]
      rfl
    · exact hstop.take _
  have hdigits : ((cs ++ rest).take width).takeWhile Char.isDigit = cs := by
    rw [List.take_append, List.take_of_length_le hw, takeWhile_digits hd hrest]
  rw [number?, hdigits, if_neg (by simpa using hne), List.drop_left]

theorem isBlank_of_isDigit {c : Char} (hc : c.isDigit = true) : Text.isBlank c = false := by
  have hrange : 48 ≤ c.toNat ∧ c.toNat ≤ 57 := by
    simpa [Char.isDigit, UInt32.le_iff_toNat_le] using hc
  simp only [Text.isBlank, Bool.or_eq_false_iff, Bool.and_eq_false_iff, decide_eq_false_iff_not]
  omega

theorem trimStart_digits (hne : cs ≠ []) (hd : ∀ c ∈ cs, c.isDigit = true) :
    trimStart (cs ++ rest) = cs ++ rest := by
  obtain ⟨c, cs, rfl⟩ := List.exists_cons_of_ne_nil hne
  rw [List.cons_append, trimStart, List.dropWhile_cons,
    isBlank_of_isDigit (hd c List.mem_cons_self)]
  rfl

theorem field?_padded {width n : Nat} (hw : 0 < width) (h : n < 10 ^ width) :
    field? width ((padded width n).toList ++ rest) = some (n, rest) := by
  have hlength := Text.length_padded hw h
  rw [field?, trimStart_digits (Text.padded_ne_nil _ _) (Text.digits_padded _ _),
    number?_append (Text.padded_ne_nil _ _) (Text.digits_padded _ _) hlength.le (.inl hlength),
    natOf_padded]

theorem toList_cons_append {sign text : String} {c : Char} (hsign : sign.toList = [c]) :
    (sign ++ text).toList ++ rest = c :: (text.toList ++ rest) := by
  rw [String.toList_append, hsign]
  rfl

/-! ## Years -/

theorem year?_unsigned (hne : cs ≠ []) (hd : ∀ c ∈ cs, c.isDigit = true) :
    year? (cs ++ rest) = (number? 4 (cs ++ rest)).map fun (n, rest) => ((n : Int), rest) := by
  obtain ⟨c, cs, rfl⟩ := List.exists_cons_of_ne_nil hne
  have hc := hd c List.mem_cons_self
  rw [year?, trimStart_digits hne hd]
  split
  · rename_i heq
    cases heq
    exact absurd hc (by decide)
  · rename_i heq
    cases heq
    exact absurd hc (by decide)
  · rfl

theorem year?_minus (cs : List Char) :
    year? ('-' :: cs) = (number? cs.length cs).map fun (n, rest) => (-(n : Int), rest) := rfl

theorem year?_plus (cs : List Char) :
    year? ('+' :: cs) = (number? cs.length cs).map fun (n, rest) => ((n : Int), rest) := rfl

theorem number?_padded (width n : Nat) (hstop : Stops rest) :
    number? ((padded width n).toList ++ rest).length ((padded width n).toList ++ rest) =
      some (n, rest) := by
  rw [number?_append (Text.padded_ne_nil _ _) (Text.digits_padded _ _) (by simp) (.inr hstop),
    natOf_padded]

theorem year?_render (year : Int) (hstop : Stops rest) :
    year? ((renderYear year).toList ++ rest) = some (year, rest) := by
  rw [renderYear]
  split
  · rename_i hyear
    have hlength : (padded 4 year.toNat).toList.length = 4 :=
      Text.length_padded (by decide) (by omega)
    rw [year?_unsigned (Text.padded_ne_nil _ _) (Text.digits_padded _ _),
      number?_append (Text.padded_ne_nil _ _) (Text.digits_padded _ _) hlength.le (.inl hlength),
      natOf_padded]
    exact congrArg (fun y => some (y, rest)) (Int.toNat_of_nonneg hyear.1)
  · split
    · rename_i hneg
      have hvalue : -((-year).toNat : Int) = year := by omega
      rw [toList_cons_append (c := '-') rfl, year?_minus, number?_padded _ _ hstop]
      exact congrArg (fun y => some (y, rest)) hvalue
    · rename_i hlong hneg
      have hvalue : (year.toNat : Int) = year := by omega
      rw [toList_cons_append (c := '+') rfl, year?_plus, number?_padded _ _ hstop]
      exact congrArg (fun y => some (y, rest)) hvalue

/-! ## Fractions of a second -/

theorem fraction?_digits {width n : Nat} (hw : 0 < width) (hwidth : width ≤ 9) (h : n < 10 ^ width)
    (hstop : Stops rest) : fraction? (("." ++ padded width n).toList ++ rest) =
      some (n * 10 ^ (9 - width), rest) := by
  have hlength := Text.length_padded hw h
  have hdigits := takeWhile_digits (Text.digits_padded width n) hstop
  have hdrop : ((padded width n).toList ++ rest).dropWhile Char.isDigit = rest := by
    have happend := List.takeWhile_append_dropWhile (p := Char.isDigit)
      (l := (padded width n).toList ++ rest)
    rw [hdigits] at happend
    exact List.append_cancel_left happend
  rw [toList_cons_append (c := '.') rfl, fraction?, hdigits, hdrop,
    if_neg (by simpa using Text.padded_ne_nil width n), List.take_of_length_le (by omega)]
  dsimp only
  rw [hlength, natOf_padded]
  rfl

theorem fraction?_render {nanos : Nat} (h : nanos < Instant.billion) (c : Char) (hc : c ≠ '.')
    (hdigit : c.isDigit = false) : fraction? ((renderFraction nanos).toList ++ c :: rest) =
      some (nanos, c :: rest) := by
  have hstop : Stops (c :: rest) := stops_cons hdigit
  simp only [Instant.billion] at h
  rw [renderFraction]
  split
  · rename_i hzero
    show fraction? (c :: rest) = _
    unfold fraction?
    split
    · rename_i heq
      cases heq
      exact absurd rfl hc
    · rw [hzero]
  · split
    · rw [fraction?_digits (by decide) (by decide) (by omega) hstop]
      congr 2
      omega
    · split
      · rw [fraction?_digits (by decide) (by decide) (by omega) hstop]
        congr 2
        omega
      · rw [fraction?_digits (by decide) (by decide) (by omega) hstop]
        congr 2
        omega

/-! ## Whole times -/

theorem assemble_utc {date : Calendar.Date} {hour minute second nanos : Nat} {t : Instant}
    (hdate : date.valid = true) (hhour : hour < 24) (hminute : minute < 60) (hsecond : second ≤ 60)
    (hseconds : date.dayNumber * Instant.secondsPerDay + hour * 3600 + minute * 60 +
      (second - (if second = 60 then 1 else 0) : Nat) = t.seconds)
    (hnanos : nanos + (if second = 60 then 1 else 0) * Instant.billion = t.nanos)
    (ht : t.representable = true) : assemble date hour minute second nanos 0 = some t := by
  rw [assemble, if_pos ⟨hdate, hhour, hminute, hsecond⟩]
  dsimp only
  rw [hseconds, hnanos, if_pos ht, Int.sub_zero, Instant.checked, if_pos ht]

theorem assemble_civil {t : Instant} (h : t.Civil) :
    let second := (t.seconds % Instant.secondsPerDay).toNat
    let leap := if Instant.billion ≤ t.nanos then 1 else 0
    assemble (Calendar.Date.ofDayNumber (t.seconds / Instant.secondsPerDay)) (second / 3600)
      (second / 60 % 60) (second % 60 + leap) (t.nanos - leap * Instant.billion) 0 = some t := by
  obtain ⟨hday, hnanos, hleap⟩ := h
  have hbillion : Instant.billion = 1000000000 := rfl
  simp only [Instant.secondsPerDay]
  have hvalid := Calendar.Date.valid_ofDayNumber (t.seconds / 86400)
  have hnumber := Calendar.Date.dayNumber_ofDayNumber (t.seconds / 86400)
  -- second 60 is that of a leap second
  by_cases hn : Instant.billion ≤ t.nanos
  · have hlast := hleap hn
    have hsixty : (t.seconds % 86400).toNat % 60 + 1 = 60 := by omega
    simp only [if_pos hn, hsixty]
    refine assemble_utc hvalid (by omega) (by omega) (Nat.le_refl _) ?_ ?_ hday
    · rw [hnumber, Instant.secondsPerDay, if_pos rfl]
      omega
    · rw [if_pos rfl]
      omega
  · simp only [if_neg hn]
    have hsixty : (t.seconds % 86400).toNat % 60 + 0 ≠ 60 := by omega
    refine assemble_utc hvalid (by omega) (by omega) (by omega) ?_ ?_ hday
    · rw [hnumber, Instant.secondsPerDay, if_neg hsixty]
      omega
    · rw [if_neg hsixty]
      omega

theorem toList_render (t : Instant) :
    let date := Calendar.Date.ofDayNumber (t.seconds / Instant.secondsPerDay)
    let second := (t.seconds % Instant.secondsPerDay).toNat
    let leap := if Instant.billion ≤ t.nanos then 1 else 0
    (render t).toList = (renderYear date.year).toList ++ '-' :: ((padded 2 date.month).toList ++
      '-' :: ((padded 2 date.day).toList ++ 'T' :: ((padded 2 (second / 3600)).toList ++
      ':' :: ((padded 2 (second / 60 % 60)).toList ++ ':' :: ((padded 2 (second % 60 + leap)).toList ++
      ((renderFraction (t.nanos - leap * Instant.billion)).toList ++ ['Z'])))))) := by
  simp [render, renderWith]

theorem expect?_cons {c : Char} (hc : Text.isBlank c = false) :
    expect? c (trimStart (c :: rest)) = some rest := by
  rw [trimStart, List.dropWhile_cons, hc]
  exact if_pos rfl

theorem field?_two {n : Nat} (h : n < 100) :
    field? 2 ((padded 2 n).toList ++ rest) = some (n, rest) :=
  field?_padded (by decide) h

/-- A text in UTC is read part by part. -/
theorem parse?_parts {text : String} {year : Int} {month day hour minute second nanos : Nat}
    (htext : text.toList = (renderYear year).toList ++ '-' :: ((padded 2 month).toList ++
      '-' :: ((padded 2 day).toList ++ 'T' :: ((padded 2 hour).toList ++
      ':' :: ((padded 2 minute).toList ++ ':' :: ((padded 2 second).toList ++
      ((renderFraction nanos).toList ++ ['Z'])))))))
    (hmonth : month < 100) (hday : day < 100) (hhour : hour < 100) (hminute : minute < 100)
    (hsecond : second < 100) (hnanos : nanos < Instant.billion) :
    parse? text = assemble ⟨year, month, day⟩ hour minute second nanos 0 := by
  have hdash : Text.isBlank '-' = false := by decide
  have hcolon : Text.isBlank ':' = false := by decide
  have step : ∀ {α β : Type} {x : Option α} {a : α} {f : α → Option β}, x = some a → x >>= f = f a := by
    rintro α β _ a f rfl
    rfl
  rw [parse?, htext]
  refine (step (year?_render year (stops_cons (by decide)))).trans ?_
  refine (step (expect?_cons hdash)).trans ?_
  refine (step (field?_two hmonth)).trans ?_
  refine (step (expect?_cons hdash)).trans ?_
  refine (step (field?_two hday)).trans ?_
  dsimp only
  refine (step (Eq.refl (some _))).trans ?_
  refine (step (field?_two hhour)).trans ?_
  refine (step (expect?_cons hcolon)).trans ?_
  refine (step (field?_two hminute)).trans ?_
  refine (step (expect?_cons hcolon)).trans ?_
  refine (step (field?_two hsecond)).trans ?_
  exact step (fraction?_render hnanos 'Z' (by decide) (by decide))

/-- The text of a time is read as the time. -/
theorem parse?_render {t : Instant} (h : t.Civil) : parse? (render t) = some t := by
  have hbillion : Instant.billion = 1000000000 := rfl
  have hnanos := h.nanos
  obtain ⟨hmonth, hday⟩ := Calendar.Date.ofDayNumber_lt (t.seconds / Instant.secondsPerDay)
  have hsecond : 0 ≤ t.seconds % Instant.secondsPerDay ∧
      t.seconds % Instant.secondsPerDay < 86400 :=
    ⟨Int.emod_nonneg _ (by decide), Int.emod_lt_of_pos _ (by decide)⟩
  have hleap : (if Instant.billion ≤ t.nanos then 1 else 0) ≤ 1 := by split <;> decide
  rw [parse?_parts (toList_render t) hmonth hday (by omega) (by omega) (by omega) ?_,
    assemble_civil h]
  split <;> omega

/-! ## What is read -/

theorem ofDigitChars_lt {acc : Nat} (hd : ∀ c ∈ cs, c.isDigit = true) :
    Nat.ofDigitChars 10 cs acc < (acc + 1) * 10 ^ cs.length := by
  induction cs generalizing acc with
  | nil => simp
  | cons c cs ih =>
    have hc : c.toNat - '0'.toNat < 10 := by
      have hdigit := hd c List.mem_cons_self
      have hlast : c.toNat ≤ 57 := by
        simp [Char.isDigit, UInt32.le_iff_toNat_le] at hdigit
        exact hdigit.2
      have hfirst : '0'.toNat = 48 := rfl
      omega
    calc Nat.ofDigitChars 10 (c :: cs) acc
        = Nat.ofDigitChars 10 cs (10 * acc + (c.toNat - '0'.toNat)) := Nat.ofDigitChars_cons
      _ < (10 * acc + (c.toNat - '0'.toNat) + 1) * 10 ^ cs.length :=
        ih fun d hd' => hd d (List.mem_cons_of_mem _ hd')
      _ ≤ (10 * (acc + 1)) * 10 ^ cs.length := Nat.mul_le_mul_right _ (by omega)
      _ = (acc + 1) * 10 ^ (c :: cs).length := by
        rw [List.length_cons, Nat.pow_succ, Nat.mul_comm 10, Nat.mul_assoc, Nat.mul_comm 10]

theorem fraction?_lt {n : Nat} (h : fraction? cs = some (n, rest)) : n < Instant.billion := by
  unfold fraction? at h
  split at h
  · rename_i digits
    dsimp only at h
    split at h
    · cases h
    · cases h
      have hkept : ∀ c ∈ (digits.takeWhile Char.isDigit).take 9, c.isDigit = true := fun c hc =>
        List.mem_takeWhile_imp (List.mem_of_mem_take hc)
      have hlength : ((digits.takeWhile Char.isDigit).take 9).length ≤ 9 := List.length_take_le _ _
      generalize (digits.takeWhile Char.isDigit).take 9 = kept at hkept hlength
      have hlt : natOf kept < 10 ^ kept.length := by
        have hdigits : Nat.ofDigitChars 10 kept 0 < (0 + 1) * 10 ^ kept.length := ofDigitChars_lt hkept
        rwa [natOf_eq, ← Nat.one_mul (10 ^ kept.length)]
      calc natOf kept * Nat.pow 10 (9 - kept.length)
          < 10 ^ kept.length * 10 ^ (9 - kept.length) :=
            Nat.mul_lt_mul_of_pos_right hlt (Nat.pow_pos (by decide))
        _ = 10 ^ 9 := by rw [← Nat.pow_add, Nat.add_sub_cancel' hlength]
  · cases h
    decide

theorem offset?_minutes {offset : Int} (h : offset? cs = some (offset, rest)) : offset % 60 = 0 := by
  cases cs with
  | nil => cases h
  | cons sign cs =>
    rw [offset?] at h
    split at h
    · cases h
      rfl
    · split at h
      · cases h
        rfl
      · split at h
        · simp only [Option.bind_eq_bind, Option.bind_eq_some_iff, Prod.exists] at h
          obtain ⟨hours, east, -, minutes, left, -, h⟩ := h
          split at h
          · simp only [Option.some.injEq, Prod.mk.injEq] at h
            rw [← h.1]
            split <;> omega
          · cases h
        · cases h

/-- Only second 60 is that of a leap second. -/
theorem civil_of_assemble {date : Calendar.Date} {hour minute second nanos : Nat} {offset : Int}
    {t : Instant} (h : assemble date hour minute second nanos offset = some t)
    (hnanos : nanos < Instant.billion) (hoffset : offset % 60 = 0) : t.Civil := by
  rw [assemble] at h
  split at h
  · rename_i hvalid
    dsimp only at h
    generalize hsixty : (if second = 60 then 1 else 0) = leap at h
    split at h
    · rw [Instant.checked] at h
      split at h
      · rename_i hday
        cases h
        refine ⟨hday, ?_, fun hleap => ?_⟩
        · dsimp only
          split at hsixty <;> subst hsixty <;> omega
        · dsimp only [Instant.secondsPerDay] at hleap ⊢
          split at hsixty <;> subst hsixty <;> omega
      · cases h
    · cases h
  · cases h

/-- Every time that is read has a text. -/
theorem civil_of_parse? {text : String} {t : Instant} (h : parse? text = some t) : t.Civil := by
  rw [parse?] at h
  obtain ⟨⟨year, cs⟩, -, h⟩ := Option.bind_eq_some_iff.mp h
  obtain ⟨cs, -, h⟩ := Option.bind_eq_some_iff.mp h
  obtain ⟨⟨month, cs⟩, -, h⟩ := Option.bind_eq_some_iff.mp h
  obtain ⟨cs, -, h⟩ := Option.bind_eq_some_iff.mp h
  obtain ⟨⟨day, cs⟩, -, h⟩ := Option.bind_eq_some_iff.mp h
  dsimp only at h
  split at h
  case h_4 => cases h
  all_goals
    obtain ⟨cs, -, h⟩ := Option.bind_eq_some_iff.mp h
    obtain ⟨⟨hour, cs⟩, -, h⟩ := Option.bind_eq_some_iff.mp h
    obtain ⟨cs, -, h⟩ := Option.bind_eq_some_iff.mp h
    obtain ⟨⟨minute, cs⟩, -, h⟩ := Option.bind_eq_some_iff.mp h
    obtain ⟨cs, -, h⟩ := Option.bind_eq_some_iff.mp h
    obtain ⟨⟨second, cs⟩, -, h⟩ := Option.bind_eq_some_iff.mp h
    obtain ⟨⟨nanos, cs⟩, hnanos, h⟩ := Option.bind_eq_some_iff.mp h
    obtain ⟨⟨offset, cs⟩, hoffset, h⟩ := Option.bind_eq_some_iff.mp h
    dsimp only at h
    split at h
    · cases h
    · split at h
      · exact civil_of_assemble h (fraction?_lt hnanos) (offset?_minutes hoffset)
      · cases h

end Rfc3339
end AccessGrants
