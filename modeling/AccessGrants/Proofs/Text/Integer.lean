import AccessGrants.Text.Integer

/-!
# AccessGrants.Proofs.Text.Integer

A number that is written in decimal digits is read as itself.

* `Unsigned`                — the written numbers without a minus sign.
* `readDigits_eq_ok_iff`    — digits are read up to the limit.
* `parseUnsigned_eq_ok_iff` — what is read is a written number, and each one within the bound is read.
* `parseUnsigned_repr`      — so is the text of a number.
* `parseSigned_toString`    — and of one with its sign, within the bounds.
-/

namespace AccessGrants.Text

/-- The digits of a number, or a plus sign and the digits. -/
def Unsigned (cs : List Char) (n : Nat) : Prop :=
  ∃ digits, (cs = digits ∨ cs = '+' :: digits) ∧ digits ≠ [] ∧ (∀ c ∈ digits, c.isDigit = true) ∧
    Nat.ofDigitChars 10 digits 0 = n

theorem le_ofDigitChars (cs : List Char) (acc : Nat) : acc ≤ Nat.ofDigitChars 10 cs acc := by
  rw [Nat.ofDigitChars_eq_ofDigitChars_zero]
  have hpos : 0 < 10 ^ cs.length := Nat.pow_pos (by decide)
  exact Nat.le_trans (Nat.le_mul_of_pos_left acc hpos) (Nat.le_add_right _ _)

theorem readDigits_eq {limit : Nat} {beyond : IntegerError} {acc : Nat} {cs : List Char}
    (hd : ∀ c ∈ cs, c.isDigit = true) (hl : Nat.ofDigitChars 10 cs acc ≤ limit) :
    readDigits limit beyond acc cs = .ok (Nat.ofDigitChars 10 cs acc) := by
  induction cs generalizing acc with
  | nil => rw [readDigits, Nat.ofDigitChars_nil]
  | cons c cs ih =>
    have hnext : acc * 10 + (c.toNat - '0'.toNat) = 10 * acc + (c.toNat - '0'.toNat) := by omega
    rw [Nat.ofDigitChars_cons] at hl ⊢
    have hle := Nat.le_trans (le_ofDigitChars cs _) hl
    rw [readDigits, if_neg (by simp [hd c List.mem_cons_self]), hnext, if_neg (by omega)]
    exact ih (fun c hc => hd c (List.mem_cons_of_mem _ hc)) hl

theorem readDigits_le {limit : Nat} {beyond : IntegerError} {acc n : Nat} {cs : List Char}
    (ha : acc ≤ limit) (h : readDigits limit beyond acc cs = .ok n) : n ≤ limit := by
  induction cs generalizing acc with
  | nil =>
    cases h
    exact ha
  | cons c cs ih =>
    rw [readDigits] at h
    split at h
    · cases h
    · split at h
      · cases h
      · exact ih (by omega) h

/-- Digits are all that is read, as long as their number stays within the limit. -/
theorem readDigits_eq_ok_iff {limit : Nat} {beyond : IntegerError} {acc n : Nat} {cs : List Char}
    (ha : acc ≤ limit) : readDigits limit beyond acc cs = .ok n ↔
      (∀ c ∈ cs, c.isDigit = true) ∧ Nat.ofDigitChars 10 cs acc = n ∧ n ≤ limit := by
  refine ⟨fun h => ?_, fun ⟨hd, hn, hl⟩ => hn ▸ readDigits_eq hd (hn ▸ hl)⟩
  suffices hread : (∀ c ∈ cs, c.isDigit = true) ∧ Nat.ofDigitChars 10 cs acc = n from
    ⟨hread.1, hread.2, readDigits_le ha h⟩
  induction cs generalizing acc with
  | nil =>
    cases h
    exact ⟨by simp, Nat.ofDigitChars_nil⟩
  | cons c cs ih =>
    rw [readDigits] at h
    split at h
    · cases h
    · next hc =>
      split at h
      · cases h
      · next hnext =>
        obtain ⟨hd, hn⟩ := ih (Nat.le_of_not_lt hnext) h
        refine ⟨List.forall_mem_cons.mpr ⟨Decidable.not_not.mp hc, hd⟩, ?_⟩
        rw [Nat.ofDigitChars_cons, Nat.mul_comm, hn]

theorem not_sign_of_isDigit {c : Char} (h : c.isDigit = true) : c ≠ '+' ∧ c ≠ '-' :=
  ⟨by rintro rfl; exact absurd h (by decide), by rintro rfl; exact absurd h (by decide)⟩

/-- The written numbers without a minus sign are read up to the bound, and nothing else is. -/
theorem parseUnsigned_eq_ok_iff {greatest n : Nat} {text : String} :
    parseUnsigned greatest text = .ok n ↔ Unsigned text.toList n ∧ n ≤ greatest := by
  constructor
  · intro h
    unfold parseUnsigned at h
    split at h
    · cases h
    · cases h
    · cases h
    · next cs hne htext =>
      obtain ⟨hd, hn, hl⟩ := (readDigits_eq_ok_iff (Nat.zero_le _)).mp h
      exact ⟨⟨cs, .inr htext, hne, hd, hn⟩, hl⟩
    · next cs hne _ _ _ =>
      obtain ⟨hd, hn, hl⟩ := (readDigits_eq_ok_iff (Nat.zero_le _)).mp h
      exact ⟨⟨_, .inl rfl, hne, hd, hn⟩, hl⟩
  · rintro ⟨⟨digits, htext, hne, hd, hn⟩, hl⟩
    have hread : parseUnsigned greatest text = readDigits greatest .tooLarge 0 digits := by
      obtain ⟨c, cs, rfl⟩ := List.exists_cons_of_ne_nil hne
      obtain ⟨hplus, hminus⟩ := not_sign_of_isDigit (hd c List.mem_cons_self)
      unfold parseUnsigned
      rcases htext with htext | htext
      · rw [htext]
        split
        all_goals simp_all
      · rw [htext]
        rfl
    rw [hread]
    exact (readDigits_eq_ok_iff (Nat.zero_le _)).mpr ⟨hd, hn, hl⟩

theorem parseUnsigned_le {greatest n : Nat} {text : String}
    (h : parseUnsigned greatest text = .ok n) : n ≤ greatest :=
  (parseUnsigned_eq_ok_iff.mp h).2

theorem readDigits_toDigits {limit n : Nat} (beyond : IntegerError) (h : n ≤ limit) :
    readDigits limit beyond 0 (Nat.toDigits 10 n) = .ok n := by
  have hn := Nat.ofDigitChars_ten_toDigits (n := n)
  rw [readDigits_eq (fun c hc => Nat.isDigit_of_mem_toDigits (by decide) (by decide) hc)
    (by rw [hn]; exact h), hn]

theorem toDigits_unsigned (n : Nat) : ∃ c cs, Nat.toDigits 10 n = c :: cs ∧ c ≠ '+' ∧ c ≠ '-' := by
  cases hd : Nat.toDigits 10 n with
  | nil => exact absurd hd Nat.toDigits_ne_nil
  | cons c cs =>
    have hc : c.isDigit = true :=
      Nat.isDigit_of_mem_toDigits (by decide) (by decide) (hd ▸ List.mem_cons_self)
    exact ⟨c, cs, rfl, not_sign_of_isDigit hc⟩

theorem parseUnsigned_repr {greatest n : Nat} (h : n ≤ greatest) :
    parseUnsigned greatest n.repr = .ok n := by
  have hdigits : ∀ c ∈ Nat.toDigits 10 n, c.isDigit = true :=
    fun c hc => Nat.isDigit_of_mem_toDigits (by decide) (by decide) hc
  have hwritten : Unsigned n.repr.toList n :=
    ⟨_, .inl Nat.toList_repr, Nat.toDigits_ne_nil, hdigits, Nat.ofDigitChars_ten_toDigits⟩
  exact parseUnsigned_eq_ok_iff.mpr ⟨hwritten, h⟩

theorem parseSigned_unsigned {least greatest : Nat} {text : String} {c : Char} {cs : List Char}
    (ht : text.toList = c :: cs) (hplus : c ≠ '+') (hminus : c ≠ '-') :
    parseSigned least greatest text =
      (readDigits greatest .tooLarge 0 (c :: cs)).map Int.ofNat := by
  unfold parseSigned
  rw [ht]
  split
  all_goals simp_all

theorem parseSigned_negative {least greatest : Nat} {text : String} {c : Char} {cs : List Char}
    (ht : text.toList = '-' :: c :: cs) : parseSigned least greatest text =
      (readDigits least .tooSmall 0 (c :: cs)).map fun n => -(n : Int) := by
  unfold parseSigned
  rw [ht]
  rfl

theorem unsigned_of_map {limit : Nat} {beyond : IntegerError} {cs : List Char} {n : Int}
    {f : Nat → Int} (h : (readDigits limit beyond 0 cs).map f = .ok n) :
    ∃ m : Nat, (∀ c ∈ cs, c.isDigit = true) ∧ Nat.ofDigitChars 10 cs 0 = m ∧ f m = n := by
  cases hread : readDigits limit beyond 0 cs with
  | error e =>
    rw [hread] at h
    cases h
  | ok m =>
    rw [hread] at h
    obtain ⟨hd, hm, -⟩ := (readDigits_eq_ok_iff (Nat.zero_le _)).mp hread
    exact ⟨m, hd, hm, Except.ok.inj h⟩

/-- A positive number was written without a minus sign. -/
theorem unsigned_of_parseSigned {least greatest : Nat} {n : Int} {text : String}
    (h : parseSigned least greatest text = .ok n) (hpos : 0 < n) :
    ∃ m : Nat, Unsigned text.toList m ∧ (m : Int) = n := by
  unfold parseSigned at h
  split at h
  · cases h
  · cases h
  · cases h
  · next cs hne htext =>
    obtain ⟨m, hd, hm, hn⟩ := unsigned_of_map h
    exact ⟨m, ⟨cs, .inr htext, hne, hd, hm⟩, hn⟩
  · next cs _ _ =>
    cases hread : readDigits least .tooSmall 0 cs with
    | error e =>
      rw [hread] at h
      cases h
    | ok m =>
      rw [hread] at h
      cases h
      dsimp only at hpos
      omega
  · next hne _ _ _ _ =>
    obtain ⟨m, hd, hm, hn⟩ := unsigned_of_map h
    exact ⟨m, ⟨_, .inl rfl, hne, hd, hm⟩, hn⟩

theorem parseSigned_toString {least greatest : Nat} {n : Int} (hl : -(least : Int) ≤ n)
    (hg : n ≤ greatest) : parseSigned least greatest (toString n) = .ok n := by
  cases n with
  | ofNat m =>
    obtain ⟨c, cs, hd, hplus, hminus⟩ := toDigits_unsigned m
    have hlist : (toString (Int.ofNat m)).toList = c :: cs := Nat.toList_repr.trans hd
    rw [parseSigned_unsigned hlist hplus hminus, ← hd, readDigits_toDigits _ (Int.ofNat_le.mp hg)]
    rfl
  | negSucc m =>
    obtain ⟨c, cs, hd, -, -⟩ := toDigits_unsigned (m + 1)
    have hlist : (toString (Int.negSucc m)).toList = '-' :: c :: cs := by
      have hrepr : toString (Int.negSucc m) = "-" ++ (m + 1).repr := rfl
      rw [hrepr, String.toList_append, Nat.toList_repr, hd]
      rfl
    rw [parseSigned_negative hlist, ← hd, readDigits_toDigits _ (by omega)]
    rfl

end AccessGrants.Text
