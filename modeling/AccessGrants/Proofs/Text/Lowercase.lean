import AccessGrants.Text.Lowercase

/-!
# AccessGrants.Proofs.Text.Lowercase

The texts that have a given word of small letters as their lower case.

* `isPlain`                 — the small letters that only their own capital leads to.
* `lowercaseLetter_eq_iff`  — for these, lower case is that of ASCII.
* `lowercase_eq_iff`        — a word of them is the lower case of what spells it in any case.
* `prefix_of_lowercaseFrom` — so is such a word at the front of a text.
-/

namespace AccessGrants.Text

/-- Small letters and the low line. The small k is left out: the sign for kelvin has it as its lower
case too. -/
def isPlain (c : Char) : Bool :=
  (c.isLower && c ≠ 'k') || c = '_'

theorem lt_of_isPlain {c : Char} (h : isPlain c = true) : c.toNat < 128 := by
  simp only [isPlain, Bool.or_eq_true, Bool.and_eq_true, decide_eq_true_eq] at h
  rcases h with ⟨hlower, -⟩ | rfl
  · have hle : c.val ≤ 'z'.val := of_decide_eq_true (Bool.and_eq_true_iff.mp hlower).2
    exact Nat.lt_of_le_of_lt (UInt32.le_iff_toNat_le.mp hle) (by decide)
  · decide

/-- All capitals but those of ASCII are beyond it, and so are their small letters, but for the sign for
kelvin. -/
theorem range_cases : ∀ r ∈ capitalRanges, r = (0x41, 0x5A, 1, 32) ∨
    128 ≤ r.1 ∧ (r = (0x212A, 0x212A, 1, -8383) ∨ 128 ≤ (r.1 : Int) + r.2.2.2) := by
  decide +kernel

theorem toLower_of_not_capital {c : Char} (h : ¬ (65 ≤ c.toNat ∧ c.toNat ≤ 90)) : c.toLower = c :=
  dif_neg h

theorem lowercaseLetter_ascii {c : Char} (h : c.toNat < 128) : lowercaseLetter c = c.toLower := by
  unfold lowercaseLetter
  dsimp only
  split
  · next first last step shift hfind =>
    have hrange := List.find?_some hfind
    simp only [Bool.and_eq_true, decide_eq_true_eq] at hrange
    obtain ⟨⟨hfirst, hlast⟩, -⟩ := hrange
    rcases range_cases _ (List.mem_of_find?_eq_some hfind) with heq | ⟨hbeyond, -⟩
    · cases heq
      have table : ∀ n < 26, (Char.ofNat (65 + n)).toLower = Char.ofNat (97 + n) := by decide
      have hletter := table (c.toNat - 65) (by omega)
      rw [Nat.add_sub_cancel' hfirst, Char.ofNat_toNat] at hletter
      rw [hletter]
      congr 1
      omega
    · dsimp only at hbeyond
      omega
  · next hfind =>
    have hnone := List.find?_eq_none.mp hfind (0x41, 0x5A, 1, 32) (by decide)
    simp only [Bool.and_eq_true, decide_eq_true_eq, Nat.mod_one] at hnone
    exact (toLower_of_not_capital fun hc => hnone ⟨hc, trivial⟩).symm

/-- Beyond ASCII there is no letter whose lower case is a plain one. -/
theorem lt_of_lowercaseLetter {c d : Char} (hd : isPlain d = true) (h : lowercaseLetter c = d) :
    c.toNat < 128 := by
  by_cases hc : c.toNat < 128
  · exact hc
  have hlow := lt_of_isPlain hd
  unfold lowercaseLetter at h
  dsimp only at h
  split at h
  · next first last step shift hfind =>
    have hrange := List.find?_some hfind
    simp only [Bool.and_eq_true, decide_eq_true_eq] at hrange
    obtain ⟨⟨hfirst, hlast⟩, -⟩ := hrange
    rcases range_cases _ (List.mem_of_find?_eq_some hfind) with heq | ⟨-, heq | hbeyond⟩
    · cases heq
      omega
    · cases heq
      have hkelvin : c.toNat = 0x212A := by omega
      rw [hkelvin] at h
      rw [← h] at hd
      exact absurd hd (by decide)
    · dsimp only at hbeyond
      have hcode : 128 ≤ ((c.toNat : Int) + shift).toNat := by omega
      subst h
      -- A code that is no character gives the character 0 instead.
      by_cases hvalid : ((c.toNat : Int) + shift).toNat.isValidChar
      · rw [Char.ofNat, dif_pos hvalid] at hlow
        exact absurd hlow (Nat.not_lt.mpr hcode)
      · rw [Char.ofNat, dif_neg hvalid] at hd
        exact absurd hd (by decide)
  · rw [h] at hc
    exact absurd hlow hc

theorem lt_of_toLower {c d : Char} (hd : isPlain d = true) (h : c.toLower = d) : c.toNat < 128 := by
  unfold Char.toLower at h
  split at h
  · next hcapital => exact Nat.lt_of_le_of_lt (UInt32.le_iff_toNat_le.mp hcapital.2) (by decide)
  · exact h ▸ lt_of_isPlain hd

theorem lowercaseLetter_eq_iff {c d : Char} (hd : isPlain d = true) :
    lowercaseLetter c = d ↔ c.toLower = d := by
  constructor
  · intro h
    rw [← lowercaseLetter_ascii (lt_of_lowercaseLetter hd h), h]
  · intro h
    rw [lowercaseLetter_ascii (lt_of_toLower hd h), h]

theorem ne_of_foreign {cs w : List Char} {x : Char} (hw : ∀ d ∈ w, isPlain d = true)
    (hx : isPlain x = false) (hmem : x ∈ cs) : cs ≠ w := by
  rintro rfl
  rw [hw x hmem] at hx
  cases hx

/-- A word of plain letters is the lower case of what spells it in any case: the two capitals with a
rule of their own leave a letter that is not plain. -/
theorem lowercaseFrom_eq_iff {before cs w : List Char} (hw : ∀ d ∈ w, isPlain d = true) :
    lowercaseFrom before cs = w ↔ cs.map Char.toLower = w := by
  induction cs generalizing before w with
  | nil => rfl
  | cons c cs ih =>
    rw [lowercaseFrom, List.map_cons]
    by_cases hi : c = 'İ'
    · have hdot : isPlain (Char.ofNat 0x307) = false := by decide
      have hcapital : isPlain (Char.toLower 'İ') = false := by decide
      subst hi
      exact iff_of_false (ne_of_foreign hw hdot (by simp)) (ne_of_foreign hw hcapital (by simp))
    · by_cases hs : c = 'Σ'
      · have hfinal : isPlain 'ς' = false := by decide
        have hsmall : isPlain 'σ' = false := by decide
        have hcapital : isPlain (Char.toLower 'Σ') = false := by decide
        subst hs
        refine iff_of_false ?_ (ne_of_foreign hw hcapital (by simp))
        rw [if_neg hi, if_pos rfl]
        split
        · exact ne_of_foreign hw hfinal (by simp)
        · exact ne_of_foreign hw hsmall (by simp)
      · cases w with
        | nil => simp [hi, hs]
        | cons d w =>
          obtain ⟨hd, hw⟩ := List.forall_mem_cons.mp hw
          simp only [if_neg hi, if_neg hs, List.singleton_append, List.cons.injEq,
            lowercaseLetter_eq_iff hd, ih hw]

theorem lowercase_eq_iff {text word : String} (hw : ∀ d ∈ word.toList, isPlain d = true) :
    lowercase text = word ↔ text.toList.map Char.toLower = word.toList := by
  rw [← lowercaseFrom_eq_iff hw, lowercase, ← String.toList_inj, String.toList_ofList]

/-- A text whose lower case starts with a word of plain letters starts with the word in some case. The
small i is left out, as the dotted capital leads to it. -/
theorem prefix_of_lowercaseFrom {before cs w : List Char} (hw : ∀ d ∈ w, isPlain d = true)
    (hi : 'i' ∉ w) (h : w <+: lowercaseFrom before cs) : w <+: cs.map Char.toLower := by
  induction cs generalizing before w with
  | nil => exact h
  | cons c cs ih =>
    cases w with
    | nil => exact List.nil_prefix
    | cons d w =>
      obtain ⟨hd, hw⟩ := List.forall_mem_cons.mp hw
      obtain ⟨hdot, hi⟩ := not_or.mp (fun hmem => hi (List.mem_cons.mpr hmem))
      rw [lowercaseFrom] at h
      split at h
      · exact absurd (List.cons_prefix_cons.mp h).1.symm hdot
      · split at h
        · have hhead : d = 'ς' ∨ d = 'σ' := by
            split at h
            · exact .inl (List.cons_prefix_cons.mp h).1
            · exact .inr (List.cons_prefix_cons.mp h).1
          rcases hhead with rfl | rfl
          · exact absurd hd (by decide)
          · exact absurd hd (by decide)
        · obtain ⟨hletter, hrest⟩ := List.cons_prefix_cons.mp h
          rw [List.map_cons, List.cons_prefix_cons]
          exact ⟨((lowercaseLetter_eq_iff hd).mp hletter.symm).symm, ih hw hi hrest⟩

end AccessGrants.Text
