import AccessGrants.Text.Base64Url
import Mathlib.Algebra.Ring.Nat

/-!
# AccessGrants.Proofs.Text.Base64Url

Base 64 told by the binary digits of bytes and symbols.

* `Encodes`              — the digits of the symbols are those of the bytes, and zeros to the end.
* `encodes_encode`       — what `encode` writes is such a text, and there is no other.
* `decode?_encode`       — it is read back.
* `decode?_eq_some_iff`  — nothing else is read.
-/

namespace AccessGrants.Base64Url

/-- The symbols in the order of their numbers. -/
def alphabet : List Char :=
  "ABCDEFGHIJKLMNOPQRSTUVWXYZabcdefghijklmnopqrstuvwxyz0123456789-_".toList

/-- The binary digits of a number below `2 ^ width`, from the highest one on. -/
def bits : Nat → Nat → List Bool
  | 0, _ => []
  | width + 1, n => n.testBit width :: bits width n

/-- A text whose symbols have the binary digits of the bytes, eight of each, and then only zeros, too
few for a symbol of their own. -/
def Encodes (cs : List Char) (bytes : List Nat) : Prop :=
  ∃ (numbers : List Nat) (fill : Nat), cs.map some = numbers.map (alphabet[·]?) ∧ fill < 6 ∧
    numbers.flatMap (bits 6) = bytes.flatMap (bits 8) ++ List.replicate fill false

/-! ## Binary digits -/

section Bits

variable {width a b : Nat}

theorem length_bits (width n : Nat) : (bits width n).length = width := by
  induction width with
  | zero => rfl
  | succ width ih => rw [bits, List.length_cons, ih]

theorem length_flatMap_bits (width : Nat) (ns : List Nat) :
    (ns.flatMap (bits width)).length = ns.length * width := by
  induction ns with
  | nil => simp
  | cons n ns ih =>
    rw [List.flatMap_cons, List.length_append, length_bits, ih, List.length_cons, Nat.succ_mul,
      Nat.add_comm]

theorem testBit_of_bits (h : bits width a = bits width b) :
    ∀ i < width, a.testBit i = b.testBit i := by
  induction width with
  | zero => exact fun i hi => absurd hi (Nat.not_lt_zero i)
  | succ width ih =>
    obtain ⟨htop, hrest⟩ := List.cons.inj h
    intro i hi
    rcases Nat.lt_succ_iff_lt_or_eq.mp hi with hi | rfl
    · exact ih hrest i hi
    · exact htop

theorem bits_congr (h : ∀ i < width, a.testBit i = b.testBit i) : bits width a = bits width b := by
  induction width with
  | zero => rfl
  | succ width ih =>
    rw [bits, bits, h width (Nat.lt_succ_self _), ih fun i hi => h i (Nat.lt_succ_of_lt hi)]

/-- A number that has this width is told by its digits. -/
theorem bits_inj (ha : a < 2 ^ width) (hb : b < 2 ^ width) (h : bits width a = bits width b) :
    a = b := by
  refine Nat.eq_of_testBit_eq fun i => ?_
  rcases Nat.lt_or_ge i width with hi | hi
  · exact testBit_of_bits h i hi
  · have hpow : 2 ^ width ≤ 2 ^ i := Nat.pow_le_pow_right (by decide) hi
    rw [Nat.testBit_lt_two_pow (Nat.lt_of_lt_of_le ha hpow),
      Nat.testBit_lt_two_pow (Nat.lt_of_lt_of_le hb hpow)]

theorem bits_append (high : Nat) {low y : Nat} (x : Nat) (hy : y < 2 ^ low) :
    bits high x ++ bits low y = bits (high + low) (x * 2 ^ low + y) := by
  induction high with
  | zero =>
    rw [Nat.zero_add, bits, List.nil_append]
    refine bits_congr fun i hi => ?_
    rw [Nat.mul_comm, Nat.testBit_two_pow_mul_add _ hy, if_pos hi]
  | succ high ih =>
    have htop : (x * 2 ^ low + y).testBit (high + low) = x.testBit high := by
      rw [Nat.mul_comm, Nat.testBit_two_pow_mul_add _ hy, if_neg (by omega), Nat.add_sub_cancel]
    rw [Nat.add_right_comm, bits, bits, List.cons_append, ih, htop]

theorem bits_split (high low n : Nat) :
    bits (high + low) n = bits high (n / 2 ^ low) ++ bits low (n % 2 ^ low) := by
  rw [bits_append high _ (Nat.mod_lt _ (Nat.two_pow_pos low)), Nat.div_add_mod']

theorem bits_zero (width : Nat) : bits width 0 = List.replicate width false := by
  induction width with
  | zero => rfl
  | succ width ih => rw [bits, Nat.zero_testBit, ih, List.replicate_succ]

/-- Numbers of one width are told by their digits in a row. -/
theorem flatMap_bits_inj {ns ms : List Nat} (hns : ∀ n ∈ ns, n < 2 ^ width)
    (hms : ∀ m ∈ ms, m < 2 ^ width) (hlen : ns.length = ms.length)
    (h : ns.flatMap (bits width) = ms.flatMap (bits width)) : ns = ms := by
  induction ns generalizing ms with
  | nil => exact (List.eq_nil_of_length_eq_zero hlen.symm).symm
  | cons n ns ih =>
    cases ms with
    | nil => cases hlen
    | cons m ms =>
      rw [List.flatMap_cons, List.flatMap_cons] at h
      obtain ⟨hhead, htail⟩ := List.append_inj h (by rw [length_bits, length_bits])
      obtain ⟨hn, hns⟩ := List.forall_mem_cons.mp hns
      obtain ⟨hm, hms⟩ := List.forall_mem_cons.mp hms
      rw [bits_inj hn hm hhead, ih hns hms (Nat.succ.inj hlen) htail]

end Bits

/-! ## What is written

The first byte of three ends two digits into the second symbol, the second one four digits into the
third. -/

theorem alphabet_symbol {n : Nat} (h : n < 64) : alphabet[n]? = some (symbol n) := by
  have table : ∀ n < 64, alphabet[n]? = some (symbol n) := by decide
  exact table n h

theorem lt_of_alphabet {n : Nat} {c : Char} (h : alphabet[n]? = some c) : n < 64 :=
  (List.getElem?_eq_some_iff.mp h).1

theorem bits_first (a : Nat) : bits 8 a = bits 6 (a / 4) ++ bits 2 (a % 4) :=
  bits_split 6 2 a

theorem bits_second (b : Nat) : bits 8 b = bits 4 (b / 16) ++ bits 4 (b % 16) :=
  bits_split 4 4 b

theorem bits_third (c : Nat) : bits 8 c = bits 2 (c / 64) ++ bits 6 (c % 64) :=
  bits_split 2 6 c

theorem bits_two_four (x : Nat) {y : Nat} (hy : y < 2 ^ 4) :
    bits 6 (x * 16 + y) = bits 2 x ++ bits 4 y :=
  (bits_append 2 x hy).symm

theorem bits_four_two (x : Nat) {y : Nat} (hy : y < 2 ^ 2) :
    bits 6 (x * 4 + y) = bits 4 x ++ bits 2 y :=
  (bits_append 4 x hy).symm

theorem encodes_encode {bytes : List Nat} (h : ∀ b ∈ bytes, b < 256) :
    Encodes (encode bytes) bytes := by
  induction bytes using encode.induct with
  | case1 => exact ⟨[], 0, rfl, by decide, rfl⟩
  | case2 a =>
    have ha := h a (by simp)
    refine ⟨[a / 4, a % 4 * 16], 4, ?_, by decide, ?_⟩
    · simp only [encode, List.map_cons, List.map_nil]
      rw [alphabet_symbol (by omega), alphabet_symbol (by omega)]
    · have hlast : bits 6 (a % 4 * 16) = bits 2 (a % 4) ++ bits 4 0 := by
        rw [← bits_two_four _ (Nat.two_pow_pos 4), Nat.add_zero]
      simp only [List.flatMap_cons, List.flatMap_nil, List.append_nil]
      rw [hlast, bits_first, bits_zero, List.append_assoc]
  | case3 a b =>
    have ha := h a (by simp)
    have hb := h b (by simp)
    refine ⟨[a / 4, a % 4 * 16 + b / 16, b % 16 * 4], 2, ?_, by decide, ?_⟩
    · simp only [encode, List.map_cons, List.map_nil]
      rw [alphabet_symbol (by omega), alphabet_symbol (by omega), alphabet_symbol (by omega)]
    · have hmid : bits 6 (a % 4 * 16 + b / 16) = bits 2 (a % 4) ++ bits 4 (b / 16) :=
        bits_two_four (a % 4) (by omega)
      have hlast : bits 6 (b % 16 * 4) = bits 4 (b % 16) ++ bits 2 0 := by
        rw [← bits_four_two _ (Nat.two_pow_pos 2), Nat.add_zero]
      simp only [List.flatMap_cons, List.flatMap_nil, List.append_nil]
      rw [hmid, hlast, bits_first, bits_second, bits_zero]
      simp only [List.append_assoc]
  | case4 a b c rest ih =>
    have ha := h a (by simp)
    have hb := h b (by simp)
    have hc := h c (by simp)
    obtain ⟨numbers, fill, hsymbols, hfill, hbits⟩ := ih fun x hx => h x (by simp [hx])
    refine ⟨a / 4 :: (a % 4 * 16 + b / 16) :: (b % 16 * 4 + c / 64) :: (c % 64) :: numbers, fill,
      ?_, hfill, ?_⟩
    · simp only [encode, List.map_cons]
      rw [alphabet_symbol (by omega), alphabet_symbol (by omega), alphabet_symbol (by omega),
        alphabet_symbol (by omega), hsymbols]
    · have hsecond : bits 6 (a % 4 * 16 + b / 16) = bits 2 (a % 4) ++ bits 4 (b / 16) :=
        bits_two_four (a % 4) (by omega)
      have hthird : bits 6 (b % 16 * 4 + c / 64) = bits 4 (b % 16) ++ bits 2 (c / 64) :=
        bits_four_two (b % 16) (by omega)
      simp only [List.flatMap_cons]
      rw [hsecond, hthird, hbits, bits_first, bits_second, bits_third]
      simp only [List.append_assoc]

/-- Bytes are written in one way. -/
theorem Encodes.unique {cs cs' : List Char} {bytes : List Nat} (h : Encodes cs bytes)
    (h' : Encodes cs' bytes) : cs = cs' := by
  obtain ⟨ns, fill, hcs, hfill, hbits⟩ := h
  obtain ⟨ns', fill', hcs', hfill', hbits'⟩ := h'
  -- With fewer than six zeros, the number of bytes fixes the number of symbols.
  have hlen := congrArg List.length hbits
  have hlen' := congrArg List.length hbits'
  rw [length_flatMap_bits, List.length_append, length_flatMap_bits,
    List.length_replicate] at hlen hlen'
  have hfills : fill = fill' := by omega
  have below {ns : List Nat} {cs : List Char} (hcs : cs.map some = ns.map (alphabet[·]?)) :
      ∀ n ∈ ns, n < 2 ^ 6 := by
    intro n hn
    have hmem : alphabet[n]? ∈ cs.map some := hcs ▸ List.mem_map_of_mem hn
    obtain ⟨c, -, hc⟩ := List.mem_map.mp hmem
    exact lt_of_alphabet hc.symm
  have hns : ns = ns' := by
    refine flatMap_bits_inj (below hcs) (below hcs') (by omega) ?_
    rw [hbits, hbits', hfills]
  rw [hns, ← hcs'] at hcs
  exact (List.map_inj_right fun _ _ => Option.some.inj).mp hcs

/-! ## What is read -/

theorem value?_symbol {n : Nat} (h : n < 64) : value? (symbol n) = some n := by
  have table : ∀ n < 64, value? (symbol n) = some n := by decide
  exact table n h

theorem symbol_of_value? {c : Char} {n : Nat} (h : value? c = some n) :
    n < 64 ∧ symbol n = c := by
  have hc := Char.ofNat_toNat c
  simp only [value?] at h
  split at h
  · next hrange =>
    cases h
    refine ⟨by omega, ?_⟩
    rw [symbol, if_pos (by omega), Nat.add_sub_cancel' hrange.1, hc]
  · split at h
    · next hrange =>
      cases h
      refine ⟨by omega, ?_⟩
      rw [symbol, if_neg (by omega), if_pos (by omega), Nat.add_sub_cancel,
        Nat.add_sub_cancel' hrange.1, hc]
    · split at h
      · next hrange =>
        cases h
        refine ⟨by omega, ?_⟩
        rw [symbol, if_neg (by omega), if_neg (by omega), if_pos (by omega), Nat.add_sub_cancel,
          Nat.add_sub_cancel' hrange.1, hc]
      · split at h
        · next hminus =>
          cases h
          exact ⟨by decide, hminus.symm⟩
        · split at h
          · next hlow =>
            cases h
            exact ⟨by decide, hlow.symm⟩
          · cases h

/-- Three bytes at a time, as the four symbols share them out. -/
theorem decode?_encode {bytes : List Nat} (h : ∀ b ∈ bytes, b < 256) :
    decode? (encode bytes) = some bytes := by
  induction bytes using encode.induct with
  | case1 => rfl
  | case2 a =>
    have ha := h a (by simp)
    have hrest : a % 4 * 16 % 16 = 0 := by omega
    rw [encode, decode?, value?_symbol (by omega), value?_symbol (by omega)]
    simp only [Option.bind_eq_bind, Option.bind_some, if_pos hrest]
    congr 2
    omega
  | case3 a b =>
    have ha := h a (by simp)
    have hb := h b (by simp)
    have hrest : b % 16 * 4 % 4 = 0 := by omega
    rw [encode, decode?, value?_symbol (by omega), value?_symbol (by omega), value?_symbol (by omega)]
    simp only [Option.bind_eq_bind, Option.bind_some, if_pos hrest]
    congr 2
    · omega
    · congr 1
      omega
  | case4 a b c rest ih =>
    have ha := h a (by simp)
    have hb := h b (by simp)
    have hc := h c (by simp)
    have hrest := ih fun x hx => h x (by simp [hx])
    rw [encode, decode?, value?_symbol (by omega), value?_symbol (by omega), value?_symbol (by omega),
      value?_symbol (by omega), hrest]
    simp only [Option.bind_eq_bind, Option.bind_some, Option.pure_def]
    congr 2
    · omega
    · congr 1
      · omega
      · congr 1
        omega

theorem eq_encode_of_decode? {cs : List Char} {bytes : List Nat} (h : decode? cs = some bytes) :
    (∀ b ∈ bytes, b < 256) ∧ encode bytes = cs := by
  induction cs using decode?.induct generalizing bytes with
  | case1 =>
    cases h
    exact ⟨by simp, rfl⟩
  | case2 c => cases h
  | case3 w x =>
    simp only [decode?, Option.bind_eq_bind, Option.bind_eq_some_iff] at h
    obtain ⟨w', hw, x', hx, h⟩ := h
    split at h
    · next hrest =>
      cases h
      obtain ⟨hw, rfl⟩ := symbol_of_value? hw
      obtain ⟨hx, rfl⟩ := symbol_of_value? hx
      refine ⟨by simp; omega, ?_⟩
      have hfirst : (w' * 4 + x' / 16) / 4 = w' := by omega
      have hsecond : (w' * 4 + x' / 16) % 4 * 16 = x' := by omega
      rw [encode, hfirst, hsecond]
    · cases h
  | case4 w x y =>
    simp only [decode?, Option.bind_eq_bind, Option.bind_eq_some_iff] at h
    obtain ⟨w', hw, x', hx, y', hy, h⟩ := h
    split at h
    · next hrest =>
      cases h
      obtain ⟨hw, rfl⟩ := symbol_of_value? hw
      obtain ⟨hx, rfl⟩ := symbol_of_value? hx
      obtain ⟨hy, rfl⟩ := symbol_of_value? hy
      refine ⟨by simp; omega, ?_⟩
      have hfirst : (w' * 4 + x' / 16) / 4 = w' := by omega
      have hsecond : (w' * 4 + x' / 16) % 4 * 16 + (x' % 16 * 16 + y' / 4) / 16 = x' := by omega
      have hthird : (x' % 16 * 16 + y' / 4) % 16 * 4 = y' := by omega
      rw [encode, hfirst, hsecond, hthird]
    · cases h
  | case5 w x y z rest ih =>
    simp only [decode?, Option.bind_eq_bind, Option.bind_eq_some_iff] at h
    obtain ⟨w', hw, x', hx, y', hy, z', hz, more, hmore, h⟩ := h
    cases h
    obtain ⟨hw, rfl⟩ := symbol_of_value? hw
    obtain ⟨hx, rfl⟩ := symbol_of_value? hx
    obtain ⟨hy, rfl⟩ := symbol_of_value? hy
    obtain ⟨hz, rfl⟩ := symbol_of_value? hz
    obtain ⟨hbelow, rfl⟩ := ih hmore
    refine ⟨?_, ?_⟩
    · intro b hb
      simp only [List.mem_cons] at hb
      rcases hb with rfl | rfl | rfl | hb
      · omega
      · omega
      · omega
      · exact hbelow b hb
    · have hfirst : (w' * 4 + x' / 16) / 4 = w' := by omega
      have hsecond : (w' * 4 + x' / 16) % 4 * 16 + (x' % 16 * 16 + y' / 4) / 16 = x' := by omega
      have hthird : (x' % 16 * 16 + y' / 4) % 16 * 4 + (y' % 4 * 64 + z') / 64 = y' := by omega
      have hfourth : (y' % 4 * 64 + z') % 64 = z' := by omega
      rw [encode, hfirst, hsecond, hthird, hfourth]

/-- Every text is read as the bytes that it is written for, and any other is refused. -/
theorem decode?_eq_some_iff {cs : List Char} {bytes : List Nat} :
    decode? cs = some bytes ↔ (∀ b ∈ bytes, b < 256) ∧ Encodes cs bytes := by
  constructor
  · intro h
    obtain ⟨hbelow, rfl⟩ := eq_encode_of_decode? h
    exact ⟨hbelow, encodes_encode hbelow⟩
  · rintro ⟨hbelow, h⟩
    rw [h.unique (encodes_encode hbelow)]
    exact decode?_encode hbelow

end AccessGrants.Base64Url
