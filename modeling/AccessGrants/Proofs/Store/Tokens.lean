import AccessGrants.Proofs.Store.Pages

/-!
# AccessGrants.Proofs.Store.Tokens

The tokens of pages as three codes in a row: a number in decimal digits, the digits as the bytes of a
text, and the bytes in base 64.

* `PageToken.Spells`           — the texts that stand for an offset.
* `PageToken.decode_eq_ok_iff` — these are read, as long as the offset fits a word.
* `PageToken.decode_utf8`      — the bytes of a token may as well be read as UTF-8.
* `PageToken.tokens_read`      — what every text is read as, or that it is refused.
-/

namespace AccessGrants

namespace PageToken

variable {token : String} {offset : Nat}

/-- A token that stands for an offset: its digits in base 64, with or without a plus sign and leading
zeros. -/
def Spells (token : String) (offset : Nat) : Prop :=
  ∃ cs, Text.Unsigned cs offset ∧ Base64Url.Encodes token.toList (cs.map Char.toNat)

theorem ascii_of_unsigned {cs : List Char} (h : Text.Unsigned cs offset) :
    ∀ c ∈ cs, c.toNat < 128 := by
  obtain ⟨digits, hcs, -, hdigits, -⟩ := h
  have hdigit : ∀ c ∈ digits, c.toNat < 128 := by
    intro c hc
    have hle : c.toNat ≤ '9'.toNat := (Char.isDigit_iff_toNat.mp (hdigits c hc)).2
    exact Nat.lt_of_le_of_lt hle (by decide)
  rcases hcs with rfl | rfl
  · exact hdigit
  · exact List.forall_mem_cons.mpr ⟨by decide, hdigit⟩

theorem codes_lt {cs : List Char} (h : Text.Unsigned cs offset) :
    ∀ b ∈ cs.map Char.toNat, b < 256 := by
  intro b hb
  obtain ⟨c, hc, rfl⟩ := List.mem_map.mp hb
  exact Nat.lt_trans (ascii_of_unsigned h c hc) (by decide)

theorem map_toNat_ofNat {bytes : List Nat} (h : ∀ b ∈ bytes, b < 256) :
    (bytes.map Char.ofNat).map Char.toNat = bytes := by
  rw [List.map_map]
  refine (List.map_congr_left fun b hb => ?_).trans (List.map_id bytes)
  have hvalid : b.isValidChar := Or.inl (Nat.lt_of_lt_of_le (h b hb) (by decide))
  rw [Function.comp_apply, Char.ofNat, dif_pos hvalid]
  rfl

theorem map_ofNat_toNat (cs : List Char) : (cs.map Char.toNat).map Char.ofNat = cs := by
  rw [List.map_map]
  exact List.map_id'' Char.ofNat_toNat _

theorem decode_eq_ok_iff :
    decode (some token) = .ok offset ↔ Spells token offset ∧ offset ≤ Word.greatest := by
  constructor
  · intro h
    unfold decode at h
    dsimp only at h
    split at h
    · cases h
    · next bytes hbytes =>
      obtain ⟨hbelow, hencodes⟩ := Base64Url.decode?_eq_some_iff.mp hbytes
      split at h
      · next hparse =>
        cases h
        obtain ⟨hwritten, hle⟩ := Text.parseUnsigned_eq_ok_iff.mp hparse
        rw [String.toList_ofList] at hwritten
        rw [← map_toNat_ofNat hbelow] at hencodes
        exact ⟨⟨_, hwritten, hencodes⟩, hle⟩
      · cases h
  · rintro ⟨⟨cs, hwritten, hencodes⟩, hle⟩
    have hbytes := Base64Url.decode?_eq_some_iff.mpr ⟨codes_lt hwritten, hencodes⟩
    have hparse : Text.parseUnsigned Word.greatest (String.ofList cs) = .ok offset :=
      Text.parseUnsigned_eq_ok_iff.mpr ⟨by rwa [String.toList_ofList], hle⟩
    simp only [decode, hbytes, map_ofNat_toNat, hparse]

/-- A token that is not read has one cause. -/
theorem decode_eq_error_iff {e : StoreError} : decode (some token) = .error e ↔
    e = .invalidPageToken ∧ ∀ offset, ¬ (Spells token offset ∧ offset ≤ Word.greatest) := by
  simp only [← decode_eq_ok_iff]
  cases h : decode (some token) with
  | ok offset => simp
  | error fault =>
    have hfault : fault = .invalidPageToken := by
      unfold decode at h
      dsimp only at h
      split at h
      · exact (Except.error.inj h).symm
      · split at h
        · cases h
        · exact (Except.error.inj h).symm
    simp [hfault, eq_comm]

/-! ## The bytes of a token as a text -/

theorem utf8_of_ascii {cs : List Char} (h : ∀ c ∈ cs, c.toNat < 128) :
    (String.ofList cs).toUTF8 = ((cs.map Char.toNat).map UInt8.ofNat).toByteArray := by
  rw [String.toUTF8_eq_toByteArray, String.toByteArray_ofList, List.utf8Encode]
  congr 1
  induction cs with
  | nil => rfl
  | cons c cs ih =>
    obtain ⟨hc, hcs⟩ := List.forall_mem_cons.mp h
    have hsingle : String.utf8EncodeChar c = [UInt8.ofNat c.toNat] := if_pos (Nat.le_of_lt_succ hc)
    rw [List.flatMap_cons, hsingle, ih hcs, List.map_cons, List.map_cons, List.singleton_append]

theorem fromUTF8?_eq_some_iff {bytes : ByteArray} {text : String} :
    String.fromUTF8? bytes = some text ↔ text.toUTF8 = bytes := by
  unfold String.fromUTF8?
  constructor
  · intro h
    split at h
    · cases h
      rfl
    · cases h
  · rintro rfl
    exact dif_pos text.isValidUTF8

theorem map_toNat_word {bytes : List Nat} (h : ∀ b ∈ bytes, b < 256) :
    (bytes.map UInt8.ofNat).map UInt8.toNat = bytes := by
  rw [List.map_map]
  exact (List.map_congr_left fun b hb => UInt8.toNat_ofNat_of_lt' (h b hb)).trans (List.map_id bytes)

/-- A token is read through its bytes as a text in UTF-8: a byte that is no character of its own is no
digit either. -/
theorem decode_utf8 : decode (some token) = .ok offset ↔
    ∃ bytes text, Base64Url.decode? token.toList = some bytes ∧
      String.fromUTF8? (bytes.map UInt8.ofNat).toByteArray = some text ∧
      Text.parseUnsigned Word.greatest text = .ok offset := by
  rw [decode_eq_ok_iff]
  constructor
  · rintro ⟨⟨cs, hwritten, hencodes⟩, hle⟩
    refine ⟨_, String.ofList cs, Base64Url.decode?_eq_some_iff.mpr ⟨codes_lt hwritten, hencodes⟩,
      ?_, ?_⟩
    · rw [fromUTF8?_eq_some_iff, utf8_of_ascii (ascii_of_unsigned hwritten)]
    · exact Text.parseUnsigned_eq_ok_iff.mpr ⟨by rwa [String.toList_ofList], hle⟩
  · rintro ⟨bytes, text, hbytes, htext, hparse⟩
    obtain ⟨hbelow, hencodes⟩ := Base64Url.decode?_eq_some_iff.mp hbytes
    obtain ⟨hwritten, hle⟩ := Text.parseUnsigned_eq_ok_iff.mp hparse
    have hutf8 := utf8_of_ascii (ascii_of_unsigned hwritten)
    rw [String.ofList_toList, fromUTF8?_eq_some_iff.mp htext, List.toByteArray_inj] at hutf8
    have hcodes := congrArg (List.map UInt8.toNat) hutf8
    rw [map_toNat_word hbelow, map_toNat_word (codes_lt hwritten)] at hcodes
    exact ⟨⟨text.toList, hwritten, hcodes ▸ hencodes⟩, hle⟩

/-! ## All texts -/

/-- Without a token the first page is meant. An offset is read back from its own token. A text is read
as an offset exactly when it spells it and the offset fits a word; any other is refused as a token. -/
theorem tokens_read :
    decode none = .ok 0 ∧
    (∀ offset < 2 ^ 64, decode (some (encode offset)) = .ok offset) ∧
    ∀ token : String,
      (∀ offset, decode (some token) = .ok offset ↔ Spells token offset ∧ offset < 2 ^ 64) ∧
      (decode (some token) = .error .invalidPageToken ↔
        ∀ offset, ¬ (Spells token offset ∧ offset < 2 ^ 64)) := by
  have hword (offset : Nat) : offset < 2 ^ 64 ↔ offset ≤ Word.greatest :=
    Nat.lt_succ_iff (n := Word.greatest)
  simp only [hword]
  refine ⟨rfl, fun offset h => decode_encode h, fun token => ⟨fun offset => decode_eq_ok_iff, ?_⟩⟩
  rw [decode_eq_error_iff]
  exact and_iff_right rfl

/-- The greatest offset, and one with a plus sign. -/
theorem extremes_read :
    2 ^ 64 - 1 < 2 ^ 64 ∧ decode (some (encode (2 ^ 64 - 1))) = .ok (2 ^ 64 - 1) ∧
      decode (some "KzE1MA") = .ok 150 := by
  have hwritten : Text.Unsigned ['+', '1', '5', '0'] 150 :=
    ⟨['1', '5', '0'], .inr rfl, by decide, by simp, by decide⟩
  have hencodes : Base64Url.Encodes "KzE1MA".toList (['+', '1', '5', '0'].map Char.toNat) :=
    ⟨[10, 51, 4, 53, 12, 0], 4, by decide, by decide, by decide⟩
  exact ⟨by decide, tokens_read.2.1 _ (by decide),
    ((tokens_read.2.2 _).1 _).mpr ⟨⟨_, hwritten, hencodes⟩, by decide⟩⟩

end PageToken

end AccessGrants
