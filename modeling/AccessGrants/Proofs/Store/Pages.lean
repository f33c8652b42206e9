import AccessGrants.Proofs.Text.Base64Url
import AccessGrants.Proofs.Text.Integer
import AccessGrants.Store.Paging

/-!
# AccessGrants.Proofs.Store.Pages

A listing that is read page by page.

* `PageToken.decode_encode` — the token of an offset leads to this offset.
* `Walk`                    — the pages that one gets by following the tokens to the end.
* `Splits`                  — pages that are full up to the last and make up the whole.
* `exists_walk`             — the pages of a list are walked through from any offset.
* `paginate_within`         — no sum exceeds a word.
-/

namespace AccessGrants

namespace PageToken

theorem decode_encode {offset : Nat} (h : offset ≤ Word.greatest) :
    decode (some (encode offset)) = .ok offset := by
  have hbytes : ∀ b ∈ offset.repr.toList.map Char.toNat, b < 256 := by
    intro b hb
    obtain ⟨c, hc, rfl⟩ := List.mem_map.mp hb
    rw [Nat.toList_repr] at hc
    have hdigit : c.isDigit = true := Nat.isDigit_of_mem_toDigits (by decide) (by decide) hc
    have hle : c.toNat ≤ '9'.toNat := (Char.isDigit_iff_toNat.mp hdigit).2
    exact Nat.lt_of_le_of_lt hle (by decide)
  have htext : (offset.repr.toList.map Char.toNat).map Char.ofNat = offset.repr.toList := by
    rw [List.map_map]
    exact List.map_id'' Char.ofNat_toNat _
  simp only [decode, encode, String.toList_ofList]
  rw [Base64Url.decode?_encode hbytes]
  simp only [htext, String.ofList_toList, Text.parseUnsigned_repr h]

theorem decode_le {token : Option String} {offset : Nat} (h : decode token = .ok offset) :
    offset ≤ Word.greatest := by
  unfold decode at h
  split at h
  · cases h
    exact Nat.zero_le _
  · split at h
    · cases h
    · split at h
      · rename_i hread
        cases h
        exact Text.parseUnsigned_le hread
      · cases h

end PageToken

/-- The pages of a listing from a token on, until there is no next one. -/
inductive Walk (list : Option String → Except StoreError (Page α)) :
    Option String → List (Page α) → Prop
  | last {token : Option String} {items : List α} :
      list token = .ok ⟨items, none⟩ → Walk list token [⟨items, none⟩]
  | more {token : Option String} {items : List α} {after : String} {pages : List (Page α)} :
      list token = .ok ⟨items, some after⟩ → Walk list (some after) pages →
      Walk list token (⟨items, some after⟩ :: pages)

theorem Walk.unique {list : Option String → Except StoreError (Page α)} {token : Option String}
    {pages pages' : List (Page α)} (h : Walk list token pages) (h' : Walk list token pages') :
    pages = pages' := by
  induction h generalizing pages' with
  | last hl =>
    cases h' with
    | last hl' =>
      rw [hl] at hl'
      cases hl'
      rfl
    | more hl' _ =>
      rw [hl] at hl'
      cases hl'
  | more hl _ ih =>
    cases h' with
    | last hl' =>
      rw [hl] at hl'
      cases hl'
    | more hl' h' =>
      rw [hl] at hl'
      cases hl'
      rw [ih h']

/-- The pages make up the list. All but the last are full, and the last one has an item where the
list has one. -/
structure Splits (size : Nat) (items : List α) (pages : List (Page α)) : Prop where
  full : ∀ p ∈ pages.dropLast, p.items.length = size
  last : ∃ p, pages.getLast? = some p ∧ p.items.length ≤ size ∧ (p.items = [] → items = [])
  whole : pages.flatMap (·.items) = items

theorem Splits.single {size : Nat} {items : List α} {next : Option String}
    (h : items.length ≤ size) : Splits size items [⟨items, next⟩] where
  full := by simp
  last := ⟨_, rfl, h, id⟩
  whole := by simp

theorem Splits.cons {size : Nat} {items : List α} {pages : List (Page α)} {next : Option String}
    (h : Splits size (items.drop size) pages) (hlen : size < items.length) :
    Splits size items (⟨items.take size, next⟩ :: pages) := by
  obtain ⟨p, hp, hle, hempty⟩ := h.last
  have hne : pages ≠ [] := by
    rintro rfl
    cases hp
  refine ⟨fun q hq => ?_, ⟨p, ?_, hle, fun hnil => ?_⟩, ?_⟩
  · rw [List.dropLast_cons_of_ne_nil hne] at hq
    rcases List.mem_cons.mp hq with rfl | hq
    · exact List.length_take_of_le (Nat.le_of_lt hlen)
    · exact h.full q hq
  · rw [List.getLast?_cons, hp]
    rfl
  · have hle := List.drop_eq_nil_iff.mp (hempty hnil)
    omega
  · rw [List.flatMap_cons, h.whole, List.take_append_drop]

section Paginate

variable {items : List α} {offset size : Nat}

theorem paginate_last (h : (items.drop offset).length ≤ size) :
    paginate items offset size = ⟨items.drop offset, none⟩ := by
  have hall : (items.drop offset).take size = items.drop offset := List.take_of_length_le h
  simp only [paginate, hall]
  rw [if_neg]
  rw [List.length_drop]
  omega

/-- With a next page, this one is full. -/
theorem paginate_more (h : size < (items.drop offset).length) :
    paginate items offset size =
      ⟨(items.drop offset).take size, some (PageToken.encode (offset + size))⟩ := by
  have hfull : ((items.drop offset).take size).length = size :=
    List.length_take_of_le (Nat.le_of_lt h)
  rw [List.length_drop] at h
  simp only [paginate, hfull]
  rw [if_pos (by omega)]

/-- The offset of what follows a page fits a word where the offset and the number of all items do. -/
theorem paginate_within (ho : offset ≤ Word.greatest) (hfit : items.length ≤ Word.greatest) :
    offset + (paginate items offset size).items.length ≤ Word.greatest := by
  simp only [paginate, List.length_take, List.length_drop]
  omega

/-- Every page leads to the next, since the offset of the next one is below the number of items; the
rest of the list gets shorter by a page each time. -/
theorem exists_walk {list : Option String → Except StoreError (Page α)} (hsize : 0 < size)
    (hfit : items.length ≤ Word.greatest)
    (hlist : ∀ token offset, PageToken.decode token = .ok offset →
      list token = .ok (paginate items offset size))
    {token : Option String} (ht : PageToken.decode token = .ok offset) :
    ∃ pages, Walk list token pages ∧ Splits size (items.drop offset) pages := by
  induction hn : items.length - offset using Nat.strongRecOn generalizing offset token with
  | _ n ih =>
    by_cases hlen : size < (items.drop offset).length
    · have hpage := hlist token offset ht
      rw [paginate_more hlen] at hpage
      rw [List.length_drop] at hlen
      have hnext : PageToken.decode (some (PageToken.encode (offset + size))) = .ok (offset + size) :=
        PageToken.decode_encode (by omega)
      obtain ⟨pages, hwalk, hsplits⟩ := ih _ (by omega) hnext rfl
      rw [← List.drop_drop] at hsplits
      exact ⟨_, .more hpage hwalk, hsplits.cons (by rw [List.length_drop]; exact hlen)⟩
    · have hpage := hlist token offset ht
      rw [paginate_last (Nat.le_of_not_lt hlen)] at hpage
      exact ⟨_, .last hpage, .single (Nat.le_of_not_lt hlen)⟩

end Paginate

end AccessGrants
