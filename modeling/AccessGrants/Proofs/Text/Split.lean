import AccessGrants.Text.Blank
import AccessGrants.Text.Split
import Mathlib.Data.List.Induction

/-!
# AccessGrants.Proofs.Text.Split

The parts between separators, and the blanks around them.

* `split_append`        — a part and a separator in front of a text are its first part.
* `length_split`        — one more part than there are separators.
* `eq_of_split_single`  — a text that is not cut is its only part.
* `split_eq_cons_iff`   — a text that is cut is its first part, a separator and the rest.
* `append_cons_inj`     — the text before the first separator is told by the whole text.
* `head?_split`         — it is the first part.
* `map_trim_split_trim` — the trimmed parts of a text are those of the trimmed text.
-/

namespace AccessGrants.Text

section Parts

variable {separator c : Char} {cs : List Char}

theorem split_ne_nil (separator : Char) (cs : List Char) : split separator cs ≠ [] := by
  cases cs with
  | nil => simp [split]
  | cons c cs =>
    rw [split]
    split
    · simp
    · split <;> simp

theorem split_cons_of_ne (h : c ≠ separator) (cs : List Char) :
    ∃ part parts, split separator cs = part :: parts ∧
      split separator (c :: cs) = (c :: part) :: parts := by
  cases hs : split separator cs with
  | nil => exact absurd hs (split_ne_nil separator cs)
  | cons part parts =>
    refine ⟨part, parts, rfl, ?_⟩
    rw [split, if_neg h, hs]

theorem split_append {part : List Char} (h : ∀ c ∈ part, c ≠ separator) :
    split separator (part ++ separator :: cs) = part :: split separator cs := by
  induction part with
  | nil =>
    rw [List.nil_append, split, if_pos rfl]
  | cons c part ih =>
    have ih := ih fun x hx => h x (List.mem_cons_of_mem _ hx)
    rw [List.cons_append, split, if_neg (h c List.mem_cons_self), ih]

theorem split_of_not_mem {part : List Char} (h : ∀ c ∈ part, c ≠ separator) :
    split separator part = [part] := by
  induction part with
  | nil => rfl
  | cons c part ih =>
    have ih := ih fun x hx => h x (List.mem_cons_of_mem _ hx)
    rw [split, if_neg (h c List.mem_cons_self), ih]

theorem eq_of_split_single {part : List Char} (h : split separator cs = [part]) : cs = part := by
  induction cs generalizing part with
  | nil =>
    cases h
    rfl
  | cons c cs ih =>
    by_cases hc : c = separator
    · rw [split, if_pos hc] at h
      exact absurd (List.cons.inj h).2 (split_ne_nil separator cs)
    · obtain ⟨first, rest, hs, hsplit⟩ := split_cons_of_ne hc cs
      rw [hsplit] at h
      cases h
      rw [ih hs]

theorem length_split (separator : Char) (cs : List Char) :
    (split separator cs).length = cs.count separator + 1 := by
  induction cs with
  | nil => rfl
  | cons c cs ih =>
    by_cases hc : c = separator
    · rw [split, if_pos hc, List.length_cons, ih, hc, List.count_cons_self]
    · obtain ⟨first, rest, hs, hsplit⟩ := split_cons_of_ne hc cs
      rw [hs] at ih
      rw [hsplit, List.count_cons_of_ne hc]
      exact ih

/-- Nothing is cut exactly where no separator stands. -/
theorem split_eq_single_iff {part : List Char} :
    split separator cs = [part] ↔ cs = part ∧ separator ∉ part := by
  constructor
  · intro h
    have hcount := length_split separator cs
    rw [h, List.length_singleton] at hcount
    obtain rfl := eq_of_split_single h
    exact ⟨rfl, List.count_eq_zero.mp (by omega)⟩
  · rintro ⟨rfl, h⟩
    exact split_of_not_mem fun _ hc => ne_of_mem_of_not_mem hc h

theorem split_eq_cons_iff {part next : List Char} {parts : List (List Char)} :
    split separator cs = part :: next :: parts ↔
      ∃ rest, cs = part ++ separator :: rest ∧ separator ∉ part ∧
        split separator rest = next :: parts := by
  constructor
  · intro h
    induction cs generalizing part with
    | nil => cases h
    | cons c cs ih =>
      by_cases hc : c = separator
      · rw [split, if_pos hc] at h
        obtain ⟨rfl, hrest⟩ := List.cons.inj h
        exact ⟨cs, by rw [hc, List.nil_append], List.not_mem_nil, hrest⟩
      · obtain ⟨first, rest, hs, hsplit⟩ := split_cons_of_ne hc cs
        rw [hsplit] at h
        cases h
        obtain ⟨after, rfl, hmem, hafter⟩ := ih hs
        refine ⟨after, rfl, ?_, hafter⟩
        exact List.not_mem_cons_of_ne_of_not_mem (Ne.symm hc) hmem
  · rintro ⟨rest, rfl, hmem, hrest⟩
    rw [split_append fun _ hc => ne_of_mem_of_not_mem hc hmem, hrest]

/-- What stands before the first separator is told by the whole text. -/
theorem append_cons_inj {part part' rest rest' : List Char} (h : separator ∉ part)
    (h' : separator ∉ part') (heq : part ++ separator :: rest = part' ++ separator :: rest') :
    part = part' ∧ rest = rest' := by
  have hsplit := congrArg (split separator) heq
  rw [split_append fun _ hc => ne_of_mem_of_not_mem hc h,
    split_append fun _ hc => ne_of_mem_of_not_mem hc h'] at hsplit
  obtain rfl := (List.cons.inj hsplit).1
  exact ⟨rfl, (List.cons.inj (List.append_cancel_left heq)).2⟩

theorem head?_split (separator : Char) (cs : List Char) :
    (split separator cs).head? = some (cs.takeWhile (· ≠ separator)) := by
  induction cs with
  | nil => rfl
  | cons c cs ih =>
    by_cases hc : c = separator
    · rw [split, if_pos hc, List.takeWhile_cons_of_neg (by simpa using hc), List.head?_cons]
    · obtain ⟨first, rest, hs, hsplit⟩ := split_cons_of_ne hc cs
      rw [hs, List.head?_cons, Option.some_inj] at ih
      rw [hsplit, List.takeWhile_cons_of_pos (by simpa using hc), List.head?_cons, ih]

theorem split_concat_of_ne (h : c ≠ separator) (cs : List Char) :
    ∃ parts part, split separator cs = parts ++ [part] ∧
      split separator (cs ++ [c]) = parts ++ [part ++ [c]] := by
  induction cs with
  | nil => exact ⟨[], [], rfl, split_of_not_mem (by simpa using h)⟩
  | cons d cs ih =>
    obtain ⟨parts, part, hs, hsplit⟩ := ih
    by_cases hd : d = separator
    · refine ⟨[] :: parts, part, ?_, ?_⟩
      · rw [split, if_pos hd, hs]
        rfl
      · rw [List.cons_append, split, if_pos hd, hsplit]
        rfl
    · rw [List.cons_append, split, if_neg hd, split, if_neg hd, hs, hsplit]
      cases parts with
      | nil => exact ⟨[], d :: part, rfl, rfl⟩
      | cons first parts => exact ⟨(d :: first) :: parts, part, rfl, rfl⟩

end Parts

section Blanks

variable {separator c : Char} {cs : List Char}

theorem trimEnd_concat_of_blank (h : isBlank c = true) : trimEnd (cs ++ [c]) = trimEnd cs := by
  rw [trimEnd, List.reverse_append, List.reverse_singleton, List.singleton_append,
    List.dropWhile_cons_of_pos h]
  rfl

theorem trimEnd_concat_of_not_blank (h : ¬ isBlank c = true) : trimEnd (cs ++ [c]) = cs ++ [c] := by
  rw [trimEnd, List.reverse_append, List.reverse_singleton, List.singleton_append,
    List.dropWhile_cons_of_neg h, List.reverse_cons, List.reverse_reverse]

theorem trim_cons_of_blank (h : isBlank c = true) : trim (c :: cs) = trim cs := by
  rw [trim, trimStart, List.dropWhile_cons_of_pos h]
  rfl

theorem trim_concat_of_blank (h : isBlank c = true) : trim (cs ++ [c]) = trim cs := by
  induction cs with
  | nil => exact trim_cons_of_blank h
  | cons d cs ih =>
    by_cases hd : isBlank d = true
    · rw [List.cons_append, trim_cons_of_blank hd, trim_cons_of_blank hd, ih]
    · rw [trim, trim, trimStart, trimStart, List.cons_append, List.dropWhile_cons_of_neg hd,
        List.dropWhile_cons_of_neg hd, ← List.cons_append, trimEnd_concat_of_blank h]

variable (hs : isBlank separator = false)
include hs

theorem map_trim_split_trimStart (cs : List Char) :
    (split separator (trimStart cs)).map trim = (split separator cs).map trim := by
  induction cs with
  | nil => rfl
  | cons c cs ih =>
    by_cases hc : isBlank c = true
    · have hne : c ≠ separator := by
        rintro rfl
        rw [hs] at hc
        cases hc
      obtain ⟨part, parts, hcs, hsplit⟩ := split_cons_of_ne hne cs
      rw [trimStart, List.dropWhile_cons_of_pos hc, hsplit, List.map_cons, trim_cons_of_blank hc,
        ← List.map_cons, ← hcs]
      exact ih
    · rw [trimStart, List.dropWhile_cons_of_neg hc]

theorem map_trim_split_trimEnd (cs : List Char) :
    (split separator (trimEnd cs)).map trim = (split separator cs).map trim := by
  induction cs using List.reverseRecOn with
  | nil => rfl
  | append_singleton cs c ih =>
    by_cases hc : isBlank c = true
    · have hne : c ≠ separator := by
        rintro rfl
        rw [hs] at hc
        cases hc
      obtain ⟨parts, part, hcs, hsplit⟩ := split_concat_of_ne hne cs
      rw [trimEnd_concat_of_blank hc, ih, hsplit, hcs, List.map_append, List.map_append,
        List.map_singleton, List.map_singleton, trim_concat_of_blank hc]
    · rw [trimEnd_concat_of_not_blank hc]

/-- A blank at an end of a text is at an end of one of its parts. -/
theorem map_trim_split_trim (cs : List Char) :
    (split separator (trim cs)).map trim = (split separator cs).map trim :=
  (map_trim_split_trimEnd hs _).trans (map_trim_split_trimStart hs cs)

end Blanks

end AccessGrants.Text
