import AccessGrants.Remote.Reply

/-!
# AccessGrants.Proofs.Url.Fragment

What follows the first `#` of a URL is not sent.

* `cleaned_fragment`        — what is before a `#` is cleaned in the same way whatever follows it.
* `scheme?_fragment`        — the scheme ends before the `#`.
* `withAuthority?_fragment` — host, path and query do.
* `target?_eq`              — what is asked for, from the scheme and the text after it.
* `Remote.target?_fragment` — two URLs that differ behind a `#` are asked for alike.
-/

namespace AccessGrants

namespace Text

theorem cut?_append (separator : Char) (front back : List Char) :
    cut? separator (front ++ back) =
      match cut? separator front with
      | some (before, after) => some (before, after ++ back)
      | none => (cut? separator back).map fun (before, after) => (front ++ before, after) := by
  induction front with
  | nil => cases h : cut? separator back <;> simp [cut?, h]
  | cons c front ih =>
    by_cases hc : c = separator
    · simp [cut?, hc]
    · rw [List.cons_append, cut?, if_neg hc, cut?, if_neg hc, ih]
      cases cut? separator front with
      | some parts => rfl
      | none => cases cut? separator back <;> rfl

end Text

namespace Url

variable {p : Char → Bool} {c : Char} {front : List Char}

theorem takeWhile_append_cons (h : p c = false) (back : List Char) :
    (front ++ c :: back).takeWhile p = front.takeWhile p := by
  induction front with
  | nil => simp [h]
  | cons d front ih =>
    rw [List.cons_append, List.takeWhile_cons, List.takeWhile_cons, ih]

theorem dropWhile_append_cons (h : p c = false) (back : List Char) :
    (front ++ c :: back).dropWhile p = front.dropWhile p ++ c :: back := by
  induction front with
  | nil => simp [h]
  | cons d front ih =>
    rw [List.cons_append, List.dropWhile_cons, List.dropWhile_cons, ih]
    split <;> rfl

/-- A `#` is no blank, so what is cleaned away before it does not depend on what follows it. -/
theorem cleaned_fragment (text : String) :
    ∃ front, ∀ fragment, ∃ back, cleaned (text ++ "#" ++ fragment) = front ++ '#' :: back := by
  refine ⟨(text.toList.dropWhile fun c => c.toNat ≤ 32).filter
    fun c => c ≠ '\t' && c ≠ '\n' && c ≠ '\r', fun fragment => ?_⟩
  have htext : (text ++ "#" ++ fragment).toList = text.toList ++ '#' :: fragment.toList := by simp
  refine ⟨((fragment.toList.reverse.dropWhile fun c => c.toNat ≤ 32).reverse).filter
    fun c => c ≠ '\t' && c ≠ '\n' && c ≠ '\r', ?_⟩
  rw [cleaned, htext, dropWhile_append_cons (by decide), List.reverse_append, List.reverse_cons,
    List.append_assoc, List.singleton_append, dropWhile_append_cons (by decide)]
  simp

/-- A colon behind the `#` ends no scheme, as `#` may not stand in one. -/
theorem scheme?_fragment (front back : List Char) :
    scheme? (front ++ '#' :: back) =
      (scheme? front).map fun (scheme, rest) => (scheme, rest ++ '#' :: back) := by
  rw [scheme?, scheme?, Text.cut?_append]
  cases hfront : Text.cut? ':' front with
  | some parts =>
    simp only
    split <;> rfl
  | none =>
    rw [Text.cut?, if_neg (by decide)]
    cases Text.cut? ':' back with
    | none => rfl
    | some parts =>
      have hname : (front ++ '#' :: parts.1).all isSchemeChar = false := by
        rw [List.all_append, List.all_cons]
        simp [isSchemeChar]
      simp only [Option.map_some, hname, Bool.and_false]
      rfl

theorem breakAt_append_cons {stop : Char → Bool} (h : stop c = true) (back : List Char) :
    breakAt stop (front ++ c :: back) =
      ((breakAt stop front).1, (breakAt stop front).2 ++ c :: back) := by
  have hc : (!stop c) = false := by rw [h]; rfl
  rw [breakAt, takeWhile_append_cons hc, dropWhile_append_cons hc]
  rfl

theorem cutTail_fragment (front back : List Char) :
    cutTail (front ++ '#' :: back) = cutTail front := by
  rw [cutTail, cutTail, breakAt_append_cons (by decide)]

/-- The authority ends before the `#`, and so does what is cut into path and query. -/
theorem withAuthority?_fragment (scheme : String) (family : Family) (front back back' : List Char) :
    withAuthority? scheme family (front ++ '#' :: back) =
      withAuthority? scheme family (front ++ '#' :: back') := by
  have hbreak (back : List Char) :
      breakAt (fun c => family.isSlash c || c = '?' || c = '#') (front ++ '#' :: back) = _ :=
    breakAt_append_cons (by simp) back
  simp only [withAuthority?, hbreak, cutTail_fragment, List.head?_append, List.head?_cons]

theorem scheme_of_withAuthority? {scheme : String} {family : Family} {cs : List Char} {u : Url}
    (h : withAuthority? scheme family cs = some u) : u.scheme = scheme := by
  obtain ⟨host, -, hu⟩ := Option.bind_eq_some_iff.mp h
  cases hu
  rfl

theorem scheme_of_fileWithHost? {cs : List Char} {u : Url} (h : fileWithHost? cs = some u) :
    u.scheme = "file" := by
  simp only [fileWithHost?, Option.pure_def, Option.ite_none_right_eq_some, Option.some.injEq] at h
  rw [← h.2]

theorem eq_file_of_ofScheme {scheme : String} (h : Family.ofScheme scheme = .file) :
    scheme = "file" := by
  unfold Family.ofScheme at h
  split at h
  · cases h
  · split at h
    · assumption
    · cases h

/-- However the rest of a URL is read, the URL has the scheme that it starts with. -/
theorem scheme_of_parse? {text scheme : String} {rest : List Char} {u : Url}
    (hscheme : scheme? (cleaned text) = some (scheme, rest)) (h : parse? text = some u) :
    u.scheme = scheme := by
  rw [parse?, hscheme] at h
  simp only [Option.bind_eq_bind, Option.bind_some] at h
  split at h
  · exact scheme_of_withAuthority? h
  · next hfamily =>
    split at h
    · rw [scheme_of_fileWithHost? h, eq_file_of_ofScheme hfamily]
    · cases h
      rfl
  · cases h
    rfl
  · exact scheme_of_withAuthority? h
  · cases h
    rfl

theorem ofScheme_of_web {scheme : String} (h : scheme ∈ ["http", "https"]) :
    Family.ofScheme scheme = .web := by
  rw [Family.ofScheme, if_pos]
  rcases List.mem_cons.mp h with rfl | h
  · decide
  · rw [List.mem_singleton.mp h]
    decide

theorem target?_eq (text : String) :
    Remote.target? text =
      (scheme? (cleaned text)).bind fun (scheme, rest) =>
        if scheme ∈ ["http", "https"] then
          (withAuthority? scheme .web (rest.dropWhile Family.web.isSlash)).map (·.requestTarget)
        else none := by
  cases hscheme : scheme? (cleaned text) with
  | none =>
    rw [Remote.target?, parse?, hscheme]
    rfl
  | some parts =>
    obtain ⟨scheme, rest⟩ := parts
    simp only [Option.bind_some]
    split
    · next hweb =>
      have hparse : parse? text = withAuthority? scheme .web (rest.dropWhile Family.web.isSlash) := by
        rw [parse?, hscheme]
        simp only [Option.bind_eq_bind, Option.bind_some]
        rw [ofScheme_of_web hweb]
      rw [Remote.target?, hparse]
      cases hu : withAuthority? scheme .web (rest.dropWhile Family.web.isSlash) with
      | none => rfl
      | some u =>
        rw [← scheme_of_withAuthority? hu] at hweb
        rw [Option.filter_some, if_pos (decide_eq_true hweb)]
    · next hother =>
      rw [Remote.target?, Option.map_eq_none_iff, Option.filter_eq_none_iff]
      intro u hu
      rw [scheme_of_parse? hscheme hu, decide_eq_true_eq]
      exact hother

end Url

/-- A client sends the same request whatever stands behind the `#` of a URL. -/
theorem Remote.target?_fragment (url fragment fragment' : String) :
    Remote.target? (url ++ "#" ++ fragment) = Remote.target? (url ++ "#" ++ fragment') := by
  have hslash : Url.Family.web.isSlash '#' = false := by decide
  obtain ⟨front, hfront⟩ := Url.cleaned_fragment url
  obtain ⟨back, hback⟩ := hfront fragment
  obtain ⟨back', hback'⟩ := hfront fragment'
  rw [Url.target?_eq, Url.target?_eq, hback, hback', Url.scheme?_fragment, Url.scheme?_fragment]
  cases Url.scheme? front with
  | none => rfl
  | some parts =>
    simp only [Option.map_some, Option.bind_some, Url.dropWhile_append_cons hslash]
    rw [Url.withAuthority?_fragment]

end AccessGrants
