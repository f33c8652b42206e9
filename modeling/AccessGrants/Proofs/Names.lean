import AccessGrants.Names

/-!
# AccessGrants.Proofs.Names

Sets of names and maps to texts, told by what is in them.

* `Names.mem_union`            — a union has the names of both.
* `Names.ofNames_toList`       — a set is made of its own list.
* `Parameters.ofPairs_eq`      — so is a map, of any list of its pairs without a key twice.
-/

namespace AccessGrants

namespace Names

theorem mem_foldl_insert {names : List String} {a : Names} {name : String} :
    name ∈ names.foldl (fun acc n => acc.insert n) a ↔ name ∈ names ∨ name ∈ a := by
  induction names generalizing a with
  | nil => simp
  | cons n names ih =>
    rw [List.foldl_cons, ih, Std.ExtTreeSet.mem_insert, List.mem_cons,
      Std.LawfulEqCmp.compare_eq_iff_eq, eq_comm (a := n)]
    exact or_left_comm.trans or_assoc.symm

theorem mem_union {a b : Names} {name : String} : name ∈ union a b ↔ name ∈ a ∨ name ∈ b := by
  rw [union, mem_foldl_insert, Std.ExtTreeSet.mem_toList]
  exact or_comm

theorem ofNames_toList (a : Names) : ofNames a.toList = a := by
  refine Std.ExtTreeSet.ext_mem fun name => ?_
  rw [ofNames, mem_foldl_insert, Std.ExtTreeSet.mem_toList]
  exact or_iff_left Std.ExtTreeSet.not_mem_empty

end Names

namespace Parameters

variable {pairs : List (String × String)} {key : String}

theorem getElem?_foldl_of_not_mem {p : Parameters} (h : key ∉ pairs.map (·.1)) :
    (pairs.foldl (fun acc q => acc.insert q.1 q.2) p)[key]? = p[key]? := by
  induction pairs generalizing p with
  | nil => rfl
  | cons q pairs ih =>
    obtain ⟨hq, h⟩ := not_or.mp (fun hmem => h (List.mem_cons.mpr hmem))
    rw [List.foldl_cons, ih h, Std.ExtTreeMap.getElem?_insert, if_neg]
    rw [Std.LawfulEqCmp.compare_eq_iff_eq]
    exact fun heq => hq heq.symm

theorem getElem?_foldl_of_mem {p : Parameters} {text : String} (hn : (pairs.map (·.1)).Nodup)
    (h : (key, text) ∈ pairs) :
    (pairs.foldl (fun acc q => acc.insert q.1 q.2) p)[key]? = some text := by
  induction pairs generalizing p with
  | nil => cases h
  | cons q pairs ih =>
    obtain ⟨hq, hn⟩ := List.nodup_cons.mp hn
    rw [List.foldl_cons]
    rcases List.mem_cons.mp h with rfl | h
    · rw [getElem?_foldl_of_not_mem hq, Std.ExtTreeMap.getElem?_insert_self]
    · exact ih hn h

/-- A map is made of any list of its pairs in which no key stands twice. -/
theorem ofPairs_eq {p : Parameters} (hn : (pairs.map (·.1)).Nodup)
    (h : ∀ q, q ∈ pairs ↔ q ∈ p.toList) : ofPairs pairs = p := by
  refine Std.ExtTreeMap.ext_getElem? fun key => ?_
  cases hp : p[key]? with
  | some text =>
    have hmem : (key, text) ∈ p.toList := Std.ExtTreeMap.mem_toList_iff_getElem?_eq_some.mpr hp
    exact getElem?_foldl_of_mem hn ((h _).mpr hmem)
  | none =>
    have hkey : key ∉ pairs.map (·.1) := by
      intro hmem
      obtain ⟨⟨k, text⟩, hq, rfl⟩ := List.mem_map.mp hmem
      have htext := Std.ExtTreeMap.mem_toList_iff_getElem?_eq_some.mp ((h _).mp hq)
      rw [hp] at htext
      cases htext
    rw [ofPairs, getElem?_foldl_of_not_mem hkey]
    exact Std.ExtTreeMap.getElem?_empty

end Parameters

end AccessGrants
