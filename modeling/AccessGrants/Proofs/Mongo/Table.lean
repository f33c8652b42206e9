import AccessGrants.Proofs.Document.Fields
import AccessGrants.Proofs.Mongo.Database
import AccessGrants.Proofs.Store.Frames

/-!
# AccessGrants.Proofs.Mongo.Table

A collection whose documents are the rows of a table, one for each, in whatever order.

* `Represents`            — the documents show the rows.
* `Represents.find_cases` — a filter finds a document of a row that it asks for, or there is none.
* `add`, `overwrite`      — a document for a new row, and one in the place of another.
-/

namespace AccessGrants

namespace Json

variable {doc : Json} {name : String} {fields : List (String × Json)}

theorem path?_field {path : String} (h : (path.toList.splitOn '.').map String.ofList = [path]) :
    doc.path? path = doc.field? path := by
  rw [path?, h, at?]
  cases doc.field? path <;> rfl

theorem field?_setFields {all : List (String × Json)} (hdoc : doc = .object all) :
    (doc.setFields fields).field? name = (fields.reverse.lookup name).or (doc.field? name) := by
  subst hdoc
  exact lookup_insertFields

theorem has_nothing : (object []).Has [] :=
  ⟨⟨[], rfl, List.Pairwise.nil⟩, by simp⟩

theorem Has.setFields {old new : List (String × Json)} (h : doc.Has old)
    (hnew : ∀ f ∈ new, fields.reverse.lookup f.1 = some f.2 ∨
      fields.reverse.lookup f.1 = none ∧ f ∈ old) : (doc.setFields fields).Has new := by
  obtain ⟨⟨all, rfl, horder⟩, hfield⟩ := h
  refine ⟨⟨_, rfl, inOrder_insertFields horder⟩, fun f hf => ?_⟩
  rw [field?_setFields rfl]
  rcases hnew f hf with hwritten | ⟨hnone, hold⟩
  · rw [hwritten]
    rfl
  · rw [hnone, hfield f hold]
    rfl

end Json

theorem idIndex_refuses {name : String} {doc : Json} {others : List Json} :
    (MongoStore.indexCommands.idIndex name).refuses doc others = true ↔
      ∃ other ∈ others, (other.path? "id").getD .null = (doc.path? "id").getD .null := by
  simp [Index.refuses, MongoStore.indexCommands.idIndex, Index.entryOf, MongoStore.inIdOrder]

/-- The documents show the rows of a table, one for each, and their ids tell them apart. -/
structure Represents (key : α → String) (shows : α → Json → Prop)
    (rows : Std.ExtTreeMap String α) (documents : List Json) : Prop where
  id : ∀ {a : α} {doc : Json}, shows a doc → doc.field? "id" = some (.string (key a))
  row : ∀ doc ∈ documents, ∃ a, rows[key a]? = some a ∧ shows a doc
  document : ∀ (k : String) (a : α), rows[k]? = some a → key a = k ∧ ∃ doc ∈ documents, shows a doc
  once : (documents.map (·.field? "id")).Nodup

namespace Represents

variable {key : α → String} {shows : α → Json → Prop} {rows : Std.ExtTreeMap String α}
  {documents : List Json} {a b : α} {doc new : Json}

theorem nil (hid : ∀ {a : α} {doc : Json}, shows a doc → doc.field? "id" = some (.string (key a))) :
    Represents key shows (∅ : Std.ExtTreeMap String α) [] where
  id := hid
  row := by simp
  document := by simp
  once := List.nodup_nil

/-- A filter finds a document of a row that it asks for, or there is no such row. -/
theorem find_cases (h : Represents key shows rows documents) (server : Server) {p : Json → Bool}
    {ask : α → Prop} (hp : ∀ a doc, shows a doc → (p doc = true ↔ ask a)) :
    (∃ a doc, rows[key a]? = some a ∧ ask a ∧ (server.order documents).find? p = some doc ∧
      doc ∈ documents ∧ shows a doc) ∨
    (∀ (k : String) (a : α), rows[k]? = some a → ¬ ask a) ∧
      (server.order documents).find? p = none := by
  cases hfind : (server.order documents).find? p with
  | some doc =>
    have hdoc : doc ∈ documents :=
      (server.perm documents).mem_iff.mp (List.mem_of_find?_eq_some hfind)
    obtain ⟨a, ha, hshows⟩ := h.row doc hdoc
    exact .inl ⟨a, doc, ha, (hp a doc hshows).mp (List.find?_some hfind), rfl, hdoc, hshows⟩
  | none =>
    refine .inr ⟨fun k a ha hasked => ?_, rfl⟩
    obtain ⟨-, doc, hdoc, hshows⟩ := h.document k a ha
    have hno := List.find?_eq_none.mp hfind doc ((server.perm documents).mem_iff.mpr hdoc)
    exact hno ((hp a doc hshows).mpr hasked)

section Writes

variable (h : Represents key shows rows documents)
include h

theorem others (hdoc : doc ∈ documents) (hshows : shows a doc) :
    ∀ other ∈ documents.erase doc, ∃ b, rows[key b]? = some b ∧ shows b other ∧ key b ≠ key a := by
  intro other hother
  obtain ⟨b, hb, hshows'⟩ := h.row other (List.mem_of_mem_erase hother)
  refine ⟨b, hb, hshows', fun heq => ?_⟩
  have hperm := (List.perm_cons_erase hdoc).map (·.field? "id")
  have honce := hperm.nodup_iff.mp h.once
  rw [List.map_cons, List.nodup_cons, h.id hshows, ← heq, ← h.id hshows'] at honce
  exact honce.1 (List.mem_map_of_mem hother)

theorem other_of_row (hdoc : doc ∈ documents) (hshows : shows a doc) {k : String}
    (hb : rows[k]? = some b) (hne : k ≠ key a) : ∃ other ∈ documents.erase doc, shows b other := by
  obtain ⟨hk, other, hother, hshows'⟩ := h.document k b hb
  refine ⟨other, (List.mem_erase_of_ne fun heq => ?_).mpr hother, hshows'⟩
  subst heq
  have hid := (h.id hshows).symm.trans (h.id hshows')
  simp only [Option.some.injEq, Json.string.injEq] at hid
  exact hne (hk.symm.trans hid.symm)

theorem add (hfree : rows[key b]? = none) (hshows : shows b new) :
    Represents key shows (rows.insert (key b) b) (new :: documents) := by
  refine ⟨h.id, ?_, ?_, ?_⟩
  · intro doc hdoc
    rcases List.mem_cons.mp hdoc with rfl | hdoc
    · exact ⟨b, by simp, hshows⟩
    · obtain ⟨c, hc, hshows'⟩ := h.row doc hdoc
      refine ⟨c, ?_, hshows'⟩
      rw [MemoryStore.getElem?_insert_row, if_neg]
      · exact hc
      · intro heq
        rw [← heq, hfree] at hc
        cases hc
  · intro k c hc
    rw [MemoryStore.getElem?_insert_row] at hc
    split at hc
    · rename_i hk
      cases hc
      exact ⟨hk, new, List.mem_cons_self, hshows⟩
    · obtain ⟨hk, doc, hdoc, hshows'⟩ := h.document k c hc
      exact ⟨hk, doc, List.mem_cons_of_mem _ hdoc, hshows'⟩
  · rw [List.map_cons, List.nodup_cons, h.id hshows]
    refine ⟨fun hmem => ?_, h.once⟩
    obtain ⟨doc, hdoc, hid⟩ := List.mem_map.mp hmem
    obtain ⟨c, hc, hshows'⟩ := h.row doc hdoc
    have hsame := (h.id hshows').symm.trans hid
    simp only [Option.some.injEq, Json.string.injEq] at hsame
    rw [hsame, hfree] at hc
    cases hc

/-- A document in the place of another one, for a row with the same key. -/
theorem overwrite (hdoc : doc ∈ documents) (hshows : shows a doc) (hsame : key b = key a)
    (hnew : shows b new) :
    Represents key shows (rows.insert (key b) b) (new :: documents.erase doc) := by
  have hothers := h.others hdoc hshows
  refine ⟨h.id, ?_, ?_, ?_⟩
  · intro other hother
    rcases List.mem_cons.mp hother with rfl | hother
    · exact ⟨b, by simp, hnew⟩
    · obtain ⟨c, hc, hshows', hne⟩ := hothers other hother
      refine ⟨c, ?_, hshows'⟩
      rw [MemoryStore.getElem?_insert_row, if_neg]
      · exact hc
      · intro heq
        exact hne (heq.symm.trans hsame)
  · intro k c hc
    rw [MemoryStore.getElem?_insert_row] at hc
    split at hc
    · rename_i hk
      cases hc
      exact ⟨hk, new, List.mem_cons_self, hnew⟩
    · rename_i hk
      obtain ⟨other, hother, hshows'⟩ := h.other_of_row hdoc hshows hc
        (fun heq => hk (hsame.trans heq.symm))
      exact ⟨(h.document k c hc).1, other, List.mem_cons_of_mem _ hother, hshows'⟩
  · have hperm := (List.perm_cons_erase hdoc).map (·.field? "id")
    have honce := hperm.nodup_iff.mp h.once
    rw [List.map_cons, List.nodup_cons] at honce ⊢
    rw [h.id hnew, hsame, ← h.id hshows]
    exact honce

end Writes

end Represents

end AccessGrants
