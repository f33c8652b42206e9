import AccessGrants.Proofs.Mongo.Deployments
import AccessGrants.Proofs.Mongo.Preflights
import AccessGrants.Proofs.Store.Answers
import AccessGrants.Proofs.Store.Links

/-!
# AccessGrants.Proofs.Mongo.Refinement

The store over a database answers the calls on bindings and claims as the store in memory does. The
one decides with a look at the stored record and at the index of links; the other with a filter and
unique indexes.

* `Covered`        — these calls, with arguments that the program can have.
* `Agrees`         — the documents of the database are the rows of the store in memory.
* `Refined`        — a call is answered alike, and both agree afterwards.
* `run_refined`    — so is every call of every run from empty stores.
-/

namespace AccessGrants

open MongoStore

/-- The calls on bindings and claims, with times and priorities that the program can have and
preflights that the database can keep. -/
inductive Covered : StoreCall → Prop
  | getDeployment (id : String) : Covered (.getDeployment id)
  | upsertDeployment (d : Deployment) (guard : AssignmentGuard) :
      Covered (.upsertDeployment d guard)
  | findDeployment (g : String) : Covered (.findDeployment g)
  | assignDeployment (id : String) (p : Provider) {a : Assignment} (ha : a.Fits) :
      Covered (.assignDeployment id p a)
  | clearAssignment (id g : String) : Covered (.clearAssignment id g)
  | putPreflight {p : Preflight} (hp : p.Valid) (hs : storable p.toJson = true) :
      Covered (.putPreflight p)
  | getPreflight (id userId : String) : Covered (.getPreflight id userId)
  | claimPreflight (id userId : String) {t : Instant} (ht : t.Valid) :
      Covered (.claimPreflight id userId t)

/-- The reply with its times rounded down to milliseconds. Of the covered calls only those of
preflights answer times. -/
def StoreCall.floored : (c : StoreCall) → c.Reply → c.Reply
  | .getPreflight _ _, reply => reply.map (Option.map Preflight.floorMillis)
  | .claimPreflight _ _ _, reply => reply.map (Option.map Preflight.floorMillis)
  | _, reply => reply

/-- The documents of a database are the rows of the store in memory, and the indexes are there. -/
structure Agrees (s : MemoryStore) (db : Database) : Prop where
  deployments : Represents Deployment.id Deployment.Shown s.deployments
    (db .deployments).documents
  preflights : Represents Preflight.id Preflight.Shown s.preflights (db .preflights).documents
  links : s.LinksAgree
  deploymentIndexes : (db .deployments).indexes = deploymentIndexes
  preflightIndexes : (db .preflights).indexes = preflightIndexes

/-- The call is answered alike, and the stores agree afterwards. -/
structure Refined (store : MongoStore) (server : Server) (s : MemoryStore) (db : Database)
    (c : StoreCall) : Prop where
  reply : (store.perform server db c).1 = c.floored (s.perform c).1
  agrees : Agrees (s.perform c).2 (store.perform server db c).2

theorem Refined.of {store : MongoStore} {server : Server} {s s' : MemoryStore} {db db' : Database}
    {c : StoreCall} {reply reply' : c.Reply} (hs : s.perform c = (reply, s'))
    (hd : store.perform server db c = (reply', db')) (hr : reply' = c.floored reply)
    (h : Agrees s' db') : Refined store server s db c where
  reply := by rw [hs, hd, hr]
  agrees := by
    rw [hs, hd]
    exact h

/-! ## Both stores -/

namespace Agrees

variable {store : MongoStore} {server : Server} {s s' : MemoryStore} {db : Database}

theorem initial (pageSize : Nat) : Agrees (MemoryStore.empty pageSize) (indexed server) where
  deployments := .nil Deployment.Shown.id
  preflights := .nil Preflight.Shown.id
  links := MemoryStore.empty_agree pageSize
  deploymentIndexes := rfl
  preflightIndexes := rfl

section Writes

variable (h : Agrees s db) {documents : List Json}
include h

theorem write_deployment (hd : s'.preflights = s.preflights) (hl : s'.LinksAgree)
    (hr : Represents Deployment.id Deployment.Shown s'.deployments documents) :
    Agrees s' (db.withDocuments .deployments documents) where
  deployments := by simpa [Database.withDocuments] using hr
  preflights := by
    rw [hd]
    simpa [Database.withDocuments] using h.preflights
  links := hl
  deploymentIndexes := by simpa [Database.withDocuments] using h.deploymentIndexes
  preflightIndexes := by simpa [Database.withDocuments] using h.preflightIndexes

theorem write_preflight (hp : s'.deployments = s.deployments) (hl : s'.LinksAgree)
    (hr : Represents Preflight.id Preflight.Shown s'.preflights documents) :
    Agrees s' (db.withDocuments .preflights documents) where
  deployments := by
    rw [hp]
    simpa [Database.withDocuments] using h.deployments
  preflights := by simpa [Database.withDocuments] using hr
  links := hl
  deploymentIndexes := by simpa [Database.withDocuments] using h.deploymentIndexes
  preflightIndexes := by simpa [Database.withDocuments] using h.preflightIndexes

end Writes

/-! ## Look-ups -/

section Find

variable {decode : Decoder α} {a : α} {doc : Json} {documents : List Json} {p : Json → Bool}

theorem readFirst_of_find_some (h : documents.find? p = some doc)
    (hr : readDocument decode doc = .ok a) :
    readFirst decode (.documents (documents.filter p)) = .ok (some a) := by
  rw [← List.head?_filter] at h
  obtain ⟨rest, hfilter⟩ := List.head?_eq_some_iff.mp h
  rw [hfilter, readFirst, hr]
  rfl

theorem readFirst_of_find_none (h : documents.find? p = none) :
    readFirst decode (.documents (documents.filter p)) = .ok none := by
  rw [← List.head?_filter, List.head?_eq_none_iff] at h
  rw [h, readFirst]

end Find

theorem deployment_cases (h : Agrees s db) (server : Server) {filter : Filter} {id : String}
    {ask : Deployment → Prop}
    (hf : ∀ (a : Deployment) doc, a.Shown doc → (filter.admits doc = true ↔ a.id = id ∧ ask a)) :
    (∃ a doc, s.deployments[id]? = some a ∧ a.id = id ∧ ask a ∧
      db.first server .deployments filter = some doc ∧ doc ∈ (db .deployments).documents ∧
      a.Shown doc) ∨
    (∀ a, s.deployments[id]? = some a → ¬ ask a) ∧ db.first server .deployments filter = none := by
  rcases h.deployments.find_cases server hf with
    ⟨a, doc, ha, ⟨rfl, hask⟩, hfind, hdoc, hshown⟩ | ⟨hnone, hfind⟩
  · exact .inl ⟨a, doc, ha, rfl, hask, hfind, hdoc, hshown⟩
  · exact .inr ⟨fun a ha hask => hnone id a ha ⟨(h.deployments.document id a ha).1, hask⟩, hfind⟩

theorem getDeployment (h : Agrees s db) (id : String) :
    Refined store server s db (.getDeployment id) := by
  refine ⟨?_, h⟩
  show readFirst Deployment.read (.documents ((server.order (db .deployments).documents).filter
    (byId id).admits)) = .ok s.deployments[id]?
  have hf : ∀ (a : Deployment) doc, a.Shown doc →
      ((byId id).admits doc = true ↔ a.id = id ∧ True) :=
    fun a doc hshown => (hshown.admits_byId id).trans (by simp)
  rcases h.deployment_cases server hf with
    ⟨a, doc, ha, -, -, hfind, -, hshown⟩ | ⟨hnone, hfind⟩
  · rw [readFirst_of_find_some hfind hshown.read, ha]
  · rw [readFirst_of_find_none hfind, Option.eq_none_iff_forall_ne_some.mpr fun a ha =>
      hnone a ha trivial]

/-- With the links in agreement there is one deployment at most to be found. -/
theorem findDeployment (h : Agrees s db) (g : String) :
    Refined store server s db (.findDeployment g) := by
  refine ⟨?_, h⟩
  show readFirst Deployment.read (.documents ((server.order (db .deployments).documents).filter
    (Filter.admits [(boundTo, .string g)]))) = .ok (s.findDeployment g)
  rcases h.deployments.find_cases server fun a doc hshown => hshown.admits_boundTo g with
    ⟨a, doc, ha, hg, hfind, -, hshown⟩ | ⟨hnone, hfind⟩
  · rw [readFirst_of_find_some hfind hshown.read, h.links.findDeployment_eq_some.mpr ⟨_, ha, hg⟩]
  · rw [readFirst_of_find_none hfind, h.links.findDeployment_eq_none.mpr]
    rintro id ⟨d, hd, hg⟩
    exact hnone id d hd hg

theorem usable_cases (h : Agrees s db) (server : Server) (id userId : String) :
    (∃ p doc, s.getPreflight id userId = some p ∧ p.id = id ∧
      db.first server .preflights (usable id userId) = some doc ∧
      doc ∈ (db .preflights).documents ∧ p.Shown doc) ∨
    s.getPreflight id userId = none ∧ db.first server .preflights (usable id userId) = none := by
  rcases h.preflights.find_cases server fun p doc hshown => hshown.admits_usable id userId
    with ⟨p, doc, hp, ⟨rfl, huse⟩, hfind, hdoc, hshown⟩ | ⟨hnone, hfind⟩
  · refine .inl ⟨p, doc, ?_, rfl, hfind, hdoc, hshown⟩
    rw [MemoryStore.getPreflight, hp, Option.filter_some, if_pos huse]
  · refine .inr ⟨Option.eq_none_iff_forall_ne_some.mpr fun p hp => ?_, hfind⟩
    obtain ⟨hp, huse⟩ := Option.filter_eq_some_iff.mp hp
    exact hnone id p hp ⟨(h.preflights.document id p hp).1, huse⟩

theorem getPreflight (h : Agrees s db) (id userId : String) :
    Refined store server s db (.getPreflight id userId) := by
  refine ⟨?_, h⟩
  show readFirst Preflight.read (.documents ((server.order (db .preflights).documents).filter
    (usable id userId).admits)) = .ok ((s.getPreflight id userId).map Preflight.floorMillis)
  rcases h.usable_cases server id userId with ⟨p, doc, hp, -, hfind, -, hshown⟩ | ⟨hnone, hfind⟩
  · rw [readFirst_of_find_some hfind hshown.read, hp, Option.map_some]
  · rw [readFirst_of_find_none hfind, hnone, Option.map_none]

/-! ## Bindings -/

theorem readGuarded_value {decode : Decoder α} {a : α} {doc : Json}
    (hr : readDocument decode doc = .ok a) : readGuarded decode (.value (some doc)) = .ok a := by
  rw [readGuarded, if_neg (by simp [isDuplicate]), readChanged, hr]
  rfl

theorem readGuarded_none {decode : Decoder α} :
    readGuarded decode (.value none) = .error .conditionFailed := rfl

theorem readGuarded_duplicate {decode : Decoder α} :
    readGuarded decode (.commandError duplicateKey) = .error .conditionFailed := rfl

/-- In the place of a deployment the indexes let another one of its id be, unless its target group
is that of a third one. -/
theorem not_refused (h : Agrees s db) {a b : Deployment} {doc new : Json}
    (hdoc : doc ∈ (db .deployments).documents) (hshown : a.Shown doc) (hnew : b.Shown new)
    (hid : b.id = a.id) (hb : ∀ g id, b.assignedTo g = true → s.Assigned id g → id = a.id) :
    ((db .deployments).indexes.any fun index =>
      index.refuses new ((db .deployments).documents.erase doc)) = false := by
  have hothers := h.deployments.others hdoc hshown
  rw [h.deploymentIndexes, ← Bool.not_eq_true, hnew.refused_iff fun other hother => ?_]
  · rintro ⟨other, hother, c, hc, hclash⟩
    obtain ⟨c', hrow, hc', hne⟩ := hothers other hother
    obtain rfl := hc.unique hc'
    rcases hclash with heq | ⟨g, hbg, hcg⟩
    · exact hne (heq.trans hid)
    · exact hne (hb g c.id hbg ⟨c, hrow, hcg⟩)
  · obtain ⟨c, -, hc, -⟩ := hothers other hother
    exact ⟨c, hc⟩

theorem change_deployment (h : Agrees s db) {a b : Deployment} {doc : Json} {filter : Filter}
    {u : FieldUpdate} {upsert : Option Bool}
    (hfind : db.first server .deployments filter = some doc)
    (hdoc : doc ∈ (db .deployments).documents) (hshown : a.Shown doc)
    (hnew : b.Shown (doc.setFields u.set)) (hid : b.id = a.id)
    (hb : ∀ g id, b.assignedTo g = true → s.Assigned id g → id = a.id) :
    ∃ db', db.exec server (.findAndModify .deployments filter u upsert) =
      (.value (some (doc.setFields u.set)), db') ∧
      ∀ s' : MemoryStore, s'.deployments = s.deployments.insert b.id b →
        s'.preflights = s.preflights → s'.LinksAgree → Agrees s' db' := by
  have hexec : db.exec server (.findAndModify .deployments filter u upsert) =
      (.value (some (doc.setFields u.set)), db.withDocuments .deployments
        (doc.setFields u.set :: (db .deployments).documents.erase doc)) := by
    rw [Database.exec_found hfind,
      Database.commit_of_accepted (h.not_refused hdoc hshown hnew hid hb)]
  refine ⟨_, hexec, fun s' hd hp hl => h.write_deployment hp hl ?_⟩
  rw [hd]
  exact h.deployments.overwrite hdoc hshown hid hnew

theorem perform_upsert (store : MongoStore) (server : Server) (db : Database) (d : Deployment)
    (guard : AssignmentGuard) : store.perform server db (.upsertDeployment d guard) =
      (readGuarded Deployment.read (db.exec server (MongoStore.upsertDeployment d guard)).1,
        (db.exec server (MongoStore.upsertDeployment d guard)).2) := rfl

/-- A registration that finds no deployment makes one, or is refused because there is one of its id
that its guard does not allow. -/
theorem upsert_created (h : Agrees s db) (d : Deployment) {guard : AssignmentGuard}
    (hg : ∀ g, guard ≠ .assignedTo g)
    (hnone : ∀ a, s.deployments[d.id]? = some a → ¬ MemoryStore.allows guard (some a) = true)
    (hfind : db.first server .deployments (Deployment.guardFilter d.id guard) = none) :
    Refined store server s db (.upsertDeployment d guard) := by
  have hperform := perform_upsert store server db d guard
  have hcreates : Deployment.creates guard = true := by
    cases guard with
    | assignedTo g => exact absurd rfl (hg g)
    | _ => rfl
  have hnew := Deployment.shown_created d hg server
  rw [Deployment.upsertDeployment_eq, hcreates, Database.exec_created hfind rfl] at hperform
  have hothers : ∀ other ∈ (db .deployments).documents, ∃ b : Deployment, b.Shown other :=
    fun other hother => (h.deployments.row other hother).imp fun _ hb => hb.2
  cases hs : s.deployments[d.id]? with
  | some a =>
    have hdenied : MemoryStore.allows guard s.deployments[d.id]? = false := by
      rw [hs]
      simpa using hnone a hs
    obtain ⟨hid, other, hother, hshown⟩ := h.deployments.document d.id a hs
    rw [Database.commit_of_refused] at hperform
    · exact .of (MemoryStore.upsert_of_denied hdenied) hperform readGuarded_duplicate h
    · rw [h.deploymentIndexes]
      exact (hnew.refused_iff hothers).mpr ⟨other, hother, a, hshown, .inl hid⟩
  | none =>
    have hallowed : MemoryStore.allows guard s.deployments[d.id]? = true := by
      rw [hs]
      cases guard with
      | assignedTo g => exact absurd rfl (hg g)
      | _ => rfl
    have hmem := MemoryStore.upsert_of_allowed hallowed
    have hlinks := MemoryStore.perform_agree h.links (.upsertDeployment d guard)
    rw [MemoryStore.perform, hmem] at hlinks
    rw [hs] at hmem hlinks
    rw [Database.commit_of_accepted] at hperform
    · refine .of hmem hperform (readGuarded_value hnew.read) (h.write_deployment rfl hlinks ?_)
      exact h.deployments.add (b := MemoryStore.merged d none) hs hnew
    · rw [h.deploymentIndexes, ← Bool.not_eq_true, hnew.refused_iff hothers]
      rintro ⟨other, hother, b, hb, hid | ⟨g, hassigned, -⟩⟩
      · obtain ⟨b', hrow, hb'⟩ := h.deployments.row other hother
        obtain rfl := hb.unique hb'
        rw [hid, show (MemoryStore.merged d none).id = d.id from rfl, hs] at hrow
        cases hrow
      · cases hassigned

theorem upsertDeployment (h : Agrees s db) (d : Deployment) (guard : AssignmentGuard) :
    Refined store server s db (.upsertDeployment d guard) := by
  rcases h.deployment_cases server (fun a doc hshown => hshown.admits_guard d.id guard) with
    ⟨a, doc, ha, hid, hallows, hfind, hdoc, hshown⟩ | ⟨hnone, hfind⟩
  · have hperform := perform_upsert store server db d guard
    have hnew := hshown.registered hid
    have hmem := MemoryStore.upsert_of_allowed (d := d) (by rw [ha]; exact hallows)
    have hlinks := MemoryStore.perform_agree h.links (.upsertDeployment d guard)
    rw [MemoryStore.perform, hmem] at hlinks
    rw [ha] at hmem hlinks
    have hclash : ∀ g id, (MemoryStore.merged d (some a)).assignedTo g = true →
        s.Assigned id g → id = a.id := fun g id hg hassigned =>
      h.links.injective hassigned ⟨a, hid ▸ ha, hg⟩
    obtain ⟨db', hexec, hagrees⟩ := h.change_deployment
      (u := ⟨d.written, Deployment.onInsert guard⟩) hfind hdoc hshown hnew hid.symm hclash
    rw [Deployment.upsertDeployment_eq, hexec] at hperform
    exact .of hmem hperform (readGuarded_value hnew.read) (hagrees _ rfl rfl hlinks)
  · by_cases hg : ∃ g, guard = .assignedTo g
    · obtain ⟨g, rfl⟩ := hg
      have hperform := perform_upsert store server db d (.assignedTo g)
      have hdenied : MemoryStore.allows (.assignedTo g) s.deployments[d.id]? = false := by
        cases hs : s.deployments[d.id]? with
        | none => rfl
        | some a => simpa using hnone a hs
      rw [Deployment.upsertDeployment_eq,
        Database.exec_missing hfind (by simp [Deployment.creates])] at hperform
      exact .of (MemoryStore.upsert_of_denied hdenied) hperform readGuarded_none h
    · exact h.upsert_created d (fun g heq => hg ⟨g, heq⟩) hnone hfind

/-- A free deployment that the index refuses is one for a target group that another one has. -/
theorem assignDeployment (h : Agrees s db) (id : String) (p : Provider) {a : Assignment}
    (ha : a.Fits) : Refined store server s db (.assignDeployment id p a) := by
  have hperform : store.perform server db (.assignDeployment id p a) =
      (readGuarded Deployment.read (db.exec server (MongoStore.assignDeployment id p a)).1,
        (db.exec server (MongoStore.assignDeployment id p a)).2) := rfl
  have hlinks := MemoryStore.perform_agree h.links (.assignDeployment id p a)
  rw [MongoStore.assignDeployment] at hperform
  rcases h.deployment_cases server (fun d doc hshown => hshown.admits_free id p) with
    ⟨d, doc, hd, rfl, ⟨rfl, hfree⟩, hfind, hdoc, hshown⟩ | ⟨hnone, hfind⟩
  · have hnew := hshown.assigned ha
    cases hl : s.links[a.targetGroupId]? with
    | some k =>
      obtain ⟨b, hb, hg⟩ := (h.links _ _).mp hl
      have hne : k ≠ d.id := by
        rintro rfl
        rw [hd] at hb
        cases hb
        obtain ⟨a', ha', -⟩ := MemoryStore.assignedTo_iff.mp hg
        rw [Deployment.isAssigned, ha'] at hfree
        cases hfree
      obtain ⟨other, hother, hshown'⟩ := h.deployments.other_of_row hdoc hshown hb hne
      rw [Database.exec_found hfind, Database.commit_of_refused] at hperform
      · exact .of (MemoryStore.assign_of_taken hd hl) hperform readGuarded_duplicate h
      · rw [h.deploymentIndexes]
        refine (hnew.refused_iff fun other hother => ?_).mpr
          ⟨other, hother, b, hshown', .inr ⟨a.targetGroupId, ?_, hg⟩⟩
        · obtain ⟨c, -, hc, -⟩ := h.deployments.others hdoc hshown other hother
          exact ⟨c, hc⟩
        · exact MemoryStore.assignedTo_iff.mpr ⟨a, rfl, rfl⟩
    | none =>
      have hmem := MemoryStore.assign_of_free hd hfree hl
      rw [MemoryStore.perform, hmem] at hlinks
      have hclash : ∀ g id, Deployment.assignedTo { d with assignment := some a } g = true →
          s.Assigned id g → id = d.id := by
        intro g id hg hassigned
        obtain ⟨a', ha', rfl⟩ := MemoryStore.assignedTo_iff.mp hg
        cases ha'
        rw [(h.links _ _).mpr hassigned] at hl
        cases hl
      obtain ⟨db', hexec, hagrees⟩ := h.change_deployment
        (u := ⟨[("target_group_assignment", a.toJson)], []⟩) hfind hdoc hshown hnew rfl hclash
      rw [hexec] at hperform
      exact .of hmem hperform (readGuarded_value hnew.read) (hagrees _ rfl rfl hlinks)
  · rw [Database.exec_missing hfind (by simp)] at hperform
    exact .of (MemoryStore.assign_of_denied hnone) hperform readGuarded_none h

theorem clearAssignment (h : Agrees s db) (id g : String) :
    Refined store server s db (.clearAssignment id g) := by
  have hperform : store.perform server db (.clearAssignment id g) =
      (readCleared (db.exec server (MongoStore.clearAssignment id g)).1,
        (db.exec server (MongoStore.clearAssignment id g)).2) := rfl
  have hlinks := MemoryStore.perform_agree h.links (.clearAssignment id g)
  rw [MongoStore.clearAssignment] at hperform
  have hf : ∀ (d : Deployment) doc, d.Shown doc →
      (Filter.admits (byId id ++ [(boundTo, .string g)]) doc = true ↔
        d.id = id ∧ d.assignedTo g = true) := fun d doc hshown => by
    rw [Deployment.admits_append, hshown.admits_byId, hshown.admits_boundTo]
  rcases h.deployment_cases server hf with
    ⟨d, doc, hd, rfl, hg, hfind, hdoc, hshown⟩ | ⟨hnone, hfind⟩
  · have hnew := hshown.cleared
    have hmem := MemoryStore.clear_of_bound hd hg
    rw [MemoryStore.perform, hmem] at hlinks
    obtain ⟨db', hexec, hagrees⟩ := h.change_deployment
      (u := ⟨[("target_group_assignment", .null)], []⟩) hfind hdoc hshown hnew rfl
      fun g id hg _ => by cases hg
    rw [hexec] at hperform
    have hread : readCleared (.value (some (doc.setFields [("target_group_assignment", .null)]))) =
        .ok { d with assignment := none } := by
      rw [readCleared, readChanged, hnew.read]
      rfl
    exact .of hmem hperform hread (hagrees _ rfl rfl hlinks)
  · rw [Database.exec_missing hfind (by simp)] at hperform
    exact .of (MemoryStore.clear_of_denied hnone) hperform rfl h

/-! ## Claims -/

theorem preflight_not_refused (h : Agrees s db) {p : Preflight} {new : Json} {others : List Json}
    (hnew : p.Shown new)
    (hothers : ∀ other ∈ others, ∃ q : Preflight, q.Shown other ∧ q.id ≠ p.id) :
    ((db .preflights).indexes.any fun index => index.refuses new others) = false := by
  rw [h.preflightIndexes, ← Bool.not_eq_true, hnew.refused_iff]
  rintro ⟨other, hother, heq⟩
  obtain ⟨q, hq, hne⟩ := hothers other hother
  rw [hq.path_id] at heq
  exact hne (by simpa using heq)

theorem putPreflight (h : Agrees s db) {p : Preflight} (hp : p.Valid)
    (hs : storable p.toJson = true) : Refined store server s db (.putPreflight p) := by
  have hplan : store.plan (.putPreflight p) =
      .send (.replace .preflights (byId p.id) p.toJson) readWritten := if_pos hs
  have hperform : store.perform server db (.putPreflight p) =
      (readWritten (db.exec server (.replace .preflights (byId p.id) p.toJson)).1,
        (db.exec server (.replace .preflights (byId p.id) p.toJson)).2) := by
    rw [MongoStore.perform, hplan]
  have hlinks := MemoryStore.perform_agree h.links (.putPreflight p)
  have hshown := Preflight.shown_toJson hp
  rcases h.preflights.find_cases server fun q doc hshown => hshown.admits_byId p.id with
    ⟨q, doc, hq, hid, hfind, hdoc, hold⟩ | ⟨hnone, hfind⟩
  · have hnew : p.Shown (Database.replaced doc p.toJson) := hshown.setIdentity _
    have hothers := h.preflights.others hdoc hold
    have hfirst : db.first server .preflights (byId p.id) = some doc := hfind
    rw [Database.exec_replaced hfirst, Database.commit_of_accepted
      (h.preflight_not_refused hnew fun other hother => ?_)] at hperform
    · refine .of rfl hperform rfl (h.write_preflight rfl hlinks ?_)
      exact h.preflights.overwrite hdoc hold hid.symm hnew
    · obtain ⟨c, -, hc, hne⟩ := hothers other hother
      exact ⟨c, hc, hid ▸ hne⟩
  · have hnew : p.Shown (Database.identified server p.toJson) := hshown.setIdentity _
    have hfree : s.preflights[p.id]? = none := by
      cases hq : s.preflights[p.id]? with
      | none => rfl
      | some q => exact absurd (h.preflights.document p.id q hq).1 (hnone p.id q hq)
    have hfirst : db.first server .preflights (byId p.id) = none := hfind
    rw [Database.exec_replaced_none hfirst, Database.commit_of_accepted
      (h.preflight_not_refused hnew fun other hother => ?_)] at hperform
    · refine .of rfl hperform rfl (h.write_preflight rfl hlinks ?_)
      exact h.preflights.add hfree hnew
    · obtain ⟨c, hrow, hc⟩ := h.preflights.row other hother
      exact ⟨c, hc, hnone c.id c hrow⟩

theorem claimPreflight (h : Agrees s db) (id userId : String) {t : Instant} (ht : t.Valid) :
    Refined store server s db (.claimPreflight id userId t) := by
  have hperform : store.perform server db (.claimPreflight id userId t) =
      (readChanged Preflight.read (db.exec server (.findAndModify .preflights (usable id userId)
          ⟨[("consumed_at", t.toDate)], []⟩ none)).1,
        (db.exec server (.findAndModify .preflights (usable id userId)
          ⟨[("consumed_at", t.toDate)], []⟩ none)).2) := rfl
  have hlinks := MemoryStore.perform_agree h.links (.claimPreflight id userId t)
  rcases h.usable_cases server id userId with
    ⟨p, doc, hp, rfl, hfind, hdoc, hshown⟩ | ⟨hnone, hfind⟩
  · have hnew := hshown.claimed ht
    have hmem : s.perform (.claimPreflight p.id userId t) =
        (.ok (some { p with consumedAt := some t }),
          { s with preflights := s.preflights.insert p.id { p with consumedAt := some t } }) := by
      simp [MemoryStore.perform, MemoryStore.claimPreflight, hp]
    rw [hmem] at hlinks
    rw [Database.exec_found hfind, Database.commit_of_accepted
      (h.preflight_not_refused hnew fun other hother => ?_)] at hperform
    · have hread : readChanged Preflight.read
          (.value (some (doc.setFields [("consumed_at", t.toDate)]))) =
            .ok (some (Preflight.floorMillis { p with consumedAt := some t })) := by
        rw [readChanged, hnew.read]
        rfl
      refine .of hmem hperform hread (h.write_preflight rfl hlinks ?_)
      exact h.preflights.overwrite hdoc hshown
        (b := { p with consumedAt := some t }) rfl hnew
    · obtain ⟨c, -, hc, hne⟩ := h.preflights.others hdoc hshown other hother
      exact ⟨c, hc, hne⟩
  · have hmem : s.perform (.claimPreflight id userId t) = (.ok none, s) := by
      simp [MemoryStore.perform, MemoryStore.claimPreflight, hnone]
    rw [Database.exec_missing hfind (by simp)] at hperform
    exact .of hmem hperform rfl h

/-! ## Every call, and every run -/

theorem refined (h : Agrees s db) {c : StoreCall} (hc : Covered c) :
    Refined store server s db c := by
  cases hc with
  | getDeployment id => exact h.getDeployment id
  | upsertDeployment d guard => exact h.upsertDeployment d guard
  | findDeployment g => exact h.findDeployment g
  | assignDeployment id p ha => exact h.assignDeployment id p ha
  | clearAssignment id g => exact h.clearAssignment id g
  | putPreflight hp hs => exact h.putPreflight hp hs
  | getPreflight id userId => exact h.getPreflight id userId
  | claimPreflight id userId ht => exact h.claimPreflight id userId ht

theorem run (h : Agrees s db) {calls : List (Server × StoreCall)} (hc : ∀ x ∈ calls, Covered x.2) :
    Agrees (s.run (calls.map (·.2))) (store.run db calls) := by
  induction calls generalizing s db with
  | nil => exact h
  | cons x calls ih =>
    obtain ⟨hx, hc⟩ := List.forall_mem_cons.mp hc
    exact ih (h.refined hx).agrees hc

end Agrees

/-- After any calls on bindings and claims, each carried out by the database in an order of its own,
from empty stores: the next such call is answered by the store over the database as by the store in
memory, with times rounded down to milliseconds. -/
theorem MongoStore.run_refined (store : MongoStore) (pageSize : Nat) (setUp server : Server)
    (calls : List (Server × StoreCall)) (hc : ∀ x ∈ calls, Covered x.2) {c : StoreCall}
    (h : Covered c) :
    (store.perform server (store.run (indexed setUp) calls) c).1 =
      c.floored (((MemoryStore.empty pageSize).run (calls.map (·.2))).perform c).1 :=
  (((Agrees.initial pageSize).run hc).refined h).reply

namespace MongoStore.Contention

def provider : Provider := ⟨"acme", "vault", "1"⟩

def preflight : Preflight := ⟨"p", "alice", [], [], ⟨0, 1⟩, none⟩

/-- The documents are met from the newest to the oldest. -/
def newest : Server :=
  ⟨fun documents => documents, fun _ => .rfl, fun _ documents => documents, .null⟩

/-- The documents are met from the oldest to the newest. -/
def oldest : Server :=
  ⟨List.reverse, List.reverse_perm, fun _ documents => documents, .string "1"⟩

/-- Two deployments, of which the first is bound to a target group, and a preflight. -/
def calls : List (Server × StoreCall) :=
  [(newest, .upsertDeployment ⟨"d", provider, none, [], none⟩ .any),
    (oldest, .upsertDeployment ⟨"e", provider, none, [], none⟩ .unassigned),
    (oldest, .assignDeployment "d" provider ⟨"g", 0, []⟩), (newest, .putPreflight preflight)]

theorem covered : ∀ x ∈ calls, Covered x.2 := by
  have hvalid : preflight.Valid := ⟨⟨by decide +kernel, by decide +kernel⟩, by simp [preflight]⟩
  simp only [calls, List.forall_mem_cons]
  exact ⟨.upsertDeployment _ _, .upsertDeployment _ _,
    .assignDeployment _ _ (by simp [Assignment.Fits]), .putPreflight hvalid (by decide +kernel),
    by simp⟩

def store : MongoStore := .ofPageSize "grants" 0

/-- The target group is taken, and the preflight is claimed at a time within a millisecond. -/
theorem refused_and_claimed :
    (store.perform newest (store.run (indexed newest) calls)
      (.assignDeployment "e" provider ⟨"g", 1, []⟩)).1 = .error .conditionFailed ∧
    (store.perform oldest (store.run (indexed newest) calls)
      (.claimPreflight "p" "alice" ⟨7, 1500000⟩)).1 =
        .ok (some { preflight with createdAt := ⟨0, 0⟩, consumedAt := some ⟨7, 1000000⟩ }) := by
  have hassign := store.run_refined 1 newest newest calls covered
    (.assignDeployment "e" provider (a := ⟨"g", 1, []⟩) (by simp [Assignment.Fits]))
  have hclaim := store.run_refined 1 newest oldest calls covered
    (.claimPreflight "p" "alice" (t := ⟨7, 1500000⟩) ⟨by decide +kernel, by decide +kernel⟩)
  refine ⟨hassign.trans ?_, hclaim.trans ?_⟩
  · decide +kernel
  · decide +kernel

end MongoStore.Contention

end AccessGrants
