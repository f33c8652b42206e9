import AccessGrants.Proofs.Store.Pages
import AccessGrants.Proofs.Store.Rows

/-!
# AccessGrants.Proofs.Store.Listings

The listings of the store in memory, from the first page to the last.

* `Listing`         — what may be listed.
* `Listing.Lists`   — what a listing is made of.
* `Listing.Before`  — what stands before what in it.
* `sorted_eq`       — in whatever order a table yields its rows, they are listed in the same order.
* `run_listings`    — following the tokens leads through all of a listing, and every token to its
                      slice.
-/

namespace AccessGrants

/-- What may be listed. -/
inductive Listing where
  | targetGroups
  | targets
  | requests
  | requestsFor (userId : String)

namespace Listing

abbrev Item : Listing → Type
  | targetGroups => TargetGroup
  | targets => Target
  | requests | requestsFor _ => AccessRequest

def call : Listing → Option String → StoreCall
  | targetGroups => .listTargetGroups
  | targets => .listTargets
  | requests => .listRequests
  | requestsFor userId => .listRequestsFor userId

/-- The answer of the call. -/
def page (s : MemoryStore) : (l : Listing) → Option String → Except StoreError (Page l.Item)
  | targetGroups, token => (s.perform (.listTargetGroups token)).1
  | targets, token => (s.perform (.listTargets token)).1
  | requests, token => (s.perform (.listRequests token)).1
  | requestsFor userId, token => (s.perform (.listRequestsFor userId token)).1

/-- The matching rows of the table. -/
def rows (s : MemoryStore) : (l : Listing) → List l.Item
  | targetGroups => s.targetGroups.values
  | targets => s.targets.values
  | requests => s.requests.values
  | requestsFor userId => s.requests.values.filter fun r => r.requestedBy.id = userId

/-- Whether a listing of a store has an item. -/
def Lists (s : MemoryStore) : (l : Listing) → l.Item → Prop
  | targetGroups, group => ∃ k : String, s.targetGroups[k]? = some group
  | targets, target => ∃ k : String, s.targets[k]? = some target
  | requests, r => ∃ k : String, s.requests[k]? = some r
  | requestsFor userId, r => r.requestedBy.id = userId ∧ ∃ k : String, s.requests[k]? = some r

/-- The comparison by which the rows are sorted. -/
def order : (l : Listing) → l.Item → l.Item → Bool
  | targetGroups => TargetGroup.byId
  | targets => Target.byId
  | requests | requestsFor _ => AccessRequest.newestFirst

def id : (l : Listing) → l.Item → String
  | targetGroups => TargetGroup.id
  | targets => Target.id
  | requests | requestsFor _ => AccessRequest.id

/-- Groups and targets stand by id, requests from the newest to the oldest and those of one time by
id. -/
def Before : (l : Listing) → l.Item → l.Item → Prop
  | targetGroups, a, b => a.id < b.id
  | targets, a, b => a.id < b.id
  | requests, a, b | requestsFor _, a, b =>
    b.createdAt < a.createdAt ∨ (a.createdAt = b.createdAt ∧ a.id < b.id)

end Listing

/-! ## The orders -/

theorem Instant.lt_trans {a b c : Instant} (hab : a < b) (hbc : b < c) : a < c := by
  rw [Instant.lt_iff] at *
  omega

theorem Instant.not_lt_of_lt {a b : Instant} (h : a < b) : ¬ b < a := by
  rw [Instant.lt_iff] at *
  omega

theorem Instant.lt_irrefl (a : Instant) : ¬ a < a := by
  rw [Instant.lt_iff]
  omega

theorem Instant.lt_or_eq_or_gt (a b : Instant) : a < b ∨ a = b ∨ b < a := by
  obtain ⟨s, n⟩ := a
  obtain ⟨s', n'⟩ := b
  simp only [Instant.lt_iff, Instant.mk.injEq]
  omega

theorem AccessRequest.newestFirst_iff {a b : AccessRequest} :
    newestFirst a b = true ↔
      b.createdAt < a.createdAt ∨ (a.createdAt = b.createdAt ∧ a.id ≤ b.id) := by
  simp [newestFirst]

theorem AccessRequest.newestFirst_trans {a b c : AccessRequest} (hab : newestFirst a b = true)
    (hbc : newestFirst b c = true) : newestFirst a c = true := by
  rw [newestFirst_iff] at *
  rcases hab with hab | ⟨hab, hid⟩
  · rcases hbc with hbc | ⟨hbc, -⟩
    · exact .inl (Instant.lt_trans hbc hab)
    · exact .inl (hbc ▸ hab)
  · rcases hbc with hbc | ⟨hbc, hid'⟩
    · exact .inl (hab ▸ hbc)
    · exact .inr ⟨hab.trans hbc, hid.trans hid'⟩

theorem AccessRequest.newestFirst_total (a b : AccessRequest) :
    newestFirst a b = true ∨ newestFirst b a = true := by
  simp only [newestFirst_iff]
  rcases Instant.lt_or_eq_or_gt a.createdAt b.createdAt with h | h | h
  · exact .inr (.inl h)
  · rcases le_total a.id b.id with hid | hid
    · exact .inl (.inr ⟨h, hid⟩)
    · exact .inr (.inr ⟨h.symm, hid⟩)
  · exact .inl (.inl h)

theorem AccessRequest.newestFirst_antisymm {a b : AccessRequest} (hab : newestFirst a b = true)
    (hba : newestFirst b a = true) : a.id = b.id := by
  rw [newestFirst_iff] at *
  rcases hab with hab | ⟨hab, hid⟩
  · rcases hba with hba | ⟨hba, -⟩
    · exact absurd hba (Instant.not_lt_of_lt hab)
    · exact absurd (hba ▸ hab) (Instant.lt_irrefl _)
  · rcases hba with hba | ⟨-, hid'⟩
    · exact absurd (hab ▸ hba) (Instant.lt_irrefl _)
    · exact le_antisymm hid hid'

namespace Listing

variable {l : Listing} {a b c : l.Item}

theorem order_trans (hab : l.order a b = true) (hbc : l.order b c = true) :
    l.order a c = true := by
  cases l with
  | targetGroups =>
    simp only [order, TargetGroup.byId, decide_eq_true_eq] at *
    exact hab.trans hbc
  | targets =>
    simp only [order, Target.byId, decide_eq_true_eq] at *
    exact hab.trans hbc
  | requests => exact AccessRequest.newestFirst_trans hab hbc
  | requestsFor userId => exact AccessRequest.newestFirst_trans hab hbc

theorem order_total (a b : l.Item) : (l.order a b || l.order b a) = true := by
  rw [Bool.or_eq_true]
  cases l with
  | targetGroups =>
    simp only [order, TargetGroup.byId, decide_eq_true_eq]
    exact le_total _ _
  | targets =>
    simp only [order, Target.byId, decide_eq_true_eq]
    exact le_total _ _
  | requests => exact AccessRequest.newestFirst_total a b
  | requestsFor userId => exact AccessRequest.newestFirst_total a b

/-- Items with different ids are never level. -/
theorem before_of_order (h : l.order a b = true) (hid : l.id a ≠ l.id b) : l.Before a b := by
  cases l with
  | targetGroups =>
    simp only [order, TargetGroup.byId, decide_eq_true_eq] at h
    exact lt_of_le_of_ne h hid
  | targets =>
    simp only [order, Target.byId, decide_eq_true_eq] at h
    exact lt_of_le_of_ne h hid
  | requests =>
    exact (AccessRequest.newestFirst_iff.mp h).imp_right fun hle => ⟨hle.1, lt_of_le_of_ne hle.2 hid⟩
  | requestsFor userId =>
    exact (AccessRequest.newestFirst_iff.mp h).imp_right fun hle => ⟨hle.1, lt_of_le_of_ne hle.2 hid⟩

/-- Level items have one id. -/
theorem id_eq_of_order (hab : l.order a b = true) (hba : l.order b a = true) : l.id a = l.id b := by
  cases l with
  | targetGroups =>
    simp only [order, TargetGroup.byId, decide_eq_true_eq] at hab hba
    exact le_antisymm hab hba
  | targets =>
    simp only [order, Target.byId, decide_eq_true_eq] at hab hba
    exact le_antisymm hab hba
  | requests => exact AccessRequest.newestFirst_antisymm hab hba
  | requestsFor userId => exact AccessRequest.newestFirst_antisymm hab hba

/-! ## The rows -/

section Rows

variable {s : MemoryStore}

theorem page_eq (s : MemoryStore) (l : Listing) (token : Option String) :
    l.page s token = s.pageOf (l.rows s) l.order token := by
  cases l <;> rfl

theorem perform_call (s : MemoryStore) (l : Listing) (token : Option String) :
    (s.perform (l.call token)).2 = s := by
  cases l <;> rfl

theorem mem_rows {x : l.Item} : x ∈ l.rows s ↔ l.Lists s x := by
  cases l with
  | requestsFor userId =>
    rw [rows, List.mem_filter, MemoryStore.mem_values, and_comm, decide_eq_true_eq]
    rfl
  | _ => exact MemoryStore.mem_values

theorem rows_distinct (h : s.Filed) (l : Listing) :
    (l.rows s).Pairwise fun a b => l.id a ≠ l.id b := by
  cases l with
  | targetGroups => exact h.targetGroups.increasing.imp ne_of_lt
  | targets => exact h.targets.increasing.imp ne_of_lt
  | requests => exact h.requests.increasing.imp ne_of_lt
  | requestsFor userId => exact (h.requests.increasing.imp ne_of_lt).filter _

theorem eq_of_id (h : s.Filed) (ha : a ∈ l.rows s) (hb : b ∈ l.rows s) (hid : l.id a = l.id b) :
    a = b := by
  cases l with
  | targetGroups => exact h.targetGroups.eq_of_id ha hb hid
  | targets => exact h.targets.eq_of_id ha hb hid
  | requests => exact h.requests.eq_of_id ha hb hid
  | requestsFor userId =>
    exact h.requests.eq_of_id (List.mem_of_mem_filter ha) (List.mem_of_mem_filter hb) hid

/-- The items in the order in which they are listed. -/
def items (s : MemoryStore) (l : Listing) : List l.Item :=
  (l.rows s).mergeSort l.order

theorem items_perm (s : MemoryStore) (l : Listing) : (l.items s).Perm (l.rows s) :=
  List.mergeSort_perm _ _

theorem mem_items {x : l.Item} : x ∈ l.items s ↔ l.Lists s x :=
  (l.items_perm s).mem_iff.trans mem_rows

theorem sorted (stored : List l.Item) :
    (stored.mergeSort l.order).Pairwise fun a b => l.order a b = true :=
  List.pairwise_mergeSort (fun _ _ _ => order_trans) order_total stored

theorem items_distinct (h : s.Filed) (l : Listing) :
    (l.items s).Pairwise fun a b => l.id a ≠ l.id b :=
  ((l.items_perm s).pairwise_iff fun hab => Ne.symm hab).mpr (rows_distinct h l)

theorem items_before (h : s.Filed) (l : Listing) : (l.items s).Pairwise l.Before :=
  ((sorted (l.rows s)).and (items_distinct h l)).imp fun hab => before_of_order hab.1 hab.2

/-- The order of the rows in the table has no part in the order of the items. -/
theorem sorted_eq (h : s.Filed) {stored : List l.Item} (hp : stored.Perm (l.rows s)) :
    stored.mergeSort l.order = l.items s := by
  have hperm : (stored.mergeSort l.order).Perm (l.items s) :=
    (List.mergeSort_perm _ _).trans (hp.trans (l.items_perm s).symm)
  refine List.Perm.eq_of_pairwise (fun a b ha hb hab hba => ?_) (sorted stored) (sorted (l.rows s))
    hperm
  have ha : a ∈ l.rows s := (l.items_perm s).mem_iff.mp (hperm.mem_iff.mp ha)
  exact eq_of_id h ha ((l.items_perm s).mem_iff.mp hb) (id_eq_of_order hab hba)

theorem page_of_decode {token : Option String} {offset : Nat}
    (ht : PageToken.decode token = .ok offset) :
    l.page s token = .ok (paginate (l.items s) offset s.pageSize) := by
  rw [page_eq, MemoryStore.pageOf, ht]
  rfl

end Rows

/-- For every listing of a store that any calls have made of an empty one, in pages of any size: there
is one list of the matching items, each once and in order, that the pages from the first one on make
up. Following the tokens comes to an end; all pages but the last are full, and the last is empty
only for an empty listing. A token leads to the slice that starts at its offset, every offset that
fits a word has one, and what is added up fits a word as well, since a table has no more rows than a
word counts. The calls leave the store as it is, and the order in which a table yields its rows makes
no difference to any page. -/
theorem run_listings (pageSize : Nat) (calls : List StoreCall) (l : Listing)
    (hfit : (l.rows ((MemoryStore.empty pageSize).run calls)).length ≤ Word.greatest) :
    let s := (MemoryStore.empty pageSize).run calls
    let size := max pageSize 1
    ∃ items : List l.Item,
      items.Nodup ∧ items.Pairwise l.Before ∧ (∀ x, x ∈ items ↔ l.Lists s x) ∧
      (∃ pages, Walk (l.page s) none pages ∧ Splits size items pages ∧
        ∀ others, Walk (l.page s) none others → others = pages) ∧
      (∀ token offset, PageToken.decode (some token) = .ok offset →
        ∃ page, l.page s (some token) = .ok page ∧ page.items = (items.drop offset).take size ∧
          offset + page.items.length ≤ Word.greatest) ∧
      (∀ offset ≤ Word.greatest, PageToken.decode (some (PageToken.encode offset)) = .ok offset) ∧
      (∀ token, (s.perform (l.call token)).2 = s) ∧
      ∀ stored, stored.Perm (l.rows s) → ∀ token, s.pageOf stored l.order token = l.page s token := by
  intro s size
  have hfiled : s.Filed := MemoryStore.run_filed pageSize calls
  have hsize : s.pageSize = size := MemoryStore.run_pageSize _ calls
  have hpos : 0 < size := Nat.lt_of_lt_of_le Nat.one_pos (Nat.le_max_right _ _)
  have hlen : (l.items s).length ≤ Word.greatest := by
    rw [(l.items_perm s).length_eq]
    exact hfit
  have hpage : ∀ token offset, PageToken.decode token = .ok offset →
      l.page s token = .ok (paginate (l.items s) offset size) := by
    intro token offset ht
    rw [page_of_decode ht, hsize]
  refine ⟨l.items s, (items_distinct hfiled l).imp fun h => ne_of_apply_ne l.id h,
    items_before hfiled l, fun x => mem_items, ?_, fun token offset ht => ?_,
    fun offset => PageToken.decode_encode, l.perform_call s, fun stored hp token => ?_⟩
  · have hfirst : PageToken.decode none = .ok 0 := rfl
    obtain ⟨pages, hwalk, hsplits⟩ := exists_walk hpos hlen hpage hfirst
    exact ⟨pages, hwalk, hsplits, fun others h => h.unique hwalk⟩
  · exact ⟨_, hpage _ _ ht, rfl, paginate_within (PageToken.decode_le ht) hlen⟩
  · rw [page_eq, MemoryStore.pageOf, MemoryStore.pageOf, sorted_eq hfiled hp]
    rfl

namespace ThreeRequests

def request (id : String) (seconds : Int) : AccessRequest :=
  ⟨id, "p", ⟨"alice", "alice@acme.com"⟩, none, [], ∅, ⟨seconds, 0⟩, ⟨seconds, 0⟩⟩

/-- Two requests of one time, and a newer one. -/
def calls : List StoreCall :=
  [.putRequest (request "b" 1), .putRequest (request "c" 2), .putRequest (request "a" 1)]

/-- In pages of two there is one page for the newer one and the first of the others, and one for the
rest. -/
theorem two_pages :
    (Listing.requests.rows ((MemoryStore.empty 2).run calls)).length ≤ Word.greatest ∧
    ∃ pages, Walk (Listing.requests.page ((MemoryStore.empty 2).run calls)) none pages ∧
      pages.map (fun p => p.items.map (·.id)) = [["c", "a"], ["b"]] := by
  have hfit : (Listing.requests.rows ((MemoryStore.empty 2).run calls)).length ≤ Word.greatest := by
    decide +kernel
  obtain ⟨items, -, -, -, ⟨pages, hwalk, -, hunique⟩, -, -, -, hstored⟩ :=
    run_listings 2 calls Listing.requests hfit
  have hpage := hstored [request "c" 2, request "a" 1, request "b" 1] (by decide +kernel)
  have hsort : [request "c" 2, request "a" 1, request "b" 1].mergeSort AccessRequest.newestFirst =
      [request "c" 2, request "a" 1, request "b" 1] := List.mergeSort_of_pairwise (by decide)
  have walked : Walk (Listing.requests.page ((MemoryStore.empty 2).run calls)) none
      [⟨[request "c" 2, request "a" 1], some (PageToken.encode 2)⟩, ⟨[request "b" 1], none⟩] := by
    refine .more ((hpage _).symm.trans ?_) (.last ((hpage _).symm.trans ?_))
    · simp only [MemoryStore.pageOf, order, hsort]
      decide +kernel
    · simp only [MemoryStore.pageOf, order, hsort]
      decide +kernel
  refine ⟨hfit, pages, hwalk, ?_⟩
  rw [← hunique _ walked]
  rfl

end ThreeRequests

end Listing
end AccessGrants
