import AccessGrants.Mongo.Plan
import AccessGrants.Proofs.Store.Listings
import Mathlib.Data.List.Forall2

/-!
# AccessGrants.Proofs.Mongo.Pages

The pages of the store over a database. It asks for one row more than a page holds and learns from
that row whether there is a next page; the store in memory counts its items.

* `Window.shown`     — what a database shows of the matching documents.
* `rowLimit_eq`      — the number of rows that is asked for, where it fits a signed word.
* `pageOf_window`    — the rows of a window make the page of the whole list.
* `findPage_reads`   — so the answer to the one command of a listing is read as that page.
* `pages_agree`      — every listing of the two stores, page by page.
-/

namespace AccessGrants

/-- Of the documents in their order, those from a position on, and at most as many as the limit. -/
def Window.shown (w : Window) (documents : List Json) : List Json :=
  (documents.drop w.skip).take w.limit.toNat

namespace MongoStore

variable {decode : Decoder α} {items : List α} {documents : List Json} {offset size : Nat}
  {token : Option String}

theorem rowLimit_eq (h : size + 1 ≤ Word.greatestSigned) : rowLimit size = (size + 1 : Nat) := by
  have hcount : (Word.count : Int) = 18446744073709551616 := rfl
  rw [Word.greatestSigned] at h
  rw [rowLimit]
  refine Int.bmod_eq_of_le_mul_two ?_ ?_
  · rw [hcount]
    omega
  · rw [hcount]
    omega

theorem sum_le (hoffset : offset ≤ Word.greatestSigned) (hsize : size + 1 ≤ Word.greatestSigned) :
    offset + size ≤ Word.greatest := by
  rw [Word.greatestSigned] at hoffset hsize
  rw [Word.greatest]
  omega

theorem sum_mod (h : offset + size ≤ Word.greatest) : (offset + size) % Word.count = offset + size :=
  Nat.mod_eq_of_lt (Nat.lt_succ_of_le h)

/-- A row beyond the page is there exactly when the list goes on after the page. -/
theorem pageOf_window (items : List α) (hsum : offset + size ≤ Word.greatest) :
    pageOf size offset ((items.drop offset).take (size + 1)) = paginate items offset size := by
  by_cases h : size < (items.drop offset).length
  · have hrows : ((items.drop offset).take (size + 1)).length = size + 1 :=
      List.length_take_of_le h
    rw [pageOf, hrows, if_pos (Nat.lt_succ_self size), List.take_take, paginate_more h,
      Nat.min_eq_left (Nat.le_succ size), sum_mod hsum]
  · have hle : (items.drop offset).length ≤ size := Nat.le_of_not_lt h
    rw [List.take_of_length_le (Nat.le_succ_of_le hle), pageOf, if_neg h, paginate_last hle]

/-- The documents are read as these items, one by one. -/
def Stand (decode : Decoder α) : List Json → List α → Prop :=
  List.Forall₂ fun doc a => readDocument decode doc = .ok a

theorem Stand.readAll (h : Stand decode documents items) :
    readAll decode (.documents documents) = .ok items := by
  show documents.mapM (readDocument decode) = .ok items
  induction h with
  | nil => rfl
  | cons hd _ ih =>
    rw [List.mapM_cons, hd, ih]
    rfl

theorem Stand.window (h : Stand decode documents items) (from_ count : Nat) :
    Stand decode ((documents.drop from_).take count) ((items.drop from_).take count) :=
  List.forall₂_take count (List.forall₂_drop from_ h)

/-- An offset that is a signed word can be sent, whatever the size of a page. -/
theorem findPage_sends (store : MongoStore) (collection : Collection) (filter : Filter)
    (sort : Sorting) (decode : Decoder α) (ht : PageToken.decode token = .ok offset)
    (h : offset ≤ Word.greatestSigned) :
    store.findPage collection filter sort decode token =
      .send (.find collection filter (some ⟨sort, offset, rowLimit store.pageSize⟩)) fun reply =>
        (readAll decode reply).map (pageOf store.pageSize offset) := by
  simp only [findPage, ht]
  exact if_neg (Nat.not_lt.mpr h)

theorem findPage_eq (store : MongoStore) (collection : Collection) (filter : Filter) (sort : Sorting)
    (decode : Decoder α) (ht : PageToken.decode token = .ok offset)
    (hoffset : offset ≤ Word.greatestSigned) (hsize : store.pageSize + 1 ≤ Word.greatestSigned) :
    store.findPage collection filter sort decode token =
      .send (.find collection filter (some ⟨sort, offset, (store.pageSize + 1 : Nat)⟩)) fun reply =>
        (readAll decode reply).map (pageOf store.pageSize offset) := by
  rw [findPage_sends store collection filter sort decode ht hoffset, rowLimit_eq hsize]

theorem Stand.page (h : Stand decode documents items) (sort : Sorting)
    (hsum : offset + size ≤ Word.greatest) :
    (MongoStore.readAll decode
      (.documents (Window.shown ⟨sort, offset, (size + 1 : Nat)⟩ documents))).map
        (pageOf size offset) = .ok (paginate items offset size) := by
  have hrows : MongoStore.readAll decode
      (.documents (Window.shown ⟨sort, offset, (size + 1 : Nat)⟩ documents)) =
        .ok ((items.drop offset).take (size + 1)) := (h.window offset (size + 1)).readAll
  rw [hrows, ← pageOf_window items hsum]
  rfl

/-- Whatever is listed, in pages of whatever size, and from whatever token on, as long as the size
with one more and the offset fit a signed word: one command is sent. When the database shows of the
matching documents in their order the rows from the offset on, one more than a page at most, they are
read as the page that the list of all items has at this offset, with the same token for the next. -/
theorem findPage_reads (store : MongoStore) (collection : Collection) (filter : Filter)
    (sort : Sorting) (decode : Decoder α) (token : Option String) (offset : Nat)
    (ht : PageToken.decode token = .ok offset) (hoffset : offset ≤ Word.greatestSigned)
    (hsize : store.pageSize + 1 ≤ Word.greatestSigned) :
    ∃ window read, store.findPage collection filter sort decode token =
        .send (.find collection filter (some window)) read ∧
      window.sort = sort ∧ window.skip = offset ∧ window.limit = store.pageSize + 1 ∧
      ∀ documents items, Stand decode documents items →
        read (.documents (window.shown documents)) = .ok (paginate items offset store.pageSize) :=
  ⟨_, _, findPage_eq store collection filter sort decode ht hoffset hsize, rfl, rfl, rfl,
    fun _ _ h => h.page sort (sum_le hoffset hsize)⟩

namespace FiveTargets

def target (id : String) : Target := ⟨id, "aws", "rule", ∅, .ofNames ["ops"], ∅⟩

def targets : List Target := ["a", "b", "c", "d", "e"].map target

def store : MongoStore := ⟨"access", 2⟩

/-- From an offset between two pages on; the third row of the window is not part of the page. -/
theorem second_page :
    ∃ window read, store.findPage .targets [] inIdOrder Target.read (some (PageToken.encode 1)) =
        .send (.find .targets [] (some window)) read ∧
      read (.documents (window.shown (targets.map Target.toJson))) =
        .ok ⟨[target "b", target "c"], some (PageToken.encode 3)⟩ := by
  obtain ⟨window, read, hplan, -, -, -, hread⟩ := findPage_reads store .targets [] inIdOrder
    Target.read (some (PageToken.encode 1)) 1 (by decide +kernel) (by decide) (by decide)
  have hstand : Stand Target.read (targets.map Target.toJson) targets :=
    .cons (by decide +kernel) (.cons (by decide +kernel) (.cons (by decide +kernel)
      (.cons (by decide +kernel) (.cons (by decide +kernel) .nil))))
  exact ⟨window, read, hplan, hread _ _ hstand⟩

end FiveTargets

end MongoStore

/-! ## The listings -/

namespace Listing

open MongoStore

def plan (store : MongoStore) : (l : Listing) → Option String → Plan (Page l.Item)
  | targetGroups, token => store.plan (.listTargetGroups token)
  | targets, token => store.plan (.listTargets token)
  | requests, token => store.plan (.listRequests token)
  | requestsFor userId, token => store.plan (.listRequestsFor userId token)

def collection : Listing → Collection
  | targetGroups => .targetGroups
  | targets => .targets
  | requests | requestsFor _ => .requests

def filter : Listing → Filter
  | targetGroups | targets | requests => []
  | requestsFor userId => [("requested_by.id", .string userId)]

def sort : Listing → Sorting
  | targetGroups | targets => inIdOrder
  | requests | requestsFor _ => newestFirst

def reader : (l : Listing) → Decoder l.Item
  | targetGroups => TargetGroup.read
  | targets => Target.read
  | requests | requestsFor _ => AccessRequest.read

theorem plan_eq (store : MongoStore) (l : Listing) (token : Option String) :
    l.plan store token = store.findPage l.collection l.filter l.sort l.reader token := by
  cases l <;> rfl

/-- When the documents of a listing stand for the items of the store in memory, both stores list the
same page under the same token. -/
theorem pages_agree (store : MongoStore) (s : MemoryStore) (l : Listing) {token : Option String}
    {offset : Nat} (ht : PageToken.decode token = .ok offset) (hoffset : offset ≤ Word.greatestSigned)
    (hsize : store.pageSize + 1 ≤ Word.greatestSigned) (hsame : s.pageSize = store.pageSize)
    {documents : List Json} (h : Stand l.reader documents (l.items s)) :
    ∃ window read, l.plan store token = .send (.find l.collection l.filter (some window)) read ∧
      read (.documents (window.shown documents)) = l.page s token := by
  refine ⟨_, _, (l.plan_eq store token).trans
    (findPage_eq store l.collection l.filter l.sort l.reader ht hoffset hsize), ?_⟩
  rw [h.page _ (sum_le hoffset hsize), page_of_decode ht, hsame]

end Listing

end AccessGrants
