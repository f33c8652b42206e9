import AccessGrants.Application
import AccessGrants.Proofs.Mongo.Pages
import AccessGrants.Proofs.Settings.Reading

/-!
# AccessGrants.Proofs.Mongo.PageRange

The numbers of a page: how many rows are asked for, from which on, and where the next page begins. The
page size comes from the settings and the offset from a token, each a word of its own; they meet in a
command whose numbers are signed words.

* `ExactPage`           — the numbers of a page are those that are meant.
* `rowLimit_pos_iff`    — a positive number of rows is asked for where one more fits a signed word.
* `exactPage_iff`       — just there the numbers are exact, for every token.
* `paging_in_range_iff` — all of it for the settings that are accepted.
-/

namespace AccessGrants

namespace MongoStore

variable {decode : Decoder α} {token : Option String} {offset size : Nat}

/-- The plan of a page asks for one row more than a page holds, from the offset on; when the database
sends so many, the next page begins where this one ends. -/
structure ExactPage (size offset : Nat) (plan : Plan (Page α)) : Prop where
  asks : ∀ collection filter window read,
    plan = .send (.find collection filter (some window)) read →
      window.skip = offset ∧ window.limit = size + 1
  goes_on : ∀ command read documents page,
    plan = .send command read → read (.documents documents) = .ok page → size < documents.length →
      ∃ next, page.next = some next ∧ PageToken.decode (some next) = .ok (offset + size)

theorem length_of_readAll {documents : List Json} {items : List α}
    (h : readAll decode (.documents documents) = .ok items) : items.length = documents.length := by
  change documents.mapM (readDocument decode) = .ok items at h
  induction documents generalizing items with
  | nil =>
    cases h
    rfl
  | cons d documents ih =>
    rw [List.mapM_cons] at h
    obtain ⟨a, -, h⟩ := exists_of_bind_eq_ok h
    obtain ⟨rest, hrest, h⟩ := exists_of_bind_eq_ok h
    cases h
    rw [List.length_cons, List.length_cons, ih hrest]

theorem rowLimit_le (size : Nat) : rowLimit size ≤ Word.greatestSigned := by
  have hlt := Int.bmod_lt (x := (size : Int) + 1) (m := Word.count) (by decide)
  have hhalf : ((Word.count : Int) + 1) / 2 = Word.greatestSigned + 1 := by decide
  rw [rowLimit]
  omega

/-- One more than such a size is no signed word, and what stands for it is not positive. -/
theorem rowLimit_wrapped (hsize : size ≤ Word.greatest) (h : Word.greatestSigned < size + 1) :
    rowLimit size = (size : Int) + 1 - Word.count := by
  have hcount : (Word.count : Int) = 18446744073709551616 := rfl
  rw [Word.greatest] at hsize
  rw [Word.greatestSigned] at h
  rw [rowLimit, ← Int.sub_bmod_right]
  refine Int.bmod_eq_of_le_mul_two ?_ ?_
  · rw [hcount]
    omega
  · rw [hcount]
    omega

theorem rowLimit_pos_iff (hsize : size ≤ Word.greatest) :
    0 < rowLimit size ↔ size + 1 ≤ Word.greatestSigned := by
  constructor
  · intro hpos
    refine Nat.le_of_not_lt fun h => ?_
    have hcount : (Word.count : Int) = Word.greatest + 1 := rfl
    rw [rowLimit_wrapped hsize h, hcount] at hpos
    omega
  · intro h
    rw [rowLimit_eq h]
    exact Int.natCast_pos.mpr (Nat.succ_pos size)

theorem findPage_beyond (store : MongoStore) (collection : Collection) (filter : Filter)
    (sort : Sorting) (decode : Decoder α) (ht : PageToken.decode token = .ok offset)
    (h : Word.greatestSigned < offset) :
    store.findPage collection filter sort decode token = .refuse unsendable := by
  simp only [findPage, ht]
  exact if_pos h

theorem next_of_read {documents : List Json} {page : Page α} (hsum : offset + size ≤ Word.greatest)
    (h : (readAll decode (.documents documents)).map (pageOf size offset) = .ok page)
    (hmore : size < documents.length) :
    ∃ next, page.next = some next ∧ PageToken.decode (some next) = .ok (offset + size) := by
  obtain ⟨items, hitems, rfl⟩ := exists_of_map_eq_ok h
  rw [← length_of_readAll hitems] at hmore
  rw [pageOf, if_pos hmore, sum_mod hsum]
  exact ⟨_, rfl, PageToken.decode_encode hsum⟩

theorem exactPage_of_fits (store : MongoStore) (collection : Collection) (filter : Filter)
    (sort : Sorting) (decode : Decoder α) (hsize : store.pageSize + 1 ≤ Word.greatestSigned)
    (ht : PageToken.decode token = .ok offset) :
    ExactPage store.pageSize offset (store.findPage collection filter sort decode token) := by
  by_cases hoffset : offset ≤ Word.greatestSigned
  · rw [findPage_eq store collection filter sort decode ht hoffset hsize]
    constructor
    · intro _ _ window read h
      cases h
      exact ⟨rfl, rfl⟩
    · intro _ read documents page h hread hmore
      cases h
      exact next_of_read (sum_le hoffset hsize) hread hmore
  · rw [findPage_beyond store collection filter sort decode ht (Nat.lt_of_not_le hoffset)]
    constructor
    · intro _ _ _ _ h
      cases h
    · intro _ _ _ _ h
      cases h

theorem exactPage_iff (store : MongoStore) (collection : Collection) (filter : Filter)
    (sort : Sorting) (decode : Decoder α) :
    (∀ token offset, PageToken.decode token = .ok offset →
      ExactPage store.pageSize offset (store.findPage collection filter sort decode token)) ↔
      store.pageSize + 1 ≤ Word.greatestSigned := by
  constructor
  · intro h
    obtain ⟨-, hlimit⟩ := (h none 0 rfl).asks _ _ _ _
      (findPage_sends store collection filter sort decode rfl (Nat.zero_le _))
    dsimp only at hlimit
    have hle := rowLimit_le store.pageSize
    rw [hlimit] at hle
    omega
  · intro hsize _ _ ht
    exact exactPage_of_fits store collection filter sort decode hsize ht

theorem pageSize_ofSettings {s : Settings} (h : 0 < s.pageSize) :
    (Application.ofSettings s).store.pageSize = s.pageSize :=
  if_neg (Nat.ne_of_gt h)

/-- For all settings that are accepted: the numbers of a page are exact, whatever the token, if and
only if the page size with one more is a signed word. A token whose offset is none is refused before
anything is sent; with any other token the rows are asked for, and a page size without that room asks
for a number that is not positive. -/
theorem paging_in_range_iff {order : RowOrder} {vars : Variables} {s : Settings}
    (h : Settings.ofVariables order vars = .ok s) (collection : Collection) (filter : Filter)
    (sort : Sorting) (decode : Decoder α) :
    ((∀ token offset, PageToken.decode token = .ok offset →
        ExactPage s.pageSize offset
          ((Application.ofSettings s).store.findPage collection filter sort decode token)) ↔
      s.pageSize + 1 ≤ Word.greatestSigned) ∧
    ∀ token offset, PageToken.decode token = .ok offset →
      (Word.greatestSigned < offset →
        (Application.ofSettings s).store.findPage collection filter sort decode token =
          .refuse unsendable) ∧
      (offset ≤ Word.greatestSigned →
        ∃ window read, (Application.ofSettings s).store.findPage collection filter sort decode token =
            .send (.find collection filter (some window)) read ∧
          (0 < window.limit ↔ s.pageSize + 1 ≤ Word.greatestSigned)) := by
  obtain ⟨hpos, hword⟩ := Settings.pageSize_of_ofVariables h
  have hsize := pageSize_ofSettings hpos
  refine ⟨?_, fun token offset ht => ⟨fun hoffset => ?_, fun hoffset => ?_⟩⟩
  · rw [← hsize]
    exact exactPage_iff _ collection filter sort decode
  · exact findPage_beyond _ collection filter sort decode ht hoffset
  · refine ⟨_, _, findPage_sends _ collection filter sort decode ht hoffset, ?_⟩
    dsimp only
    rw [hsize]
    exact rowLimit_pos_iff hword

namespace PageSizes

def named : Variables :=
  [("MONGODB_URI", "mongodb://db"), ("PROVIDER_REGISTRY_URL", "http://registry"),
    ("ARG_OPTIONS_URL", "http://options")]

def settings (pageSize : Nat) : Settings :=
  { port := 8080, environment := .dev, logLevel := "info", serviceName := "access-service",
    mongoUri := "mongodb://db", mongoDatabase := "access_db", pageSize,
    registryUrl := "http://registry", registryTimeout := 10, argOptionsUrl := "http://options",
    adminGroup := "access_admins", schemaValidation := .deferred, policy := .standard,
    otlpEndpoint := none }

/-- The smallest power of two that is no signed word is accepted, and asks for a negative number. -/
theorem asks_negative :
    Settings.ofVariables id (("STORE_PAGE_SIZE", "9223372036854775808") :: named) =
      .ok (settings 9223372036854775808) ∧
    ∃ read, (Application.ofSettings (settings 9223372036854775808)).store.plan (.listTargetGroups none) =
      .send (.find .targetGroups [] (some ⟨inIdOrder, 0, -9223372036854775807⟩)) read := by
  have hlimit : rowLimit 9223372036854775808 = -9223372036854775807 := by decide +kernel
  have hsize : (Application.ofSettings (settings 9223372036854775808)).store.pageSize =
      9223372036854775808 := pageSize_ofSettings (Nat.succ_pos _)
  have hfirst : PageToken.decode none = .ok 0 := rfl
  have hsends := findPage_sends (Application.ofSettings (settings 9223372036854775808)).store
    .targetGroups [] inIdOrder TargetGroup.read hfirst (Nat.zero_le _)
  rw [hsize, hlimit] at hsends
  exact ⟨by decide +kernel, _, hsends⟩

theorem standard_accepted : Settings.ofVariables id named = .ok (settings defaultPageSize) := by
  decide +kernel

/-- Pages of the size by default, from an offset near the end of the signed words on. -/
theorem standard_exact :
    ExactPage 50 9223372036854775800
      ((Application.ofSettings (settings 50)).store.findPage .targets [] inIdOrder Target.read
        (some (PageToken.encode 9223372036854775800))) := by
  have hexact := (paging_in_range_iff standard_accepted .targets [] inIdOrder Target.read).1
  exact hexact.mpr (by decide) _ _ (PageToken.decode_encode (by decide))

end PageSizes

end MongoStore

end AccessGrants
