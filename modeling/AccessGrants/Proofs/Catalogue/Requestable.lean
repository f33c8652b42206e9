import AccessGrants.Proofs.Preflights.DraftOutcome
import AccessGrants.Proofs.Store.Listings
import AccessGrants.Service.Catalogue

/-!
# AccessGrants.Proofs.Catalogue.Requestable

The catalogue that a user is shown holds what the user may request. It is filtered page by page, while a
preflight looks its targets up one by one.

* `Catalogue.Shows`   — a page of the catalogue.
* `Follows`           — the pages that one gets by following the tokens to the end.
* `Walk.follows`      — a listing of the store that is changed page by page is followed in the same way.
* `Catalogue.Offered` — what was collected is what may be requested, each id once and in order.
* `catalogue_agrees`  — a preflight succeeds for the lists that the catalogue offers, and for no others.
-/

namespace AccessGrants

/-- The pages from a token on, until there is no next one. -/
inductive Follows (shows : Option String → Page α → Prop) : Option String → List (Page α) → Prop
  | last {token : Option String} {page : Page α} :
      shows token page → page.next = none → Follows shows token [page]
  | more {token : Option String} {page : Page α} {after : String} {pages : List (Page α)} :
      shows token page → page.next = some after → Follows shows (some after) pages →
      Follows shows token (page :: pages)

section Follows

variable {shows : Option String → Page β → Prop} {token : Option String} {pages others : List (Page β)}

/-- Where a token shows one page only, there is one way to follow the tokens. -/
theorem Follows.unique (hshows : ∀ token p q, shows token p → shows token q → p = q)
    (h : Follows shows token pages) (h' : Follows shows token others) : pages = others := by
  induction h generalizing others with
  | last hp hnext =>
    cases h' with
    | last hq _ => rw [hshows _ _ _ hp hq]
    | more hq hnext' _ =>
      rw [← hshows _ _ _ hp hq, hnext] at hnext'
      cases hnext'
  | more hp hnext _ ih =>
    cases h' with
    | last hq hnext' =>
      rw [← hshows _ _ _ hp hq, hnext] at hnext'
      cases hnext'
    | more hq hnext' h' =>
      cases hshows _ _ _ hp hq
      cases hnext.symm.trans hnext'
      rw [ih h']

/-- A change of the pages that keeps their tokens keeps the way through them. -/
theorem Walk.follows {list : Option String → Except StoreError (Page α)} {f : Page α → Page β}
    {stored : List (Page α)} (hnext : ∀ page, (f page).next = page.next)
    (hshows : ∀ token page, list token = .ok page → shows token (f page))
    (h : Walk list token stored) : Follows shows token (stored.map f) := by
  induction h with
  | last hl => exact .last (hshows _ _ hl) (hnext _)
  | more hl _ ih => exact .more (hshows _ _ hl) (hnext _) ih

end Follows

namespace Catalogue

open Service

/-- The page that a user is shown for a token, whatever was asked before; the store stays as it is. -/
def Shows (a : GroupAuthorizer) (user : User) (s : MemoryStore) (token : Option String)
    (page : Page Target) : Prop :=
  ∀ past moments, ∃ s', ((listTargets user token).locally a).run.finish moments ⟨s, past⟩ =
    (some (.ok page), s') ∧ s'.store = s

/-- The ids on the pages, in order. -/
def collected (pages : List (Page Target)) : List String :=
  pages.flatMap fun page => page.items.map (·.id)

variable {a : GroupAuthorizer} {user : User} {s : MemoryStore}

theorem Shows.unique {token : Option String} {p q : Page Target} (hp : Shows a user s token p)
    (hq : Shows a user s token q) : p = q := by
  obtain ⟨s', hp, -⟩ := hp [] fun _ => ⟨.plain, ⟨0, 0⟩⟩
  obtain ⟨s'', hq, -⟩ := hq [] fun _ => ⟨.plain, ⟨0, 0⟩⟩
  rw [hp] at hq
  cases hq
  rfl

/-- What is visible of a page. -/
def shown (user : User) (page : Page Target) : Page Target :=
  { page with items := Target.visible user.groups page.items }

theorem shows_of_page {token : Option String} {page : Page Target}
    (h : Listing.targets.page s token = .ok page) : Shows a user s token (shown user page) := by
  intro past moments
  have hattains : ((listTargets user token).locally a).Attains (fun _ => True)
      (fun s' _ found => s' = s ∧ found = shown user page) (fun _ _ _ => False) s past := by
    simp only [listTargets, locally_bind, locally_store, locally_pure, attains_bind]
    exact attains_store h ⟨rfl, rfl⟩
  obtain ⟨answer, s', hrun, hend⟩ := Interaction.attains_finish (s := ⟨s, past⟩) hattains
    fun n => trivial
  cases answer with
  | error e => exact hend.elim
  | ok found =>
    obtain ⟨hs, rfl⟩ := hend
    exact ⟨s', hrun, hs⟩

theorem collected_shown (pages : List (Page Target)) : collected (pages.map (shown user)) =
    (Target.visible user.groups (pages.flatMap (·.items))).map (·.id) := by
  rw [collected, Target.visible, List.flatMap_map, List.filter_flatMap, List.map_flatMap]
  rfl

theorem visible_increasing (h : s.Filed) :
    ((Target.visible user.groups (Listing.targets.items s)).map (·.id)).Pairwise (· < ·) :=
  List.pairwise_map.mpr ((Listing.targets.items_before h).filter _)

theorem mem_visible_iff (h : s.Filed) {id : String} :
    id ∈ (Target.visible user.groups (Listing.targets.items s)).map (·.id) ↔
      s.Requestable user id := by
  rw [List.mem_map]
  constructor
  · rintro ⟨t, ht, rfl⟩
    obtain ⟨hlisted, hvisible⟩ := List.mem_filter.mp ht
    obtain ⟨k, hk⟩ := Listing.mem_items.mp hlisted
    rw [← h.targets k t hk] at hk
    exact ⟨t, hk, hvisible⟩
  · rintro ⟨t, ht, hvisible⟩
    exact ⟨t, List.mem_filter.mpr ⟨Listing.mem_items.mpr ⟨id, ht⟩, hvisible⟩, h.targets id t ht⟩

end Catalogue

namespace Preflights

/-- A preflight for a list of ids is drafted. -/
def Succeeds (a : GroupAuthorizer) (user : User) (s : Session) (moments : Nat → Moment)
    (ids : List String) : Prop :=
  ∃ p s', ((createPreflight user ids).locally a).run.finish moments s = (some (.ok p), s')

theorem succeeds_iff {a : GroupAuthorizer} {user : User} {s : Session} {moments : Nat → Moment}
    {ids : List String} (h : MemoryStore.Keyed Target.id s.store.targets) :
    Succeeds a user s moments ids ↔
      ids ≠ [] ∧ ids.Nodup ∧ ∀ id ∈ ids, s.store.Requestable user id := by
  obtain ⟨answer, s', hrun, n, houtcome⟩ := exists_outcome a user ids h moments
  rw [← houtcome.succeeds_iff]
  constructor
  · rintro ⟨p, s'', hdone⟩
    rw [hrun] at hdone
    cases hdone
    exact ⟨p, rfl⟩
  · rintro ⟨p, rfl⟩
    exact ⟨p, s', hrun⟩

end Preflights

namespace Catalogue

/-- For every store that any calls have made of an empty one, in pages of any size: there is one way to
follow the tokens of the catalogue that a user is shown, and the ids on its pages are those that the user
may ask a preflight for, each once and in order. A preflight succeeds for the lists of these ids that are
neither empty nor name one twice, and for no others. A table has no more rows than a word counts. -/
theorem catalogue_agrees (a : GroupAuthorizer) (user : User) (pageSize : Nat) (calls : List StoreCall)
    (hfit : (Listing.targets.rows ((MemoryStore.empty pageSize).run calls)).length ≤ Word.greatest) :
    let s := (MemoryStore.empty pageSize).run calls
    ∃ pages, Follows (Shows a user s) none pages ∧
      (∀ others, Follows (Shows a user s) none others → others = pages) ∧
      (collected pages).Pairwise (· < ·) ∧
      ∀ past moments,
        (∀ id, id ∈ collected pages ↔ Preflights.Succeeds a user ⟨s, past⟩ moments [id]) ∧
        ∀ ids, Preflights.Succeeds a user ⟨s, past⟩ moments ids ↔
          ids ≠ [] ∧ ids.Nodup ∧ ∀ id ∈ ids, id ∈ collected pages := by
  intro s
  have hfiled : s.Filed := MemoryStore.run_filed pageSize calls
  have hsize : 0 < s.pageSize := by
    rw [MemoryStore.run_pageSize]
    exact Nat.lt_of_lt_of_le Nat.one_pos (Nat.le_max_right _ _)
  have hlen : (Listing.targets.items s).length ≤ Word.greatest := by
    rw [(Listing.targets.items_perm s).length_eq]
    exact hfit
  have hfirst : PageToken.decode none = .ok 0 := rfl
  obtain ⟨stored, hwalk, hsplits⟩ := exists_walk hsize hlen
    (fun _ _ => Listing.page_of_decode (s := s) (l := .targets)) hfirst
  have hfollows : Follows (Shows a user s) none (stored.map (shown user)) :=
    hwalk.follows (fun _ => rfl) fun _ _ => shows_of_page
  have hcollected : collected (stored.map (shown user)) =
      (Target.visible user.groups (Listing.targets.items s)).map (·.id) := by
    rw [collected_shown, hsplits.whole, List.drop_zero]
  have hunique : ∀ token p q, Shows a user s token p → Shows a user s token q → p = q :=
    fun _ _ _ => Shows.unique
  refine ⟨_, hfollows, fun others h => h.unique hunique hfollows, ?_,
    fun past moments => ⟨fun id => ?_, fun ids => ?_⟩⟩
  · rw [hcollected]
    exact visible_increasing hfiled
  · rw [hcollected, mem_visible_iff hfiled, Preflights.succeeds_iff (s := ⟨s, past⟩) hfiled.targets]
    simp
  · rw [hcollected, Preflights.succeeds_iff (s := ⟨s, past⟩) hfiled.targets]
    simp only [mem_visible_iff hfiled]

namespace OneOfThree

/-! In pages of one: a target without groups, one that is visible to the user, and one of another group. -/

def alice : User := ⟨"alice", "alice@acme.com", Names.ofNames ["ops"]⟩

def keys : Target := ⟨"keys", "aws", "admin", ∅, ∅, ∅⟩

def logs : Target := ⟨"logs", "aws", "audit", ∅, Names.ofNames ["ops"], ∅⟩

def vault : Target := ⟨"vault", "aws", "admin", ∅, Names.ofNames ["board"], ∅⟩

def calls : List StoreCall := [.putTarget keys, .putTarget logs, .putTarget vault]

theorem requestable_iff {id : String} :
    ((MemoryStore.empty 1).run calls).Requestable alice id ↔ id = "logs" := by
  have hstored : ((MemoryStore.empty 1).run calls).targets[id]? =
      if "vault" = id then some vault else if "logs" = id then some logs else
        if "keys" = id then some keys else none := by
    show (((∅ : Std.ExtTreeMap String Target).insert "keys" keys).insert "logs" logs |>.insert
      "vault" vault)[id]? = _
    simp only [MemoryStore.getElem?_insert_row, Std.ExtTreeMap.getElem?_empty]
  have hvault : vault.visibleTo alice.groups = false := by decide +kernel
  have hlogs : logs.visibleTo alice.groups = true := by decide +kernel
  have hkeys : keys.visibleTo alice.groups = false := by decide +kernel
  rw [MemoryStore.Requestable, hstored]
  constructor
  · rintro ⟨t, ht, hvisible⟩
    split at ht
    · cases ht
      rw [hvault] at hvisible
      cases hvisible
    split at ht
    · rename_i hid
      exact hid.symm
    split at ht
    · cases ht
      rw [hkeys] at hvisible
      cases hvisible
    · cases ht
  · rintro rfl
    exact ⟨logs, by simp, hlogs⟩

theorem one_offered :
    (Listing.targets.rows ((MemoryStore.empty 1).run calls)).length ≤ Word.greatest ∧
    ∃ pages, Follows (Shows ⟨"admins"⟩ alice ((MemoryStore.empty 1).run calls)) none pages ∧
      collected pages = ["logs"] := by
  have hfit : (Listing.targets.rows ((MemoryStore.empty 1).run calls)).length ≤ Word.greatest := by
    decide +kernel
  obtain ⟨pages, hfollows, -, hincreasing, hpreflights⟩ :=
    catalogue_agrees ⟨"admins"⟩ alice 1 calls hfit
  have hmem : ∀ id, id ∈ collected pages ↔ id ∈ ["logs"] := fun id => by
    rw [(hpreflights [] fun _ => ⟨.plain, ⟨0, 0⟩⟩).1 id, List.mem_singleton, ← requestable_iff,
      Preflights.succeeds_iff (MemoryStore.run_filed 1 calls).targets]
    simp
  have hperm : (collected pages).Perm ["logs"] :=
    (List.perm_ext_iff_of_nodup (hincreasing.imp ne_of_lt) (List.nodup_singleton _)).mpr hmem
  exact ⟨hfit, pages, hfollows, List.perm_singleton.mp hperm⟩

end OneOfThree

end Catalogue

end AccessGrants
