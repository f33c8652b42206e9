import AccessGrants.Proofs.References.Grammar
import AccessGrants.Proofs.Url.Fragment
import AccessGrants.Remote.OptionSource
import AccessGrants.Remote.ProviderRegistry

/-!
# AccessGrants.Proofs.Remote.Urls

Which keys the URLs of requests to other services tell apart. A URL is the text that is put together
here. A request has less: the text is read as a URL first, which drops its fragment, takes the steps
`.` and `..` of its path and escapes characters, so that keys with URLs of their own may be asked for
in the same way.

* `OptionSource.Shifted`     — keys that differ in where the text between their ids stands.
* `OptionSource.url_eq_iff`  — those keys, and only those, share a URL.
* `ProviderRegistry.url_inj` — providers that were read from references have URLs of their own.
* `target?_url_fragment`     — requests do not tell apart what stands behind a `#`.
* `urls_tell_apart_iff`      — all of it, whatever the base URLs are.
-/

namespace AccessGrants

namespace OptionSource

/-- What a URL has between the two ids. -/
def between : List Char := ['/', 'a', 'r', 'g', 's', '/']

theorem toList_between : "/args/".toList = between := rfl

/-- The text between the ids of the first key stands earlier than that of the second: the id of the
second provider goes on behind it, or up to its last slash where the two texts share that. -/
def Shifted (providerId argId providerId' argId' : String) : Prop :=
  (∃ middle, providerId' = providerId ++ "/args/" ++ middle ∧
      argId = middle ++ "/args/" ++ argId') ∨
    (providerId' = providerId ++ "/args" ∧ argId = "args/" ++ argId')

theorem toList_url (s : OptionSource) (providerId argId : String) :
    (s.url providerId argId).toList = (Remote.trimmedBase s.baseUrl ++ "/v1/providers/").toList ++
      ((providerId.toList ++ (between ++ argId.toList)) ++ "/options".toList) := by
  simp only [url, toList_between, String.toList_append, List.append_assoc]

/-- The slashes of the text between the ids are its ends, so it can overlap itself in one way. -/
theorem between_overlap {front rest a b : List Char} (hfront : between = front ++ rest)
    (hrest : between ++ b = rest ++ a) :
    (front = [] ∧ a = b) ∨ (front = between ∧ a = between ++ b) ∨
      (front = "/args".toList ∧ a = "args/".toList ++ b) := by
  have slashes : ∀ n < 6, between[n]? = some '/' → n = 0 ∨ n = 5 := by decide
  cases rest with
  | nil => exact .inr (.inl ⟨by rw [hfront, List.append_nil], hrest.symm⟩)
  | cons c rest =>
    have hc : c = '/' := (List.cons.inj hrest).1.symm
    have hlength : front.length < 6 := by
      have hsix : between.length = 6 := rfl
      rw [hfront, List.length_append, List.length_cons] at hsix
      omega
    have hat : between[front.length]? = some '/' := by
      rw [hfront, hc, List.getElem?_append_right (Nat.le_refl _), Nat.sub_self]
      rfl
    have htake : front = between.take front.length := by rw [hfront, List.take_left]
    have hdrop : c :: rest = between.drop front.length := by rw [hfront, List.drop_left]
    rcases slashes _ hlength hat with hzero | hfive
    · rw [hzero] at htake hdrop
      rw [hdrop] at hrest
      exact .inl ⟨htake, (List.append_cancel_left hrest).symm⟩
    · rw [hfive] at htake hdrop
      rw [hdrop] at hrest
      exact .inr (.inr ⟨htake, (List.cons.inj hrest).2.symm⟩)

variable {providerId argId providerId' argId' : String}

theorem shifted_of_eq {front : List Char} (hp : providerId'.toList = providerId.toList ++ front)
    (ha : between ++ argId.toList = front ++ (between ++ argId'.toList)) :
    (providerId = providerId' ∧ argId = argId') ∨ Shifted providerId argId providerId' argId' := by
  have later : ∀ middle, front = between ++ middle →
      argId.toList = middle ++ (between ++ argId'.toList) →
      Shifted providerId argId providerId' argId' := by
    rintro middle rfl harg
    refine .inl ⟨String.ofList middle, ?_, ?_⟩
    · rw [← String.toList_inj, hp]
      simp only [toList_between, String.toList_append, String.toList_ofList, List.append_assoc]
    · rw [← String.toList_inj, harg]
      simp only [toList_between, String.toList_append, String.toList_ofList, List.append_assoc]
  rcases List.append_eq_append_iff.mp ha with ⟨middle, hfront, harg⟩ | ⟨rest, hfront, hrest⟩
  · exact .inr (later middle hfront harg)
  · rcases between_overlap hfront hrest with ⟨rfl, harg⟩ | ⟨hfront, harg⟩ | ⟨rfl, harg⟩
    · rw [List.append_nil] at hp
      exact .inl ⟨String.toList_inj.mp hp.symm, String.toList_inj.mp harg⟩
    · exact .inr (later [] (by rw [hfront, List.append_nil]) harg)
    · refine .inr (.inr ⟨?_, ?_⟩)
      · rw [← String.toList_inj, hp, String.toList_append]
      · rw [← String.toList_inj, harg, String.toList_append]

theorem Shifted.toList_eq (h : Shifted providerId argId providerId' argId') :
    providerId.toList ++ (between ++ argId.toList) =
      providerId'.toList ++ (between ++ argId'.toList) := by
  rcases h with ⟨middle, rfl, rfl⟩ | ⟨rfl, rfl⟩
  · simp only [toList_between, String.toList_append, List.append_assoc]
  · have hjoin : between ++ "args/".toList = "/args".toList ++ between := by decide
    rw [String.toList_append, String.toList_append, ← List.append_assoc between, hjoin,
      List.append_assoc, List.append_assoc]

theorem url_eq_iff (s : OptionSource) :
    s.url providerId argId = s.url providerId' argId' ↔
      (providerId = providerId' ∧ argId = argId') ∨ Shifted providerId argId providerId' argId' ∨
        Shifted providerId' argId' providerId argId := by
  rw [← String.toList_inj, toList_url, toList_url, List.append_cancel_left_eq,
    List.append_cancel_right_eq]
  constructor
  · intro h
    rcases List.append_eq_append_iff.mp h with ⟨front, hp, ha⟩ | ⟨front, hp, ha⟩
    · exact (shifted_of_eq hp ha).imp_right .inl
    · rcases shifted_of_eq hp ha with ⟨rfl, rfl⟩ | h
      · exact .inl ⟨rfl, rfl⟩
      · exact .inr (.inr h)
  · rintro (⟨rfl, rfl⟩ | h | h)
    · rfl
    · exact h.toList_eq
    · exact h.toList_eq.symm

theorem target?_url_fragment (s : OptionSource) (providerId fragment fragment' argId argId' : String) :
    Remote.target? (s.url (providerId ++ "#" ++ fragment) argId) =
      Remote.target? (s.url (providerId ++ "#" ++ fragment') argId') := by
  have hurl (fragment argId : String) : s.url (providerId ++ "#" ++ fragment) argId =
      Remote.trimmedBase s.baseUrl ++ "/v1/providers/" ++ providerId ++ "#" ++
        (fragment ++ "/args/" ++ argId ++ "/options") := by
    simp only [url, String.append_assoc]
  rw [hurl, hurl, Remote.target?_fragment]

end OptionSource

namespace ProviderRegistry

theorem toList_url (r : ProviderRegistry) (p : Provider) :
    (r.url p).toList =
      (Remote.trimmedBase r.baseUrl ++ "/v1/providers/").toList ++ p.schemaRef.toList := by
  simp only [url, Provider.schemaRef, String.toList_append, List.append_assoc]

/-- The first two slashes behind the fixed part end the publisher and the name. -/
theorem url_inj {r : ProviderRegistry} {p q : Provider} (hp : p.Referable) (hq : q.Referable) :
    r.url p = r.url q ↔ p = q := by
  constructor
  · intro h
    rw [← String.toList_inj, toList_url, toList_url, List.append_cancel_left_eq,
      Provider.toList_schemaRef, Provider.toList_schemaRef] at h
    obtain ⟨hpublisher, hrest⟩ := Text.append_cons_inj hp.publisher.1 hq.publisher.1 h
    obtain ⟨hname, hversion⟩ := Text.append_cons_inj hp.name.1 hq.name.1 hrest
    cases p
    cases q
    rw [Provider.mk.injEq]
    exact ⟨String.toList_inj.mp hpublisher, String.toList_inj.mp hname, String.toList_inj.mp hversion⟩
  · rintro rfl
    rfl

theorem target?_url_fragment (r : ProviderRegistry) (p : Provider) (version fragment fragment' : String) :
    Remote.target? (r.url { p with version := version ++ "#" ++ fragment }) =
      Remote.target? (r.url { p with version := version ++ "#" ++ fragment' }) := by
  have hurl (fragment : String) : r.url { p with version := version ++ "#" ++ fragment } =
      r.url { p with version } ++ "#" ++ fragment := by
    simp only [url, String.append_assoc]
  rw [hurl, hurl, Remote.target?_fragment]

end ProviderRegistry

/-- Whatever the base URLs are, for URLs as they are put together. Two keys of options share a URL
exactly when they are the same or one is the other with the text between the ids shifted, which only
ids that hold that text can be. Two providers that can be registered never share a URL. The requests
for them may still be the same. That is so of keys whose providers differ behind a `#` only, and of
such versions. -/
theorem urls_tell_apart_iff (source : OptionSource) (registry : ProviderRegistry) :
    (∀ providerId argId providerId' argId',
      source.url providerId argId = source.url providerId' argId' ↔
        (providerId = providerId' ∧ argId = argId') ∨
          OptionSource.Shifted providerId argId providerId' argId' ∨
            OptionSource.Shifted providerId' argId' providerId argId) ∧
    (∀ text text' p q, Provider.parse text = .ok p → Provider.parse text' = .ok q →
      (registry.url p = registry.url q ↔ p = q)) ∧
    (∀ providerId fragment fragment' argId argId',
      Remote.target? (source.url (providerId ++ "#" ++ fragment) argId) =
        Remote.target? (source.url (providerId ++ "#" ++ fragment') argId')) ∧
    ∀ (p : Provider) (version fragment fragment' : String),
      Remote.target? (registry.url { p with version := version ++ "#" ++ fragment }) =
        Remote.target? (registry.url { p with version := version ++ "#" ++ fragment' }) := by
  refine ⟨fun _ _ _ _ => source.url_eq_iff, ?_, source.target?_url_fragment,
    registry.target?_url_fragment⟩
  intro _ _ p q hp hq
  exact ProviderRegistry.url_inj (Provider.parse_eq_ok_iff.mp hp).1 (Provider.parse_eq_ok_iff.mp hq).1

namespace SharedUrls

def source : OptionSource := ⟨"http://options/"⟩

def registry : ProviderRegistry := ⟨"http://registry"⟩

/-- Two keys as the route of options decodes them from its path, with one URL. -/
theorem shifted_keys_share :
    Percent.text? "aws%2Fargs%2Fsso".toList = some "aws/args/sso" ∧
    Percent.text? "sso%2Fargs%2Faccount".toList = some "sso/args/account" ∧
    "aws/args/sso" ≠ "aws" ∧
    source.url "aws/args/sso" "account" = source.url "aws" "sso/args/account" := by
  decide +kernel

/-- A slash in a version does not confuse two providers, but a `#` does when they are asked for. -/
theorem versions_apart :
    registry.url ⟨"acme", "ec2", "1/2"⟩ ≠ registry.url ⟨"acme", "ec2", "1#2"⟩ ∧
    registry.url ⟨"acme", "ec2", "1#2"⟩ ≠ registry.url ⟨"acme", "ec2", "1#3"⟩ ∧
    Remote.target? (registry.url ⟨"acme", "ec2", "1#2"⟩) =
      Remote.target? (registry.url ⟨"acme", "ec2", "1#3"⟩) := by
  obtain ⟨-, happart, -, hfragment⟩ := urls_tell_apart_iff source registry
  refine ⟨?_, ?_, hfragment ⟨"acme", "ec2", ""⟩ "1" "2" "3"⟩
  · rw [Ne, happart "acme/ec2@1/2" "acme/ec2@1#2" _ _ (by decide +kernel) (by decide +kernel)]
    decide +kernel
  · rw [Ne, happart "acme/ec2@1#2" "acme/ec2@1#3" _ _ (by decide +kernel) (by decide +kernel)]
    decide +kernel

/-- Nor does a step up in a version, which is taken before the request is sent. -/
example : Remote.target? (registry.url ⟨"acme", "ec2", "x/../1"⟩) =
    Remote.target? (registry.url ⟨"acme", "ec2", "1"⟩) := by
  decide +kernel

end SharedUrls

end AccessGrants
