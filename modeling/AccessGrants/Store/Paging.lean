import AccessGrants.Store.Basic
import AccessGrants.Text.Base64Url
import AccessGrants.Text.Integer
import AccessGrants.Word

/-!
# AccessGrants.Store.Paging

Pages and the tokens that lead from one to the next.

* `PageToken.encode` — the token of an offset: its decimal digits in base 64.
* `PageToken.decode` — the offset of a token; without a token it is 0.
* `paginate`         — the page of a listing at an offset.
-/

namespace AccessGrants

namespace PageToken

def encode (offset : Nat) : String :=
  String.ofList (Base64Url.encode ((Nat.repr offset).toList.map Char.toNat))

def decode (token : Option String) : Except StoreError Nat :=
  match token with
  | none => .ok 0
  | some token =>
    match Base64Url.decode? token.toList with
    | none => .error .invalidPageToken
    | some bytes =>
      match Text.parseUnsigned Word.greatest (String.ofList (bytes.map Char.ofNat)) with
      | .ok offset => .ok offset
      | .error _ => .error .invalidPageToken

end PageToken

/-- At most `size` items from `offset` on. There is a next page when items are left. -/
def paginate (items : List α) (offset size : Nat) : Page α :=
  let page := (items.drop offset).take size
  let next := offset + page.length
  ⟨page, if next < items.length then some (PageToken.encode next) else none⟩

end AccessGrants
