/-!
# AccessGrants.Word

The ranges of machine words.

* `Word.greatest`, `Word.count`                — of a word without sign.
* `Word.greatestSigned`, `Word.leastSigned`    — of a word with a sign.
* `Word.greatestHalf`                          — of half a word without sign.
-/

namespace AccessGrants.Word

def greatest : Nat := 18446744073709551615

/-- How many values a word has. -/
def count : Nat := greatest + 1

def greatestSigned : Nat := 9223372036854775807

/-- The distance of the least signed word below zero. -/
def leastSigned : Nat := greatestSigned + 1

def greatestHalf : Nat := 4294967295

end AccessGrants.Word
