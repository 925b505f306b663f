import Courier.Proofs.Bus.Pattern
import Mathlib.Data.List.Infix

/-!
# The topics of a subscription

The pattern of a subscription is its topic and one word more, which stands for any words. As long as
the words of the topic stand for nothing but themselves, it selects those types of events that begin
with the words of the topic.

* `Topic.words_subtree`: the words of a pattern.
* `Topic.isMatch_subtree`: the types that are selected.
-/

namespace Courier.Topic

/-- No word of a topic stands for other words. -/
def IsPlain (topic : String) : Prop := "#" ∉ words topic ∧ "*" ∉ words topic

instance (topic : String) : Decidable (IsPlain topic) := inferInstanceAs (Decidable (_ ∧ _))

theorem words_subtree (topic : String) : words (subtree topic) = words topic ++ ["#"] := by
  rw [words, Text.split, subtree, String.toList_append]
  change (Text.splitAt '.' (topic.toList ++ '.' :: ['#'])).map _ = _
  rw [Text.splitAt_append_cons, List.map_append]
  rfl

/-- A first word that stands for itself is the first word of the key. -/
theorem matchWords_cons {word : String} (h : word ≠ "#") (h' : word ≠ "*")
    (rest key : List String) :
    matchWords (word :: rest) key ↔ ∃ key', key = word :: key' ∧ matchWords rest key' := by
  rw [matchWords_cons_iff]
  constructor
  · rintro ⟨segment, key', hstands, rfl, hrest⟩
    cases hstands with
    | any => exact absurd rfl h
    | one => exact absurd rfl h'
    | self => exact ⟨key', rfl, hrest⟩
  · rintro ⟨key', rfl, hrest⟩
    exact ⟨[word], key', .self h h', rfl, hrest⟩

/-- Words that stand for themselves are those with which a key begins. -/
theorem matchWords_append {words : List String} (h : "#" ∉ words ∧ "*" ∉ words)
    (rest key : List String) :
    matchWords (words ++ rest) key ↔ ∃ key', key = words ++ key' ∧ matchWords rest key' := by
  induction words generalizing key with
  | nil => simp
  | cons word words ih =>
    simp only [List.mem_cons, not_or] at h
    obtain ⟨⟨hhash, hhashes⟩, hstar, hstars⟩ := h
    rw [List.cons_append, matchWords_cons (Ne.symm hhash) (Ne.symm hstar)]
    constructor
    · rintro ⟨key', rfl, hkey'⟩
      obtain ⟨key'', rfl, hrest⟩ := (ih ⟨hhashes, hstars⟩ key').1 hkey'
      exact ⟨key'', rfl, hrest⟩
    · rintro ⟨key', rfl, hrest⟩
      exact ⟨words ++ key', rfl, (ih ⟨hhashes, hstars⟩ _).2 ⟨key', rfl, hrest⟩⟩

theorem matchWords_hash (key : List String) : matchWords ["#"] key :=
  matchWords_cons_iff.2 ⟨key, [], .any key, (List.append_nil key).symm, rfl⟩

theorem isMatch_subtree {topic : String} (h : IsPlain topic) (key : String) :
    isMatch (subtree topic) key ↔ words topic <+: words key := by
  rw [isMatch, words_subtree, matchWords_append h]
  constructor
  · rintro ⟨key', hkey, -⟩
    exact ⟨key', hkey.symm⟩
  · rintro ⟨key', hkey⟩
    exact ⟨key', hkey.symm, matchWords_hash key'⟩

/-- A topic is not to be taken for the beginning of a longer word. -/
example : isMatch (subtree "user") "user.created" = true ∧
    isMatch (subtree "user") "username.created" = false := by
  decide +kernel

end Courier.Topic
