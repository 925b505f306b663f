import Courier.Bus.Topic
import Courier.Proofs.Text.Split
import Mathlib.Data.List.Forall2

/-!
# What a pattern matches

A pattern is matched word by word, and for a word that stands for any words all of what they may be
is tried. What comes of it can be said without trying: the words of the key are cut into segments,
one for each word of the pattern.

* `Topic.HasWords`: what the words of a text are.
* `Topic.StandsFor`: the segments for which a word of a pattern stands.
* `Topic.matchWords_cons_iff`: the first word of a pattern takes a segment off the key.
* `Topic.isMatch_iff`: which keys a pattern matches.
-/

namespace Courier.Topic

/-- The words of a text have no dots in them, and they are the text when dots are put between them.
    The empty text is one empty word. -/
structure HasWords (text : String) (ws : List String) : Prop where
  ne_nil : ws ≠ []
  dotless : ∀ word ∈ ws, '.' ∉ word.toList
  intercalate : ".".intercalate ws = text

theorem words_eq_iff {text : String} {ws : List String} : words text = ws ↔ HasWords text ws :=
  Text.split_eq_iff.trans ⟨fun ⟨hne, hdots, hjoin⟩ => ⟨hne, hdots, hjoin⟩,
    fun h => ⟨h.ne_nil, h.dotless, h.intercalate⟩⟩

/-- The segments of a key for which a word of a pattern stands: any words, or exactly one, or the
    word itself. -/
inductive StandsFor : String → List String → Prop
  | any (segment : List String) : StandsFor "#" segment
  | one (word : String) : StandsFor "*" [word]
  | self {word : String} (hany : word ≠ "#") (hone : word ≠ "*") : StandsFor word [word]

theorem anyRest_iff {p : List String → Bool} {key : List String} :
    anyRest p key ↔ ∃ segment rest, key = segment ++ rest ∧ p rest := by
  induction key with
  | nil => simp [anyRest]
  | cons k ks ih =>
    rw [anyRest, Bool.or_eq_true, ih]
    constructor
    · rintro (h | ⟨segment, rest, rfl, h⟩)
      · exact ⟨[], k :: ks, rfl, h⟩
      · exact ⟨k :: segment, rest, rfl, h⟩
    · rintro ⟨segment, rest, hkey, h⟩
      cases segment with
      | nil =>
        rw [List.nil_append] at hkey
        exact .inl (hkey ▸ h)
      | cons k' segment =>
        rw [List.cons_append, List.cons.injEq] at hkey
        exact .inr ⟨segment, rest, hkey.2, h⟩

theorem matchWords_hash_cons (rest key : List String) :
    matchWords ("#" :: rest) key = anyRest (matchWords rest) key := by
  cases key <;> rw [matchWords, if_pos rfl]

/-- The first word of a pattern takes a segment off the key. -/
theorem matchWords_cons_iff {word : String} {rest key : List String} :
    matchWords (word :: rest) key ↔
      ∃ segment key', StandsFor word segment ∧ key = segment ++ key' ∧ matchWords rest key' := by
  by_cases hany : word = "#"
  · subst hany
    rw [matchWords_hash_cons, anyRest_iff]
    exact exists₂_congr fun segment key' => (and_iff_right (.any segment)).symm
  · -- Any other word takes exactly one word off the key.
    constructor
    · intro h
      cases key with
      | nil => simp [matchWords, hany] at h
      | cons k ks =>
        rw [matchWords, if_neg hany, Bool.and_eq_true] at h
        obtain ⟨hk, hks⟩ := h
        refine ⟨[k], ks, ?_, rfl, hks⟩
        by_cases hone : word = "*"
        · exact hone ▸ .one k
        · obtain rfl : word = k := by simpa [hone] using hk
          exact .self hany hone
    · rintro ⟨segment, key', hstands, rfl, hrest⟩
      cases hstands with
      | any => exact absurd rfl hany
      | one k => simpa [matchWords] using hrest
      | self => simpa [matchWords, hany] using hrest

theorem matchWords_iff {ps key : List String} :
    matchWords ps key ↔ ∃ segments, List.Forall₂ StandsFor ps segments ∧ segments.flatten = key := by
  induction ps generalizing key with
  | nil => simp [matchWords]
  | cons word rest ih =>
    simp only [matchWords_cons_iff, ih]
    constructor
    -- What is left of the key is for the rest of the pattern, whatever the first word has taken.
    · rintro ⟨segment, key', hstands, rfl, segments, hsegments, rfl⟩
      exact ⟨segment :: segments, .cons hstands hsegments, rfl⟩
    · rintro ⟨_, hall, rfl⟩
      obtain ⟨segment, segments, hstands, hsegments, rfl⟩ := List.forall₂_cons_left_iff.1 hall
      exact ⟨segment, _, hstands, List.flatten_cons, segments, hsegments, rfl⟩

/-- A pattern matches a key if the words of the key can be cut into segments, one for each word of
    the pattern and in their order, so that each word stands for its segment. -/
theorem isMatch_iff {pattern key : String} :
    isMatch pattern key ↔ ∃ ps ks segments, HasWords pattern ps ∧ HasWords key ks ∧
      List.Forall₂ StandsFor ps segments ∧ segments.flatten = ks := by
  simp only [isMatch, matchWords_iff, ← words_eq_iff]
  constructor
  · rintro ⟨segments, hsegments, hkey⟩
    exact ⟨_, _, segments, rfl, rfl, hsegments, hkey⟩
  · rintro ⟨_, _, segments, rfl, rfl, hsegments, hkey⟩
    exact ⟨segments, hsegments, hkey⟩

/-- Any words may be none, but one word is always there. -/
example : isMatch "#.a.*" "a." = true ∧ isMatch "*" "" = true ∧ isMatch "a.*" "a" = false := by
  decide +kernel

end Courier.Topic
