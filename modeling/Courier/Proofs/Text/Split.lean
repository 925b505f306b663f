import Courier.Text.Split

/-!
# The pieces of a text

A text is split as a list is. Its pieces are the only ones without separators that are the text when
they are joined.

* `Text.splitAt_append_cons`: a separator splits what comes before it and what comes after it.
* `Text.split_eq_iff`: what the pieces of a text are.
-/

namespace Courier.Text

variable {separator : Char}

theorem splitAt_eq_splitOn (separator : Char) (cs : List Char) :
    splitAt separator cs = cs.splitOn separator := by
  induction cs with
  | nil => rfl
  | cons c cs ih =>
    rw [splitAt, ih, List.splitOn_cons_eq_if_modifyHead]
    simp only [beq_iff_eq]
    cases hs : cs.splitOn separator with
    | nil => exact absurd hs (List.splitOn_ne_nil separator cs)
    | cons piece pieces => rfl

theorem splitAt_append_cons (separator : Char) (cs cs' : List Char) :
    splitAt separator (cs ++ separator :: cs') =
      splitAt separator cs ++ splitAt separator cs' := by
  simp only [splitAt_eq_splitOn, List.splitOn_eq_splitOnP]
  exact List.splitOnP_append_cons cs cs' (beq_self_eq_true separator)

theorem not_mem_of_mem_splitAt {cs piece : List Char} (h : piece ∈ splitAt separator cs) :
    separator ∉ piece := by
  induction cs generalizing piece with
  | nil => simp_all [splitAt]
  | cons c cs ih =>
    rw [splitAt] at h
    split at h
    next =>
      rcases List.mem_cons.1 h with rfl | h
      · exact List.not_mem_nil
      · exact ih h
    next hne =>
      cases hs : splitAt separator cs with
      | nil => exact absurd hs (splitAt_ne_nil separator cs)
      | cons first pieces =>
        rw [hs] at h ih
        rcases List.mem_cons.1 h with rfl | h
        · -- The first piece has become longer by a character that is no separator.
          intro hmem
          rcases List.mem_cons.1 hmem with rfl | hmem
          · exact hne rfl
          · exact ih List.mem_cons_self hmem
        · exact ih (List.mem_cons_of_mem _ h)

/-- The pieces of a text have no separator in them and are the text when they are joined, and
    nothing else is such. -/
theorem split_eq_iff {text : String} {pieces : List String} :
    split separator text = pieces ↔
      pieces ≠ [] ∧ (∀ piece ∈ pieces, separator ∉ piece.toList) ∧
        (String.singleton separator).intercalate pieces = text := by
  constructor
  · rintro rfl
    refine ⟨by simpa [split] using splitAt_ne_nil separator text.toList, ?_, ?_⟩
    · intro piece hpiece
      obtain ⟨cs, hcs, rfl⟩ := List.mem_map.1 hpiece
      rw [String.toList_ofList]
      exact not_mem_of_mem_splitAt hcs
    · have hpieces : (split separator text).map String.toList = text.toList.splitOn separator := by
        rw [split, List.map_map, splitAt_eq_splitOn]
        simp [Function.comp_def]
      rw [← String.toList_inj, String.toList_intercalate, hpieces, String.toList_singleton,
        List.intercalate_splitOn]
  · rintro ⟨hne, hpieces, rfl⟩
    have hsplit : splitAt separator ((String.singleton separator).intercalate pieces).toList =
        pieces.map String.toList := by
      rw [splitAt_eq_splitOn, String.toList_intercalate, String.toList_singleton]
      exact List.splitOn_intercalate separator (by simpa using hpieces) (by simpa using hne)
    rw [split, hsplit, List.map_map]
    simp [Function.comp_def]

end Courier.Text
