import Courier.Text.Blank
import Mathlib.Data.List.TakeWhile

/-!
# What is left of a trimmed text

Trimming takes blanks off both ends of a text, as many as there are. What is left can be said
without taking anything off: it is the only text with no blank at either end from which the given
one comes when blanks are put around it.

* `Text.AllBlank`, `Text.IsTrimmed`: texts of blanks alone, and texts with no blank at either end.
* `Text.trim_eq_iff`: what is left of a text.
-/

namespace Courier.Text

/-- All characters of a text are blanks. There may be none. -/
def AllBlank (text : String) : Prop := ∀ c ∈ text.toList, isBlank c

/-- A text neither starts nor ends with a blank. -/
def IsTrimmed (text : String) : Prop :=
  (∀ c ∈ text.toList.head?, isBlank c = false) ∧ ∀ c ∈ text.toList.getLast?, isBlank c = false

-- The instances are named, since a search may find one that runs through all characters there are.
instance (text : String) : Decidable (AllBlank text) :=
  List.decidableBAll (fun c => isBlank c) text.toList

instance (text : String) : Decidable (IsTrimmed text) :=
  @instDecidableAnd _ _ (Option.decidableForallMem text.toList.head?)
    (Option.decidableForallMem text.toList.getLast?)

theorem allBlank_empty : AllBlank "" := nofun

theorem isTrimmed_empty : IsTrimmed "" := ⟨nofun, nofun⟩

variable {cs core before after : List Char}

/-! ### The front -/

theorem trimStart_append (h : ∀ c ∈ before, isBlank c) (cs : List Char) :
    trimStart (before ++ cs) = trimStart cs :=
  List.dropWhile_append_of_pos h

theorem trimStart_eq_self (h : ∀ c ∈ cs.head?, isBlank c = false) : trimStart cs = cs := by
  cases cs with
  | nil => rfl
  | cons c cs => exact List.dropWhile_cons_of_neg (by simp [h c rfl])

theorem isBlank_head?_trimStart (cs : List Char) :
    ∀ c ∈ (trimStart cs).head?, isBlank c = false := by
  intro c hc
  have h := List.head?_dropWhile_not isBlank cs
  change (trimStart cs).head? = some c at hc
  rw [← trimStart, hc] at h
  exact h

theorem exists_append_trimStart (cs : List Char) :
    ∃ before, (∀ c ∈ before, isBlank c) ∧ before ++ trimStart cs = cs :=
  ⟨cs.takeWhile isBlank, fun _ => List.mem_takeWhile_imp, List.takeWhile_append_dropWhile⟩

/-! ### Both ends -/

theorem exists_trimChars_append (cs : List Char) :
    ∃ after, (∀ c ∈ after, isBlank c) ∧ trimChars cs ++ after = trimStart cs := by
  obtain ⟨after, hafter, heq⟩ := exists_append_trimStart (trimStart cs).reverse
  refine ⟨after.reverse, fun c hc => hafter c (List.mem_reverse.1 hc), ?_⟩
  rw [trimChars, ← List.reverse_append, heq, List.reverse_reverse]

theorem exists_append_trimChars_append (cs : List Char) :
    ∃ before after, (∀ c ∈ before, isBlank c) ∧ (∀ c ∈ after, isBlank c) ∧
      before ++ trimChars cs ++ after = cs := by
  obtain ⟨before, hbefore, hfront⟩ := exists_append_trimStart cs
  obtain ⟨after, hafter, hback⟩ := exists_trimChars_append cs
  refine ⟨before, after, hbefore, hafter, ?_⟩
  rw [List.append_assoc, hback, hfront]

theorem isBlank_head?_trimChars (cs : List Char) :
    ∀ c ∈ (trimChars cs).head?, isBlank c = false := by
  -- What is left begins as it does before blanks are taken off the back.
  intro c hc
  obtain ⟨after, -, hback⟩ := exists_trimChars_append cs
  refine isBlank_head?_trimStart cs c ?_
  rw [← hback, List.head?_append, Option.mem_def.1 hc]
  rfl

theorem isBlank_getLast?_trimChars (cs : List Char) :
    ∀ c ∈ (trimChars cs).getLast?, isBlank c = false := by
  rw [trimChars, List.getLast?_reverse]
  exact isBlank_head?_trimStart _

/-- Characters with no blank at either end are what is left when blanks have been put around
    them. -/
theorem trimChars_append (hhead : ∀ c ∈ core.head?, isBlank c = false)
    (hlast : ∀ c ∈ core.getLast?, isBlank c = false) (hbefore : ∀ c ∈ before, isBlank c)
    (hafter : ∀ c ∈ after, isBlank c) : trimChars (before ++ core ++ after) = core := by
  rw [trimChars, List.append_assoc, trimStart_append hbefore]
  cases core with
  | nil =>
    have hnil : trimStart after = [] := List.dropWhile_eq_nil_iff.2 hafter
    rw [List.nil_append, hnil]
    rfl
  | cons c core =>
    have hfront : trimStart (c :: core ++ after) = c :: core ++ after :=
      trimStart_eq_self (by simpa using hhead)
    have hback : trimStart (c :: core).reverse = (c :: core).reverse :=
      trimStart_eq_self (by rwa [List.head?_reverse])
    rw [hfront, List.reverse_append, trimStart_append (by simpa using hafter), hback,
      List.reverse_reverse]

/-- What is left of a text has no blank at either end and is the text again when blanks are put
    around it, and nothing else is such. -/
theorem trim_eq_iff {text core : String} :
    trim text = core ↔
      IsTrimmed core ∧ ∃ before after, AllBlank before ∧ AllBlank after ∧
        before ++ core ++ after = text := by
  constructor
  · rintro rfl
    obtain ⟨before, after, hbefore, hafter, heq⟩ := exists_append_trimChars_append text.toList
    refine ⟨?_, .ofList before, .ofList after, ?_, ?_, ?_⟩
    · rw [IsTrimmed, trim, String.toList_ofList]
      exact ⟨isBlank_head?_trimChars _, isBlank_getLast?_trimChars _⟩
    · rwa [AllBlank, String.toList_ofList]
    · rwa [AllBlank, String.toList_ofList]
    · rw [trim, ← String.ofList_append, ← String.ofList_append, heq, String.ofList_toList]
  · rintro ⟨⟨hhead, hlast⟩, before, after, hbefore, hafter, rfl⟩
    rw [trim, String.toList_append, String.toList_append,
      trimChars_append hhead hlast hbefore hafter, String.ofList_toList]

theorem isTrimmed_trim (text : String) : IsTrimmed (trim text) := (trim_eq_iff.1 rfl).1

theorem exists_append_trim_append (text : String) :
    ∃ before after, AllBlank before ∧ AllBlank after ∧ before ++ trim text ++ after = text :=
  (trim_eq_iff.1 rfl).2

/-- Nothing is left exactly of what is blank. -/
theorem trim_eq_empty_iff {text : String} : trim text = "" ↔ AllBlank text := by
  rw [trim_eq_iff]
  constructor
  · rintro ⟨-, before, after, hbefore, hafter, rfl⟩ c hc
    simp only [String.append_empty, String.toList_append, List.mem_append] at hc
    exact hc.elim (hbefore c) (hafter c)
  · exact fun h => ⟨isTrimmed_empty, text, "", h, allBlank_empty, by simp⟩

/-- A character of what is left is one of the text. -/
theorem mem_of_mem_trim {text : String} {c : Char} (h : c ∈ (trim text).toList) :
    c ∈ text.toList := by
  obtain ⟨before, after, -, -, heq⟩ := exists_append_trim_append text
  rw [← heq, String.toList_append, String.toList_append]
  exact List.mem_append_left _ (List.mem_append_right _ h)

end Courier.Text
