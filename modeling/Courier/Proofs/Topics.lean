import Courier.Proofs.Text.Split
import Courier.Proofs.Text.Trim
import Courier.Settings

/-!
# Lists of topics

The topics of a process are written in one text, with commas between them. There are many such texts
for the same topics: blanks may stand around each of them, and between two commas there may be
nothing but blanks. The same topics are read from all of these texts, and every text lists some
topics in such a way.

* `Settings.IsTopic`: what a topic is.
* `Settings.Lists`: the ways in which topics are listed.
* `Settings.topicsOf_eq_iff`: the topics of a text.
* `Settings.topics_listed`: reading topics undoes writing them.
-/

namespace Courier.Settings

/-- A topic is written without commas, and with no blank at either end, so that it can be told from
    what stands around it. -/
structure IsTopic (topic : String) : Prop where
  ne_empty : topic ≠ ""
  commaless : ',' ∉ topic.toList
  trimmed : Text.IsTrimmed topic

instance (topic : String) : Decidable (IsTopic topic) :=
  decidable_of_iff (topic ≠ "" ∧ ',' ∉ topic.toList ∧ Text.IsTrimmed topic)
    ⟨fun ⟨hne, hcomma, htrimmed⟩ => ⟨hne, hcomma, htrimmed⟩,
      fun h => ⟨h.ne_empty, h.commaless, h.trimmed⟩⟩

/-- Items list topics: each item is one of the topics with blanks around it, or blank. The topics
    come in their order. -/
inductive Lists : List String → List String → Prop
  | nil : Lists [] []
  | blank {item : String} {items topics : List String} (h : Text.AllBlank item)
      (hrest : Lists items topics) : Lists (item :: items) topics
  | topic {before after topic : String} {items topics : List String}
      (hbefore : Text.AllBlank before) (hafter : Text.AllBlank after)
      (hrest : Lists items topics) : Lists ((before ++ topic ++ after) :: items) (topic :: topics)

variable {items topics : List String} {item text : String}

/-- Topics list themselves. -/
theorem Lists.refl : ∀ topics : List String, Lists topics topics
  | [] => .nil
  | t :: topics => by
    have h : Lists (("" ++ t ++ "") :: topics) (t :: topics) :=
      .topic Text.allBlank_empty Text.allBlank_empty (refl topics)
    simpa using h

/-- A comma is not blank. -/
theorem commaless_of_allBlank (h : Text.AllBlank item) : ',' ∉ item.toList :=
  fun hmem => absurd (h ',' hmem) (by decide)

theorem Lists.commaless (h : Lists items topics) (htopics : ∀ t ∈ topics, IsTopic t) :
    ∀ item ∈ items, ',' ∉ item.toList := by
  induction h with
  | nil => exact nofun
  | blank hblank _ ih =>
    exact List.forall_mem_cons.2 ⟨commaless_of_allBlank hblank, ih htopics⟩
  | topic hbefore hafter _ ih =>
    rw [List.forall_mem_cons] at htopics
    refine List.forall_mem_cons.2 ⟨?_, ih htopics.2⟩
    simp only [String.toList_append, List.mem_append, not_or]
    exact ⟨⟨commaless_of_allBlank hbefore, htopics.1.commaless⟩, commaless_of_allBlank hafter⟩

/-- The topics among items. -/
def topicsAmong (items : List String) : List String :=
  (items.map Text.trim).filter fun t => !t.isEmpty

theorem topicsOf_eq (text : String) : topicsOf text = topicsAmong (Text.split ',' text) := rfl

theorem topicsAmong_cons_of_eq (h : Text.trim item = "") (items : List String) :
    topicsAmong (item :: items) = topicsAmong items :=
  List.filter_cons_of_neg (by simp [h])

theorem topicsAmong_cons_of_ne (h : Text.trim item ≠ "") (items : List String) :
    topicsAmong (item :: items) = Text.trim item :: topicsAmong items :=
  List.filter_cons_of_pos (by simpa using h)

/-- Items list the topics among them. -/
theorem lists_topicsAmong (items : List String) : Lists items (topicsAmong items) := by
  induction items with
  | nil => exact .nil
  | cons item items ih =>
    by_cases h : Text.trim item = ""
    · rw [topicsAmong_cons_of_eq h]
      exact .blank (Text.trim_eq_empty_iff.1 h) ih
    · rw [topicsAmong_cons_of_ne h]
      obtain ⟨before, after, hbefore, hafter, heq⟩ := Text.exists_append_trim_append item
      have hlists : Lists ((before ++ Text.trim item ++ after) :: items)
          (Text.trim item :: topicsAmong items) := .topic hbefore hafter ih
      rwa [heq] at hlists

/-- Items list no other topics than those among them. -/
theorem Lists.topicsAmong_eq (h : Lists items topics) (htopics : ∀ t ∈ topics, IsTopic t) :
    topicsAmong items = topics := by
  induction h with
  | nil => rfl
  | blank hblank _ ih => rw [topicsAmong_cons_of_eq (Text.trim_eq_empty_iff.2 hblank), ih htopics]
  | topic hbefore hafter _ ih =>
    rw [List.forall_mem_cons] at htopics
    have htrim := Text.trim_eq_iff.2 ⟨htopics.1.trimmed, _, _, hbefore, hafter, rfl⟩
    rw [topicsAmong_cons_of_ne (by rw [htrim]; exact htopics.1.ne_empty), htrim, ih htopics.2]

theorem isTopic_of_mem_topicsOf : ∀ t ∈ topicsOf text, IsTopic t := by
  intro t ht
  rw [topicsOf_eq, topicsAmong, List.mem_filter, List.mem_map] at ht
  obtain ⟨⟨item, hitem, rfl⟩, hne⟩ := ht
  obtain ⟨-, hcommaless, -⟩ := Text.split_eq_iff.1 (rfl : Text.split ',' text = Text.split ',' text)
  exact ⟨by simpa using hne, fun hcomma => hcommaless item hitem (Text.mem_of_mem_trim hcomma),
    Text.isTrimmed_trim item⟩

/-- The topics of a text are those among the items that have been joined to it. -/
theorem topicsOf_intercalate (h : ∀ item ∈ items, ',' ∉ item.toList) :
    topicsOf (",".intercalate items) = topicsAmong items := by
  rw [topicsOf_eq]
  by_cases hne : items = []
  · -- The empty text is split into one piece where there was no item, but that piece is blank.
    subst hne
    rfl
  · have hsplit : Text.split ',' (",".intercalate items) = items :=
      Text.split_eq_iff.2 ⟨hne, h, rfl⟩
    rw [hsplit]

/-- The topics of a text are the only ones that it lists. -/
theorem topicsOf_eq_iff :
    topicsOf text = topics ↔
      (∀ t ∈ topics, IsTopic t) ∧ ∃ items, Lists items topics ∧ ",".intercalate items = text := by
  constructor
  · rintro rfl
    obtain ⟨-, -, hjoin⟩ := Text.split_eq_iff.1 (rfl : Text.split ',' text = Text.split ',' text)
    exact ⟨isTopic_of_mem_topicsOf, Text.split ',' text, lists_topicsAmong _, hjoin⟩
  · rintro ⟨htopics, items, hlists, rfl⟩
    rw [topicsOf_intercalate (hlists.commaless htopics), hlists.topicsAmong_eq htopics]

/-- The topics of a process are those that the text of its setting lists, whatever blanks and blank
    items it has, in their order and as often as they are listed. From any text nothing but topics
    is read, and these are read again when they are written with commas alone between them. -/
theorem topics_listed (s : Settings) :
    (∀ topics, s.topics = topics ↔ (∀ t ∈ topics, IsTopic t) ∧
      ∃ items, Lists items topics ∧ ",".intercalate items = s.notificationTopics) ∧
      (∀ t ∈ s.topics, IsTopic t) ∧
      { s with notificationTopics := ",".intercalate s.topics }.topics = s.topics := by
  refine ⟨fun topics => topicsOf_eq_iff, isTopic_of_mem_topicsOf, ?_⟩
  exact topicsOf_eq_iff.2 ⟨isTopic_of_mem_topicsOf, s.topics, .refl _, rfl⟩

/-- A text that lists topics with blanks of several kinds, blank items and a repetition. -/
def padded : Settings :=
  { (default : Settings) with notificationTopics := " user ,,\u3000billing,\u00a0\t,user," }

/-- The blanks are gone, and the text of what is left is read as the padded one is. -/
theorem topics_listed_padded :
    padded.topics = ["user", "billing", "user"] ∧
      { padded with notificationTopics := "user,billing,user" }.topics = padded.topics := by
  obtain ⟨hiff, -, hagain⟩ := topics_listed padded
  have hempty : Text.AllBlank "" := Text.allBlank_empty
  have hspace : Text.AllBlank " " := by decide +kernel
  have hwide : Text.AllBlank "\u3000" := by decide +kernel
  have hblank : Text.AllBlank "\u00a0\t" := by decide +kernel
  have hlists : Lists [" " ++ "user" ++ " ", "", "\u3000" ++ "billing" ++ "", "\u00a0\t",
      "" ++ "user" ++ "", ""] ["user", "billing", "user"] :=
    .topic hspace hspace <| .blank hempty <| .topic hwide hempty <| .blank hblank <|
      .topic hempty hempty <| .blank hempty .nil
  have htopics : padded.topics = ["user", "billing", "user"] :=
    (hiff _).2 ⟨by decide +kernel, _, hlists, by decide +kernel⟩
  have hjoin : ",".intercalate ["user", "billing", "user"] = "user,billing,user" := by
    decide +kernel
  refine ⟨htopics, ?_⟩
  rw [htopics, hjoin] at hagain
  exact hagain.trans htopics.symm

end Courier.Settings
