import Courier.Table
import Mathlib.Data.List.Nodup

/-!
# Tables with one value for each key

A table that has been built by putting values under keys and taking them out again has at most one
entry for each key. Then its entries are what its keys find.

* `Table.Distinct`: no key comes twice.
* `Table.Distinct.insert`, `Table.Distinct.filter`, `Table.Distinct.erase`: that stays so.
* `Table.Distinct.get?_eq_some_iff`: what a key finds is an entry, and the other way round.
* `Table.Distinct.get?_filter`: what a key finds among the entries that pass a test.
* `Table.get?_map`: what a key finds when all values have been changed.
* `Table.countP_values_insert`: how many values pass a test when one has been replaced.
* `Table.KeyedBy`: every value is under the key that it names.
-/

namespace Courier.Table

variable {κ α : Type}

/-- No key comes twice. -/
def Distinct (t : Table κ α) : Prop := (t.entries.map (·.1)).Nodup

theorem distinct_empty : (empty : Table κ α).Distinct := List.nodup_nil

theorem Distinct.filter {t : Table κ α} (h : t.Distinct) (p : α → Bool) : (t.filter p).Distinct :=
  h.sublist (List.filter_sublist.map _)

/-- Every value is under the key that it names. -/
def KeyedBy (t : Table κ α) (key : α → κ) : Prop := ∀ e ∈ t.entries, key e.2 = e.1

theorem keyedBy_empty (key : α → κ) : (empty : Table κ α).KeyedBy key := nofun

theorem KeyedBy.map_values {t : Table κ α} {key : α → κ} (h : t.KeyedBy key) :
    t.values.map key = t.entries.map (·.1) := by
  rw [values, List.map_map]
  exact List.map_congr_left h

/-- The values are changed, and still name the same keys. -/
theorem KeyedBy.map {t : Table κ α} {key : α → κ} (h : t.KeyedBy key) {f : α → α}
    (hf : ∀ a, key (f a) = key a) : (t.map f).KeyedBy key := by
  intro e he
  obtain ⟨e', he', rfl⟩ := List.mem_map.1 he
  exact (hf e'.2).trans (h e' he')

theorem Distinct.map {t : Table κ α} (h : t.Distinct) (f : α → α) : (t.map f).Distinct := by
  rw [Distinct, Table.map, List.map_map]
  exact h

variable [DecidableEq κ]

theorem Distinct.erase {t : Table κ α} (h : t.Distinct) (key : κ) : (t.erase key).Distinct :=
  h.sublist (List.filter_sublist.map _)

/-- The keys after a value has been put under one: the same, or this one more at the end. -/
theorem map_fst_put (key : κ) (value : α) (es : List (κ × α)) :
    (put key value es).map (·.1) =
      if key ∈ es.map (·.1) then es.map (·.1) else es.map (·.1) ++ [key] := by
  induction es with
  | nil => rfl
  | cons e es ih =>
    rw [put]
    by_cases hkey : e.1 = key
    · simp [hkey]
    · have hne : ¬ key = e.1 := fun heq => hkey heq.symm
      simp only [hkey, if_false, List.map_cons, ih, List.mem_cons, hne, false_or]
      split
      · rfl
      · rfl

theorem Distinct.insert {t : Table κ α} (h : t.Distinct) (key : κ) (value : α) :
    (t.insert key value).Distinct := by
  change ((put key value t.entries).map (·.1)).Nodup
  rw [map_fst_put]
  split
  next => exact h
  next hnew => exact List.nodup_append.2 ⟨h, List.nodup_singleton key, fun k hk k' hk' heq =>
    hnew (List.mem_singleton.1 hk' ▸ heq ▸ hk)⟩

theorem Distinct.get?_eq_some_iff {t : Table κ α} (h : t.Distinct) {key : κ} {a : α} :
    t.get? key = some a ↔ (key, a) ∈ t.entries := by
  obtain ⟨es⟩ := t
  change lookup key es = some a ↔ (key, a) ∈ es
  induction es with
  | nil => simp [lookup]
  | cons e es ih =>
    obtain ⟨hnew, hes⟩ := List.nodup_cons.1 h
    rw [lookup, List.mem_cons]
    by_cases hkey : e.1 = key
    · have hlater : (key, a) ∉ es := fun hmem => hnew (List.mem_map.2 ⟨_, hmem, hkey.symm⟩)
      rw [if_pos hkey, or_iff_left hlater, Option.some.injEq]
      exact ⟨fun heq => Prod.ext hkey.symm heq.symm, fun heq => (congrArg Prod.snd heq).symm⟩
    · have hfirst : (key, a) ≠ e := fun heq => hkey (congrArg Prod.fst heq).symm
      rw [if_neg hkey, or_iff_right hfirst, ih hes]

/-- A key finds its value among the entries that pass a test, if the value passes it. -/
theorem Distinct.get?_filter {t : Table κ α} (h : t.Distinct) (p : α → Bool) (key : κ) :
    (t.filter p).get? key = (t.get? key).filter p := by
  ext a
  rw [(h.filter p).get?_eq_some_iff, Option.filter_eq_some_iff, h.get?_eq_some_iff]
  exact List.mem_filter

theorem get?_map (t : Table κ α) (f : α → α) (key : κ) :
    (t.map f).get? key = (t.get? key).map f := by
  obtain ⟨es⟩ := t
  change lookup key (es.map fun e => (e.1, f e.2)) = (lookup key es).map f
  induction es with
  | nil => rfl
  | cons e es ih =>
    rw [List.map_cons, lookup, lookup, ih]
    split
    · rfl
    · rfl

/-- Where a value is replaced, the number of values that pass a test changes by what the old one and
    the new one count. -/
theorem countP_values_insert {t : Table κ α} {key : κ} {old : α} (h : t.get? key = some old)
    (new : α) (p : α → Bool) :
    (t.insert key new).values.countP p + [old].countP p = t.values.countP p + [new].countP p := by
  obtain ⟨es⟩ := t
  change ((put key new es).map (·.2)).countP p + _ = (es.map (·.2)).countP p + _
  replace h : lookup key es = some old := h
  induction es with
  | nil => cases h
  | cons e es ih =>
    rw [lookup] at h
    rw [put]
    split at h
    next hkey =>
      obtain rfl := Option.some.inj h
      simp only [if_pos hkey, List.map_cons, List.countP_cons, List.countP_nil]
      omega
    next hkey =>
      have ih := ih h
      simp only [if_neg hkey, List.map_cons, List.countP_cons, List.countP_nil] at ih ⊢
      omega

/-- The values are what the keys find. -/
theorem Distinct.mem_values_iff {t : Table κ α} (h : t.Distinct) {a : α} :
    a ∈ t.values ↔ ∃ key, t.get? key = some a := by
  simp only [values, List.mem_map, h.get?_eq_some_iff]
  constructor
  · rintro ⟨⟨key, _⟩, he, rfl⟩
    exact ⟨key, he⟩
  · rintro ⟨key, he⟩
    exact ⟨(key, a), he, rfl⟩

theorem mem_put {key : κ} {value : α} {es : List (κ × α)} {e : κ × α} (h : e ∈ put key value es) :
    e = (key, value) ∨ e ∈ es := by
  induction es with
  | nil => exact .inl (List.mem_singleton.1 h)
  | cons e' es ih =>
    rw [put] at h
    split at h
    next => exact (List.mem_cons.1 h).imp_right (List.mem_cons_of_mem _)
    next =>
      rcases List.mem_cons.1 h with rfl | h
      · exact .inr List.mem_cons_self
      · exact (ih h).imp_right (List.mem_cons_of_mem _)

theorem KeyedBy.insert {t : Table κ α} {key : α → κ} (h : t.KeyedBy key) {k : κ} {value : α}
    (hk : key value = k) : (t.insert k value).KeyedBy key := by
  intro e he
  rcases mem_put he with rfl | he
  · exact hk
  · exact h e he

/-- A value is found under the key that it names and under no other. -/
theorem KeyedBy.eq_of_get? {t : Table κ α} {key : α → κ} (h : t.KeyedBy key) (hd : t.Distinct)
    {k : κ} {a : α} (hget : t.get? k = some a) : key a = k :=
  h _ (hd.get?_eq_some_iff.1 hget)

end Courier.Table
