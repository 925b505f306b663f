/-!
# Maps of texts

Texts by texts, kept in ascending order of their keys, so that two maps with the same entries are
equal.

* `TextMap.insert`: puts a text under a key, in the place of what was there.
-/

namespace Courier

/-- Texts by texts, in ascending order of their keys. -/
structure TextMap where
  entries : List (String × String)
  sorted : entries.Pairwise fun a b => a.1 < b.1
  deriving DecidableEq

namespace TextMap

/-- The map without entries. -/
def empty : TextMap := ⟨[], .nil⟩

instance : Inhabited TextMap := ⟨empty⟩

def isEmpty (m : TextMap) : Bool := m.entries.isEmpty

/-- Puts an entry into its place in a list of entries. -/
def place (key value : String) : List (String × String) → List (String × String)
  | [] => [(key, value)]
  | e :: es =>
    if key < e.1 then (key, value) :: e :: es
    else if key = e.1 then (key, value) :: es
    else e :: place key value es

theorem mem_place {key value : String} {e : String × String} {es : List (String × String)}
    (h : e ∈ place key value es) : e = (key, value) ∨ e ∈ es := by
  induction es with
  | nil => simpa [place] using h
  | cons d ds ih =>
    unfold place at h
    split at h
    · simpa using h
    · split at h
      · rcases List.mem_cons.mp h with h | h
        · exact .inl h
        · exact .inr (List.mem_cons_of_mem _ h)
      · rcases List.mem_cons.mp h with h | h
        · exact .inr (h ▸ List.mem_cons_self)
        · exact (ih h).imp_right (List.mem_cons_of_mem _)

theorem place_sorted {es : List (String × String)} (key value : String)
    (h : es.Pairwise fun a b => a.1 < b.1) :
    (place key value es).Pairwise fun a b => a.1 < b.1 := by
  induction es with
  | nil => exact List.pairwise_singleton _ _
  | cons d ds ih =>
    obtain ⟨hd, hds⟩ := List.pairwise_cons.mp h
    unfold place
    split
    next hlt =>
      refine List.pairwise_cons.mpr ⟨fun e he => ?_, h⟩
      rcases List.mem_cons.mp he with rfl | he
      · exact hlt
      · exact String.lt_trans hlt (hd e he)
    next hge =>
      split
      next heq => exact List.pairwise_cons.mpr ⟨fun e he => by simpa [heq] using hd e he, hds⟩
      next hne =>
        refine List.pairwise_cons.mpr ⟨fun e he => ?_, ih hds⟩
        rcases mem_place he with rfl | he
        · rcases Std.lt_trichotomy key d.1 with hlt | heq | hgt
          · exact absurd hlt hge
          · exact absurd heq hne
          · exact hgt
        · exact hd e he

/-- Puts a text under a key, in the place of what was there. -/
def insert (m : TextMap) (key value : String) : TextMap :=
  ⟨place key value m.entries, place_sorted key value m.sorted⟩

/-- The map of a list of entries, of which the last for a key counts. -/
def ofList (entries : List (String × String)) : TextMap :=
  entries.foldl (fun m e => m.insert e.1 e.2) empty

/-- The text under a key. -/
def get? (m : TextMap) (key : String) : Option String := m.entries.lookup key

end TextMap

end Courier
