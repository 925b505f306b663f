import Courier.Notification.Channel
import Courier.Outbox.Event
import Courier.Proofs.Json.Number
import Courier.Proofs.Time.Instant

/-!
# Values come back

What has been written in JSON of a value of each type is read again as it was.

* `readElements_join`: the elements of an array.
* `TextMap.ofList_entries`: a map of texts is made of its entries.
* Instances of `LawfulCodec`: flags, numbers, bytes, maps of texts, named values and times of day.
* `readsBack_instant`: an instant, if its year is one that can be read.
-/

namespace Courier

/-! ### Maps of texts -/

namespace TextMap

/-- An entry whose key comes after all others has its place at the end. -/
theorem place_of_lt {key value : String} {es : List (String × String)}
    (h : ∀ e ∈ es, e.1 < key) : place key value es = es ++ [(key, value)] := by
  induction es with
  | nil => rfl
  | cons e es ih =>
    obtain ⟨he, hes⟩ := List.forall_mem_cons.1 h
    rw [place, if_neg (String.lt_asymm he), if_neg (Ne.symm (String.ne_of_lt he)), ih hes]
    rfl

theorem eq_of_entries_eq {m m' : TextMap} (h : m.entries = m'.entries) : m = m' := by
  rcases m with ⟨entries, sorted⟩
  rcases m' with ⟨entries', sorted'⟩
  exact (mk.injEq ..).mpr h

/-- A map is made of its entries. -/
theorem ofList_entries (m : TextMap) : ofList m.entries = m := by
  suffices h : ∀ (es : List (String × String)) (front : TextMap),
      (front.entries ++ es).Pairwise (fun a b => a.1 < b.1) →
        (es.foldl (fun m e => m.insert e.1 e.2) front).entries = front.entries ++ es from
    eq_of_entries_eq (h m.entries empty m.sorted)
  intro es
  induction es with
  | nil => exact fun front _ => (List.append_nil _).symm
  | cons e es ih =>
    intro front h
    -- The keys in front are smaller, so that the next entry is put at the end of them.
    have hfront : ∀ d ∈ front.entries, d.1 < e.1 := fun d hd =>
      (List.pairwise_append.1 h).2.2 d hd e List.mem_cons_self
    have hinsert : (front.insert e.1 e.2).entries = front.entries ++ [e] := place_of_lt hfront
    rw [List.foldl_cons, ih, hinsert, List.append_assoc]
    · rfl
    · rw [hinsert, List.append_assoc]
      exact h

end TextMap

namespace Json

/-! ### Arrays -/

section Elements

variable {α : Type} {read : Reader α} {print : α → Bytes}

/-- What has been written of a value begins neither with a blank nor with a bracket that closes an
    array, and it is read again. -/
structure IsElement (read : Reader α) (print : α → Bytes) (a : α) : Prop where
  front : ∃ b s, print a = b :: s ∧ isSpace b = false ∧ b ≠ 0x5D
  readsBack : ∀ s, IsEnd s → read (print a ++ s) = .ok (a, s)

/-- An element is read, and then those after it. -/
theorem readElements_next {isFirst : Bool} {a : α} {s t : Bytes}
    (hnext : nextElement isFirst t = .ok (some (print a ++ s)))
    (hread : read (print a ++ s) = .ok (a, s)) (hlen : s.length < t.length) :
    readElements read isFirst t =
      (readElements read false s).map fun (as, rest) => (a :: as, rest) := by
  rw [readElements, hnext]
  simp only [hread]
  rw [if_pos hlen]

theorem readElements_false {as : List α} (h : ∀ a ∈ as, IsElement read print a) (s : Bytes) :
    readElements read false ((as.map print).flatMap (0x2C :: ·) ++ 0x5D :: s) =
      .ok (as, 0x5D :: s) := by
  induction as with
  | nil =>
    rw [readElements]
    rfl
  | cons a as ih =>
    obtain ⟨ha, has⟩ := List.forall_mem_cons.1 h
    obtain ⟨b, t, hb, hspace, hne⟩ := ha.front
    have hread := ha.readsBack _ (isEnd_flatMap (as.map print) (isEnd_closing .array s))
    rw [List.map_cons, List.flatMap_cons, List.append_assoc]
    refine (readElements_next ?_ hread ?_).trans (congrArg (Except.map _) (ih has))
    · rw [nextElement, List.cons_append, front?_cons rfl, hb, List.cons_append]
      simp only [front?_cons hspace, if_neg hne]
      rfl
    · simp only [List.length_append, List.length_cons]
      omega

/-- The elements of an array are read up to its closing bracket. -/
theorem readElements_join {as : List α} (h : ∀ a ∈ as, IsElement read print a) (s : Bytes) :
    readElements read true (joinByComma (as.map print) ++ 0x5D :: s) = .ok (as, 0x5D :: s) := by
  rcases as with - | ⟨a, as⟩
  · rw [readElements]
    rfl
  · obtain ⟨ha, has⟩ := List.forall_mem_cons.1 h
    obtain ⟨b, t, hb, hspace, hne⟩ := ha.front
    have hread := ha.readsBack _ (isEnd_flatMap (as.map print) (isEnd_closing .array s))
    rw [List.map_cons, joinByComma_cons, List.append_assoc]
    refine (readElements_next ?_ hread ?_).trans
      (congrArg (Except.map _) (readElements_false has s))
    · rw [nextElement, hb, List.cons_append]
      simp only [front?_cons hspace, if_neg hne, if_true]
      rfl
    · simp only [List.length_append, hb, List.length_cons]
      omega

end Elements

/-! ### Codecs -/

instance : LawfulCodec Bool where
  read_print flag s _ := by
    rcases flag with - | -
    · rfl
    · rfl

instance : LawfulCodec UInt32 where
  read_print n s hs := by
    have hb : n.toNat ≤ UInt32.size - 1 := Nat.le_sub_one_of_lt n.toNat_lt
    have hw : n.toNat ≤ greatestWord := Nat.le_trans hb (by decide)
    change (readNatural (UInt32.size - 1) (printNatural n.toNat ++ s)).map _ = _
    rw [readNatural_printNatural hb hw hs]
    exact congrArg (fun n => Except.ok (n, s)) UInt32.ofNat_toNat

/-- A byte is read as an element of an array. -/
theorem isElement_byte (n : Nat) (h : n ≤ 255) :
    IsElement (readNatural 255) printNatural n where
  front := by
    have hfront : ∀ d < 10, isSpace (digitByte d) = false ∧ digitByte d ≠ 0x5D := by
      decide +kernel
    obtain ⟨d, hd, t, ht, -⟩ := exists_cons_printNatural n
    exact ⟨digitByte d, t, ht, hfront d hd⟩
  readsBack _ hs := readNatural_printNatural h (Nat.le_trans h (by decide)) hs

instance : LawfulCodec Bytes where
  read_print bytes s _ := by
    have hns : ∀ n ∈ bytes.map UInt8.toNat, IsElement (readNatural 255) printNatural n := by
      intro n hn
      obtain ⟨b, -, rfl⟩ := List.mem_map.1 hn
      exact isElement_byte b.toNat (Nat.le_of_lt_succ b.toNat_lt)
    have hread := readElements_join hns s
    have hbytes : (bytes.map UInt8.toNat).map UInt8.ofNat = bytes := by
      simp [Function.comp_def]
    change readBytes
      (0x5B :: joinByComma (bytes.map (printNatural ∘ UInt8.toNat)) ++ [0x5D] ++ s) = _
    rw [List.map_map] at hread
    rw [readBytes, List.append_assoc, List.cons_append, front?_cons rfl, List.singleton_append]
    simp only [if_true, hread]
    rw [readClosing, front?_cons rfl, hbytes]
    rfl

/-- Reads the rest of an entry of a map of texts. -/
def readEntry (m : TextMap) (name : String) : Reader TextMap := fun s =>
  match skipColon s >>= readText with
  | .error fault => .error fault
  | .ok (value, s) => .ok (m.insert name value, s)

/-- Entries are read one after the other, and each is put into the map. -/
theorem reads_entries (es : List (String × String)) (m : TextMap) :
    Reads readEntry m (es.map fun e => (e.1, quote e.2))
      (es.foldl (fun m e => m.insert e.1 e.2) m) := by
  induction es generalizing m with
  | nil => exact .nil m
  | cons e es ih =>
    refine .cons (fun s _ => ?_) (ih (m.insert e.1 e.2))
    rw [readEntry, skipColon, List.cons_append, front?_cons rfl]
    simp only [if_true, bind, Except.bind, readText_quote]

theorem readTextMap_cons {m : TextMap} {s t : Bytes}
    (h : readMembers readEntry true .empty s = .ok (m, 0x7D :: t)) :
    readTextMap (0x7B :: s) = .ok (m, t) := by
  rw [readTextMap, front?_cons rfl]
  simp only [if_true]
  generalize hresult : readMembers _ true TextMap.empty s = result
  obtain rfl : result = .ok (m, 0x7D :: t) := hresult.symm.trans h
  rfl

instance : LawfulCodec TextMap where
  read_print m s _ := by
    have hread := (reads_entries m.entries .empty).readMembers_true s
    rw [show m.entries.foldl _ _ = m from m.ofList_entries, List.map_map] at hread
    change readTextMap (0x7B :: joinByComma _ ++ [0x7D] ++ s) = _
    rw [List.append_assoc]
    exact readTextMap_cons hread

/-- A named value is read by its name. -/
theorem lawful_namedCodec (α : Type) [Named α] : @LawfulCodec α (namedCodec α) :=
  @LawfulCodec.mk α (namedCodec α) fun a s _ => by
    change readNamed (quote (Named.name a) ++ s) = _
    rw [readNamed, front?_quote]
    exact readSpelled_quote (Named.ofName?_name a) s

instance : LawfulCodec Outbox.Status := lawful_namedCodec Outbox.Status
instance : LawfulCodec Notification.Channel := lawful_namedCodec Notification.Channel
instance : LawfulCodec Notification.DeliveryStatus := lawful_namedCodec Notification.DeliveryStatus
instance : LawfulCodec Notification.Platform := lawful_namedCodec Notification.Platform

instance : SolidCodec TimeOfDay where
  read_print t s _ := readSpelled_quote t.ofText?_text s
  front?_print t s := ⟨_, _, front?_quote t.text s, by decide⟩

/-- An instant whose year can be read is read again. -/
theorem readsBack_instant {t : Instant} (h : t.IsReadable) : ReadsBack t := fun s _ =>
  readSpelled_quote (Instant.ofText?_text h) s

theorem readsBack_instant? {t : Option Instant} (h : ∀ x ∈ t.toList, x.IsReadable) :
    ReadsBack t := by
  rcases t with - | t
  · exact readsBack_none
  · have ht : t.IsReadable := h t List.mem_cons_self
    exact (readsBack_instant ht).some fun s => ⟨_, _, front?_quote t.text s, by decide⟩

end Json

end Courier
