import Courier.Proofs.Json.Steady

/-!
# Records are read whatever their layout

Neither the white space in an object or an array nor the way in which a value is spelled makes a
difference to the record that is read. What has been read can be written and read again.

* `steady_readRecord`, `Model.parse_respaced`: white space makes no difference to a record.
* `FreeCodec`: a codec for whose values the layout makes no difference, and whose values are read
  again once they have been read.
* `Field.Free`, `FreeFields`: fields of such codecs.
* `Model.parse_printAsRow`: a record that has been read is read again from an array.
-/

namespace Courier.Json

/-! ### Records -/

section Records

variable {fs : List Field}

theorem steady_readSlot (hfs : ∀ f ∈ fs, LayoutFree f.codec.read) (slots : Slots fs)
    (name : String) : Steady (readSlot fs slots name) := by
  induction fs with
  | nil =>
    intro r r' s s' slots' rest hs h hr
    obtain ⟨rest', hskip, hrest⟩ := exists_of_map_eq_ok h
    cases hrest
    obtain ⟨t, hcolon, hvalue⟩ := exists_of_bind_eq_ok hskip
    obtain ⟨t', hcolon', ht⟩ :=
      steadyScan_skipColon hs hcolon (Nat.le_trans hr (skip_length_le hvalue))
    obtain ⟨rest', hvalue', hrest⟩ := steadyScan_skip _ _ ht hvalue hr
    refine ⟨rest', ?_, hrest⟩
    rw [readSlot]
    beta_reduce
    rw [hcolon', ok_bind, skipValue, hvalue']
    rfl
  | cons f fs ih =>
    obtain ⟨hf, hfs⟩ := List.forall_mem_cons.1 hfs
    obtain ⟨slot, slots⟩ := slots
    intro r r' s s' slots' rest hs h hr
    rw [readSlot] at h
    split at h
    next heq =>
      split at h
      next => cases h
      next hslot =>
        beta_reduce at h
        split at h
        next => cases h
        next value rest' hvalue =>
          cases h
          obtain ⟨rest', hvalue', hrest⟩ := hf.colon hs hvalue hr
          refine ⟨rest', (if_pos heq).trans ((if_neg hslot).trans ?_), hrest⟩
          simp only [show (skipColon s' >>= f.codec.read) = .ok (value, rest') from hvalue']
    next hne =>
      obtain ⟨⟨slots'', rest'⟩, hslots, hrest⟩ := exists_of_map_eq_ok h
      cases hrest
      obtain ⟨rest', hslots', hrest⟩ := ih hfs slots hs hslots hr
      exact ⟨rest', (if_neg hne).trans (congrArg (Except.map _) hslots'), hrest⟩

theorem layoutFreeMembers_readSlot (hfs : ∀ f ∈ fs, LayoutFree f.codec.read) :
    LayoutFreeMembers (readSlot fs) where
  passesMembers := readSlot_passesMembers fun f hf => (hfs f hf).passesOver
  steady := steady_readSlot hfs

/-- Either a field has an element, or there are no more elements and it has a value to stand for
    it. -/
theorem readRow_cases {f : Field} {isFirst : Bool} {s rest : Bytes} {value : f.type}
    {values : Record fs} (h : readRow (f :: fs) isFirst s = .ok ((value, values), rest)) :
    (nextElement isFirst s = .ok none ∧ f.fallback = some value ∧
        readRow fs isFirst s = .ok (values, rest)) ∨
      ∃ t u, nextElement isFirst s = .ok (some t) ∧ f.codec.read t = .ok (value, u) ∧
        readRow fs false u = .ok (values, rest) := by
  rw [readRow] at h
  split at h
  next => cases h
  next hnone =>
    split at h
    next => cases h
    next value' hfallback =>
      obtain ⟨⟨values', rest'⟩, hvalues, hrest⟩ := exists_of_map_eq_ok h
      cases hrest
      exact .inl ⟨hnone, hfallback, hvalues⟩
  next t hsome =>
    split at h
    next => cases h
    next value' u hvalue =>
      obtain ⟨⟨values', rest'⟩, hvalues, hrest⟩ := exists_of_map_eq_ok h
      cases hrest
      exact .inr ⟨t, u, hsome, hvalue, hvalues⟩

theorem readRow_none {f : Field} {isFirst : Bool} {s rest : Bytes} {value : f.type}
    {values : Record fs} (hnone : nextElement isFirst s = .ok none)
    (hfallback : f.fallback = some value) (h : readRow fs isFirst s = .ok (values, rest)) :
    readRow (f :: fs) isFirst s = .ok ((value, values), rest) := by
  rw [readRow, hnone]
  simp only [hfallback, h]
  rfl

theorem readRow_some {f : Field} {isFirst : Bool} {s t u rest : Bytes} {value : f.type}
    {values : Record fs} (hsome : nextElement isFirst s = .ok (some t))
    (hvalue : f.codec.read t = .ok (value, u)) (h : readRow fs false u = .ok (values, rest)) :
    readRow (f :: fs) isFirst s = .ok ((value, values), rest) := by
  rw [readRow, hsome]
  simp only [hvalue, h]
  rfl

/-- Where there are no more elements, nothing more is read. -/
theorem eq_of_readRow_none {isFirst : Bool} {s rest : Bytes} {record : Record fs}
    (hnone : nextElement isFirst s = .ok none)
    (h : readRow fs isFirst s = .ok (record, rest)) : rest = s := by
  induction fs with
  | nil =>
    cases h
    rfl
  | cons f fs ih =>
    obtain ⟨value, values⟩ := record
    rcases readRow_cases h with ⟨-, -, h⟩ | ⟨t, u, hsome, -, -⟩
    · exact ih h
    · cases hnone.symm.trans hsome

theorem readRow_length_le (hfs : ∀ f ∈ fs, LayoutFree f.codec.read) {isFirst : Bool}
    {s rest : Bytes} {record : Record fs} (h : readRow fs isFirst s = .ok (record, rest)) :
    rest.length ≤ s.length := by
  induction fs generalizing isFirst s with
  | nil =>
    cases h
    exact Nat.le_refl _
  | cons f fs ih =>
    obtain ⟨hf, hfs⟩ := List.forall_mem_cons.1 hfs
    obtain ⟨value, values⟩ := record
    rcases readRow_cases h with ⟨-, -, h⟩ | ⟨t, u, hsome, hvalue, h⟩
    · exact ih hfs h
    · obtain ⟨b, w, rfl, -, hlt⟩ := nextElement_eq_some hsome
      have hu := skip_length_le (hf.passesOver hvalue)
      have hrest := ih hfs h
      rw [List.length_cons] at hu
      omega

/-- The elements of a record are read in front of both ends, with the bracket that closes their
    array. -/
theorem Respaced.readRow (hfs : ∀ f ∈ fs, LayoutFree f.codec.read) {isFirst : Bool}
    {r r' s s' u rest : Bytes} {record : Record fs} (hs : Respaced r r' s s')
    (h : Json.readRow fs isFirst s = .ok (record, u)) (hclosing : readClosing .array u = .ok rest)
    (hr : r.length ≤ rest.length) :
    ∃ u', Json.readRow fs isFirst s' = .ok (record, u') ∧ Respaced r r' u u' := by
  induction fs generalizing isFirst s s' with
  | nil =>
    cases h
    exact ⟨s', rfl, hs⟩
  | cons f fs ih =>
    obtain ⟨hf, hfs⟩ := List.forall_mem_cons.1 hfs
    obtain ⟨value, values⟩ := record
    rcases readRow_cases h with ⟨hnone, hfallback, h⟩ | ⟨t, v, hsome, hvalue, h⟩
    · -- After the last element the closing bracket is next, in the other text too.
      obtain rfl := eq_of_readRow_none hnone h
      have hnone' := hs.nextElement_none (readClosing_eq_ok hclosing) hr isFirst
      obtain ⟨u', h', hu⟩ := ih hfs hs h
      exact ⟨u', readRow_none hnone' hfallback h', hu⟩
    · obtain ⟨b, w, rfl, hspace, -⟩ := nextElement_eq_some hsome
      have hu := front?_length_lt (readClosing_eq_ok hclosing)
      have hv := readRow_length_le hfs h
      have hw := hf.passesOver.length_le hspace hvalue
      obtain ⟨w', hsome', hled⟩ := hs.nextElement_some hsome (by omega)
      obtain ⟨v', hvalue', hs'⟩ := hf.steady hled.cons hvalue (by omega)
      obtain ⟨u', h', hrest⟩ := ih hfs hs' h
      exact ⟨u', readRow_some hsome' hvalue' h', hrest⟩

/-- A record is read from an object or from an array. -/
theorem exists_of_readRecord {s rest : Bytes} {record : Record fs}
    (h : readRecord fs s = .ok (record, rest)) :
    (∃ t slots u, front? s = some (0x7B, t) ∧
      readMembers (readSlot fs) true (Slots.empty fs) t = .ok (slots, u) ∧
        Slots.close? fs slots = some record ∧ readClosing .object u = .ok rest) ∨
      ∃ t u, front? s = some (0x5B, t) ∧ readRow fs true t = .ok (record, u) ∧
        readClosing .array u = .ok rest := by
  rw [readRecord] at h
  split at h
  next => cases h
  next b t hfront =>
    split at h
    next hobject =>
      split at h
      next => cases h
      next slots u hmembers =>
        split at h
        next => cases h
        next record' hclose =>
          obtain ⟨rest', hclosing, hrest⟩ := exists_of_map_eq_ok h
          cases hrest
          exact .inl ⟨t, slots, u, hobject ▸ hfront, hmembers, hclose, hclosing⟩
    next =>
      split at h
      next harray =>
        split at h
        next => cases h
        next record' u hrow =>
          obtain ⟨rest', hclosing, hrest⟩ := exists_of_map_eq_ok h
          cases hrest
          exact .inr ⟨t, u, harray ▸ hfront, hrow, hclosing⟩
      next => cases h

theorem readRecord_object {s t u rest : Bytes} {slots : Slots fs} {record : Record fs}
    (hfront : front? s = some (0x7B, t))
    (hmembers : readMembers (readSlot fs) true (Slots.empty fs) t = .ok (slots, u))
    (hclose : Slots.close? fs slots = some record) (hclosing : readClosing .object u = .ok rest) :
    readRecord fs s = .ok (record, rest) := by
  rw [readRecord, hfront]
  simp only [if_true, hmembers, hclose, hclosing]
  rfl

theorem readRecord_array {s t u rest : Bytes} {record : Record fs}
    (hfront : front? s = some (0x5B, t)) (hrow : readRow fs true t = .ok (record, u))
    (hclosing : readClosing .array u = .ok rest) : readRecord fs s = .ok (record, rest) := by
  rw [readRecord, hfront]
  simp only [hrow, hclosing]
  rfl

theorem steady_readRecord (hfs : ∀ f ∈ fs, LayoutFree f.codec.read) : Steady (readRecord fs) := by
  intro r r' s s' record rest hs h hr
  rcases exists_of_readRecord h with
    ⟨t, slots, u, hfront, hmembers, hclose, hclosing⟩ | ⟨t, u, hfront, hrow, hclosing⟩
  · have hu := front?_length_lt (readClosing_eq_ok hclosing)
    have ht := readMembers_length_le hmembers
    obtain ⟨t', hfront', hled⟩ := hs.front hfront (by omega)
    obtain ⟨u', hmembers', hu'⟩ :=
      (layoutFreeMembers_readSlot hfs).members (hled.of_mark rfl) hmembers hclosing hr
    obtain ⟨rest', hclosing', hrest⟩ := steadyScan_readClosing .object hu' hclosing hr
    exact ⟨rest', readRecord_object hfront' hmembers' hclose hclosing', hrest⟩
  · have hu := front?_length_lt (readClosing_eq_ok hclosing)
    have ht := readRow_length_le hfs hrow
    obtain ⟨t', hfront', hled⟩ := hs.front hfront (by omega)
    obtain ⟨u', hrow', hu'⟩ := (hled.of_mark rfl).readRow hfs hrow hclosing hr
    obtain ⟨rest', hclosing', hrest⟩ := steadyScan_readClosing .array hu' hclosing hr
    exact ⟨rest', readRecord_array hfront' hrow' hclosing', hrest⟩

/-- Where only white space remains of one text, only white space remains of the other. -/
theorem Respaced.isEmpty_skipSpace {s s' : Bytes} (hs : Respaced [] [] s s')
    (h : (skipSpace s).isEmpty = true) : (skipSpace s').isEmpty = true := by
  rcases hs' : skipSpace s' with - | ⟨b, t⟩
  · rfl
  · have hfront : front? s' = some (b, t) := by
      rw [front?, hs']
    obtain ⟨t', hfront', -⟩ := hs.symm.front hfront (Nat.zero_le _)
    rw [front?, List.isEmpty_iff.1 h] at hfront'
    cases hfront'

/-- A whole text says a value if a record is read of it, and nothing but white space remains. -/
theorem Model.parse_eq_ok_iff {α : Type} [Model α] {s : Bytes} {a : α} :
    parse s = .ok a ↔ ∃ record rest, readRecord (fields α) s = .ok (record, rest) ∧
      (skipSpace rest).isEmpty = true ∧ ofRecord record = a := by
  rw [parse, Model.read]
  rcases readRecord (fields α) s with fault | ⟨record, rest⟩
  · simp [Except.map]
  · by_cases hempty : skipSpace rest = []
    · simp [Except.map, hempty]
    · simp [Except.map, hempty]

/-- The white space in a text makes no difference to the value that it says. -/
theorem Model.parse_respaced {α : Type} [Model α] (hα : ∀ f ∈ fields α, LayoutFree f.codec.read)
    {s s' : Bytes} {a : α} (hs : Respaced [] [] s s') (h : parse s = .ok a) : parse s' = .ok a := by
  obtain ⟨record, rest, hrecord, hempty, ha⟩ := parse_eq_ok_iff.1 h
  obtain ⟨rest', hrecord', hrest⟩ := steady_readRecord hα hs hrecord (Nat.zero_le _)
  exact parse_eq_ok_iff.2 ⟨record, rest', hrecord', hrest.isEmpty_skipSpace hempty, ha⟩

end Records

/-! ### Codecs -/

/-- Every value is written as a string. -/
class QuotedCodec (α : Type) [Codec α] : Prop where
  exists_quote : ∀ a : α, ∃ text, Codec.print a = quote text

/-- A codec for which the layout of values makes no difference, and whose values are read again as
    elements of an array once they have been read, or stand for something that is missing. -/
class FreeCodec (α : Type) [Codec α] : Prop where
  layoutFree : LayoutFree (Codec.read : Reader α)
  isElement : ∀ {s rest : Bytes} {a : α}, Codec.read s = .ok (a, rest) →
    IsElement Codec.read Codec.print a
  absent : ∀ {a : α}, Codec.absent = some a → IsElement Codec.read Codec.print a := by nofun

section Codecs

variable {α : Type} [Codec α]

theorem front_quote (text : String) :
    ∃ b s, quote text = b :: s ∧ isSpace b = false ∧ b ≠ 0x5D :=
  ⟨_, _, rfl, rfl, by decide⟩

theorem isElement_of_quoted [h : QuotedCodec α] {a : α} (ha : ReadsBack a) :
    IsElement Codec.read Codec.print a where
  front := by
    obtain ⟨text, htext⟩ := h.exists_quote a
    rw [htext]
    exact front_quote text
  readsBack := ha

instance : QuotedCodec String := ⟨fun text => ⟨text, rfl⟩⟩
instance : QuotedCodec Uuid := ⟨fun id => ⟨id.text, rfl⟩⟩
instance : QuotedCodec Instant := ⟨fun t => ⟨t.text, rfl⟩⟩
instance : QuotedCodec TimeOfDay := ⟨fun t => ⟨t.text, rfl⟩⟩

instance : FreeCodec String where
  layoutFree := layoutFree_readText
  isElement _ := isElement_of_quoted (LawfulCodec.read_print _)

instance : FreeCodec Uuid where
  layoutFree := layoutFree_readSpelled _
  isElement _ := isElement_of_quoted (LawfulCodec.read_print _)

instance : FreeCodec TimeOfDay where
  layoutFree := layoutFree_readSpelled _
  isElement _ := isElement_of_quoted (LawfulCodec.read_print _)

instance : FreeCodec Instant where
  layoutFree := layoutFree_readSpelled _
  isElement h := by
    obtain ⟨text, -, ht⟩ := exists_of_readSpelled h
    exact isElement_of_quoted (readsBack_instant (Instant.isReadable_of_ofText? ht))

instance : FreeCodec Bool where
  layoutFree := layoutFree_readFlag
  isElement := by
    rintro s rest flag -
    refine ⟨?_, LawfulCodec.read_print flag⟩
    rcases flag with - | -
    · exact ⟨_, _, rfl, rfl, by decide⟩
    · exact ⟨_, _, rfl, rfl, by decide⟩

instance : FreeCodec UInt32 where
  layoutFree := (layoutFree_readNatural _).map UInt32.ofNat
  isElement := by
    rintro s rest n -
    refine ⟨?_, LawfulCodec.read_print n⟩
    have hfront : ∀ d < 10, isSpace (digitByte d) = false ∧ digitByte d ≠ 0x5D := by
      decide +kernel
    obtain ⟨d, hd, t, ht, -⟩ := exists_cons_printNatural n.toNat
    exact ⟨digitByte d, t, ht, hfront d hd⟩

instance : FreeCodec Bytes where
  layoutFree := layoutFree_readBytes
  isElement := by
    rintro s rest bytes -
    exact ⟨⟨_, _, rfl, rfl, by decide⟩, LawfulCodec.read_print bytes⟩

instance : FreeCodec TextMap where
  layoutFree := layoutFree_readTextMap
  isElement := by
    rintro s rest m -
    exact ⟨⟨_, _, rfl, rfl, by decide⟩, LawfulCodec.read_print m⟩

omit [Codec α] in
theorem read_of_readOptional {read : Reader α} {s rest : Bytes} {a : α}
    (h : readOptional read s = .ok (some a, rest)) : read s = .ok (a, rest) := by
  rw [readOptional] at h
  split at h
  next =>
    obtain ⟨rest', -, hrest⟩ := exists_of_map_eq_ok h
    cases hrest
  next =>
    split at h
    next => cases h
    next a' rest' ha =>
      cases h
      exact ha

theorem isElement_none : IsElement Codec.read Codec.print (none : Option α) :=
  ⟨⟨_, _, rfl, rfl, by decide⟩, readsBack_none⟩

instance [h : FreeCodec α] [q : QuotedCodec α] : FreeCodec (Option α) where
  layoutFree := h.layoutFree.optional
  isElement := by
    intro s rest o ho
    rcases o with - | a
    · exact isElement_none
    have ha : Codec.read s = .ok (a, rest) := read_of_readOptional ho
    have hback : ReadsBack a := (h.isElement ha).readsBack
    obtain ⟨text, htext⟩ := q.exists_quote a
    -- A value that is written as a string is not taken for null.
    have hfront : ∀ s, ∃ b t, front? (Codec.print a ++ s) = some (b, t) ∧ b ≠ 0x6E := fun s =>
      ⟨_, _, htext ▸ front?_quote text s, by decide⟩
    refine ⟨?_, hback.some hfront⟩
    have hquote := front_quote text
    rwa [← htext] at hquote
  absent := by
    rintro o ⟨⟩
    exact isElement_none

theorem freeCodec_named (α : Type) [Named α] : @FreeCodec α (namedCodec α) := by
  let := namedCodec α
  have hquoted : QuotedCodec α := ⟨fun a => ⟨Named.name a, rfl⟩⟩
  exact ⟨layoutFree_readNamed, fun _ => isElement_of_quoted ((lawful_namedCodec α).read_print _),
    nofun⟩

instance : FreeCodec Outbox.Status := freeCodec_named Outbox.Status
instance : FreeCodec Notification.Channel := freeCodec_named Notification.Channel
instance : FreeCodec Notification.DeliveryStatus := freeCodec_named Notification.DeliveryStatus
instance : FreeCodec Notification.Platform := freeCodec_named Notification.Platform

end Codecs

/-! ### Fields -/

/-- A field for whose values the layout makes no difference, and whose values are read again as
    elements of an array. -/
structure Field.Free (f : Field) : Prop where
  layoutFree : LayoutFree f.codec.read
  isElement : ∀ {s a rest}, f.codec.read s = .ok (a, rest) →
    IsElement f.codec.read f.codec.print a
  absent : ∀ {a}, f.absent = some a → IsElement f.codec.read f.codec.print a

theorem Field.free_plain (name : String) (type : Type) [Codec type] [h : FreeCodec type] :
    (Field.plain name type).Free :=
  ⟨h.layoutFree, h.isElement, h.absent⟩

theorem Field.free_sparse (name : String) {type : Type} [Codec type] [h : FreeCodec type]
    [DecidableEq type] {blank : type} (hblank : IsElement Codec.read Codec.print blank) :
    (Field.sparse name blank).Free where
  layoutFree := h.layoutFree
  isElement := h.isElement
  absent := by
    rintro a ⟨⟩
    exact hblank

/-- All fields of a record are free. -/
class FreeFields (fs : List Field) : Prop where
  free : ∀ f ∈ fs, f.Free

theorem isElement_empty : IsElement Codec.read Codec.print TextMap.empty :=
  ⟨⟨_, _, rfl, rfl, by decide⟩, LawfulCodec.read_print _⟩

section FreeFields

variable {name : String} {type : Type} {fs : List Field} [h : FreeFields fs]

instance : FreeFields [] := ⟨nofun⟩

instance [Codec type] [FreeCodec type] : FreeFields (.plain name type :: fs) :=
  ⟨List.forall_mem_cons.2 ⟨Field.free_plain _ _, h.free⟩⟩

instance [DecidableEq type] [Codec type] [FreeCodec (Option type)] :
    FreeFields (.sparse name (none : Option type) :: fs) :=
  ⟨List.forall_mem_cons.2 ⟨Field.free_sparse _ isElement_none, h.free⟩⟩

instance : FreeFields (.sparse name TextMap.empty :: fs) :=
  ⟨List.forall_mem_cons.2 ⟨Field.free_sparse _ isElement_empty, h.free⟩⟩

end FreeFields

/-- Every value of a record is read again as an element of an array. -/
def AreElements : (fs : List Field) → Record fs → Prop
  | [], _ => True
  | f :: fs, (value, values) => IsElement f.codec.read f.codec.print value ∧ AreElements fs values

section Rows

variable {fs : List Field}

/-- The elements of a record after the first are read up to the closing bracket. -/
theorem readRow_false {record : Record fs} (h : AreElements fs record) (u : Bytes) :
    readRow fs false ((printRow fs record).flatMap (0x2C :: ·) ++ 0x5D :: u) =
      .ok (record, 0x5D :: u) := by
  induction fs with
  | nil => rfl
  | cons f fs ih =>
    obtain ⟨value, values⟩ := record
    obtain ⟨hvalue, hvalues⟩ := h
    obtain ⟨b, t, hb, hspace, hne⟩ := hvalue.front
    have hread := hvalue.readsBack _ (isEnd_flatMap (printRow fs values) (isEnd_closing .array u))
    refine readRow_some ?_ hread (ih hvalues)
    rw [printRow, List.flatMap_cons, List.append_assoc, List.cons_append, nextElement,
      front?_cons rfl, hb, List.cons_append]
    simp only [front?_cons hspace, if_neg hne]
    rfl

/-- The elements of a record are read up to the closing bracket. -/
theorem readRow_join {record : Record fs} (h : AreElements fs record) (u : Bytes) :
    readRow fs true (joinByComma (printRow fs record) ++ 0x5D :: u) = .ok (record, 0x5D :: u) := by
  rcases fs with - | ⟨f, fs⟩
  · rfl
  · obtain ⟨value, values⟩ := record
    obtain ⟨hvalue, hvalues⟩ := h
    obtain ⟨b, t, hb, hspace, hne⟩ := hvalue.front
    have hread := hvalue.readsBack _ (isEnd_flatMap (printRow fs values) (isEnd_closing .array u))
    refine readRow_some ?_ hread (readRow_false hvalues u)
    rw [printRow, joinByComma_cons, List.append_assoc, nextElement, hb, List.cons_append]
    simp only [front?_cons hspace, if_neg hne]
    rfl

/-- The values that have been found are read again as elements of an array. -/
def AreFound : (fs : List Field) → Slots fs → Prop
  | [], _ => True
  | f :: fs, (slot, slots) =>
    (∀ a ∈ slot, IsElement f.codec.read f.codec.print a) ∧ AreFound fs slots

theorem areFound_empty (fs : List Field) : AreFound fs (Slots.empty fs) := by
  induction fs with
  | nil => trivial
  | cons f fs ih => exact ⟨nofun, ih⟩

variable (hfs : ∀ f ∈ fs, f.Free)

include hfs

theorem AreFound.readSlot {slots slots' : Slots fs} {name : String} {s rest : Bytes}
    (hslots : AreFound fs slots) (h : Json.readSlot fs slots name s = .ok (slots', rest)) :
    AreFound fs slots' := by
  induction fs with
  | nil => trivial
  | cons f fs ih =>
    obtain ⟨hf, hfs⟩ := List.forall_mem_cons.1 hfs
    obtain ⟨slot, slots⟩ := slots
    rw [Json.readSlot] at h
    split at h
    next =>
      split at h
      next => cases h
      next =>
        beta_reduce at h
        split at h
        next => cases h
        next value rest' hvalue =>
          cases h
          obtain ⟨t, -, hread⟩ := exists_of_bind_eq_ok hvalue
          refine ⟨?_, hslots.2⟩
          rintro a ⟨⟩
          exact hf.isElement hread
    next =>
      obtain ⟨⟨slots'', rest'⟩, hread, hrest⟩ := exists_of_map_eq_ok h
      cases hrest
      exact ⟨hslots.1, ih hfs hslots.2 hread⟩

theorem AreFound.readMembers {isFirst : Bool} {slots slots' : Slots fs} {s rest : Bytes}
    (hslots : AreFound fs slots)
    (h : Json.readMembers (Json.readSlot fs) isFirst slots s = .ok (slots', rest)) :
    AreFound fs slots' := by
  generalize hlength : s.length = length
  induction length using Nat.strongRecOn generalizing isFirst slots s with
  | _ length ih =>
    subst hlength
    rcases readMembers_cases h with
      ⟨hnone, rfl⟩ | ⟨t, name, u, slots'', s', -, -, hmember, hlt, h⟩
    · rw [Json.readMembers, hnone] at h
      cases h
      exact hslots
    · exact ih _ hlt (hslots.readSlot hfs hmember) h rfl

theorem AreFound.close? {slots : Slots fs} {record : Record fs} (hslots : AreFound fs slots)
    (h : Slots.close? fs slots = some record) : AreElements fs record := by
  induction fs with
  | nil => trivial
  | cons f fs ih =>
    obtain ⟨hf, hfs⟩ := List.forall_mem_cons.1 hfs
    obtain ⟨slot, slots⟩ := slots
    obtain ⟨value, hvalue, h⟩ := Option.bind_eq_some_iff.1 h
    obtain ⟨values, hvalues, h⟩ := Option.bind_eq_some_iff.1 h
    cases h
    refine ⟨?_, ih hfs hslots.2 hvalues⟩
    rcases slot with - | a
    · exact hf.absent hvalue
    · cases hvalue
      exact hslots.1 _ rfl

theorem areElements_of_readRow {isFirst : Bool} {s rest : Bytes} {record : Record fs}
    (h : readRow fs isFirst s = .ok (record, rest)) : AreElements fs record := by
  induction fs generalizing isFirst s with
  | nil => trivial
  | cons f fs ih =>
    obtain ⟨hf, hfs⟩ := List.forall_mem_cons.1 hfs
    obtain ⟨value, values⟩ := record
    rcases readRow_cases h with ⟨-, hfallback, h⟩ | ⟨t, u, -, hvalue, h⟩
    · have habsent : f.absent = some value := by
        rw [Field.absent, hfallback]
        rfl
      exact ⟨hf.absent habsent, ih hfs h⟩
    · exact ⟨hf.isElement hvalue, ih hfs h⟩

/-- The values of a record that has been read are read again as elements of an array. -/
theorem areElements_of_readRecord {s rest : Bytes} {record : Record fs}
    (h : readRecord fs s = .ok (record, rest)) : AreElements fs record := by
  rcases exists_of_readRecord h with ⟨t, slots, u, -, hmembers, hclose, -⟩ | ⟨t, u, -, hrow, -⟩
  · exact ((areFound_empty fs).readMembers hfs hmembers).close? hfs hclose
  · exact areElements_of_readRow hfs hrow

end Rows

/-! ### Models -/

/-- A model for whose values the layout makes no difference: neither for that of a field, nor is
    there more in a record than in a value. -/
structure Model.Free (α : Type) [Model α] : Prop where
  fields : ∀ f ∈ fields α, f.Free
  toRecord_ofRecord : ∀ record : Record (Model.fields α), toRecord (ofRecord record : α) = record

namespace Model

variable {α : Type} [Model α] (hα : Model.Free α)

include hα

/-- A value that has been read is read again from the array of all values of its fields. -/
theorem parse_printAsRow {s : Bytes} {a : α} (h : parse s = .ok a) :
    parse (printAsRow a) = .ok a := by
  obtain ⟨record, rest, hrecord, -, rfl⟩ := parse_eq_ok_iff.1 h
  have hrow := readRow_join (areElements_of_readRecord hα.fields hrecord) []
  have hclosing : readClosing .array [0x5D] = .ok [] := rfl
  rw [printAsRow, hα.toRecord_ofRecord]
  exact parse_eq_ok_iff.2
    ⟨record, [], readRecord_array (front?_cons rfl _) hrow hclosing, rfl, rfl⟩

end Model

end Courier.Json
