import Courier.Json.Record
import Courier.Proofs.Json.Quote
import Courier.Proofs.Uuid

/-!
# Records come back

A value that has been written as JSON is read again as it was. That is said of codecs first, then of
the members of an object that are read one after the other, and then of records.

* `ReadsBack`: what has been written of a value is read again, whatever element or member follows
  it; of a `LawfulCodec` that is true of every value.
* `Reads`: members are read one after the other.
* `Model.parse_print_of_kept`: a record whose fields keep their values and have different names is
  read again as it was.
* `Model.parse_print`: a record of lawful codecs is.
-/

namespace Courier.Json

/-! ### Codecs -/

/-- The end of a text, or a byte that ends an element or a member. -/
def IsEnd (s : Bytes) : Prop := ∀ b ∈ s.head?, b = 0x2C ∨ b = 0x5D ∨ b = 0x7D

theorem isEnd_closing (bracket : Bracket) (s : Bytes) : IsEnd (bracket.closing :: s) := by
  intro b hb
  cases hb
  rcases bracket with - | -
  · exact .inr (.inl rfl)
  · exact .inr (.inr rfl)

/-- What has been written is read again. -/
class LawfulCodec (α : Type) [Codec α] : Prop where
  read_print : ∀ (a : α) (s : Bytes), IsEnd s → Codec.read (Codec.print a ++ s) = .ok (a, s)

/-- What has been written of a value is read again. -/
def ReadsBack {α : Type} [Codec α] (a : α) : Prop :=
  ∀ s : Bytes, IsEnd s → Codec.read (Codec.print a ++ s) = .ok (a, s)

/-- No value is written in a way in which `null` could be written. -/
class SolidCodec (α : Type) [Codec α] : Prop extends LawfulCodec α where
  front?_print : ∀ (a : α) (s : Bytes), ∃ b t, front? (Codec.print a ++ s) = some (b, t) ∧ b ≠ 0x6E

theorem front?_cons {b : UInt8} (h : isSpace b = false) (s : Bytes) :
    front? (b :: s) = some (b, s) := by
  rw [front?, skipSpace, List.dropWhile_cons_of_neg (by simp [h])]

theorem front?_quote (text : String) (s : Bytes) :
    front? (quote text ++ s) = some (0x22, (bytesOf text).flatMap escapeByte ++ 0x22 :: s) := by
  rw [quote, List.append_assoc, List.cons_append, front?_cons rfl]
  simp

theorem readText_quote (text : String) (s : Bytes) :
    readText (quote text ++ s) = .ok (text, s) := by
  rw [readText, front?_quote]
  exact unquote_escaped text s

theorem readSpelled_quote {α : Type} {ofText? : String → Option α} {text : String} {a : α}
    (h : ofText? text = some a) (s : Bytes) :
    readSpelled ofText? (quote text ++ s) = .ok (a, s) := by
  rw [readSpelled, readText_quote]
  simp only [h]

instance : SolidCodec String where
  read_print a s _ := readText_quote a s
  front?_print a s := ⟨_, _, front?_quote a s, by decide⟩

instance : SolidCodec Uuid where
  read_print id s _ := readSpelled_quote id.ofText?_text s
  front?_print id s := ⟨_, _, front?_quote id.text s, by decide⟩

theorem readsBack_none {α : Type} [Codec α] : ReadsBack (none : Option α) := fun _ _ => rfl

/-- What does not begin as `null` does is not taken for it. -/
theorem ReadsBack.some {α : Type} [Codec α] {a : α} (h : ReadsBack a)
    (hf : ∀ s, ∃ b t, front? (Codec.print a ++ s) = some (b, t) ∧ b ≠ 0x6E) :
    ReadsBack (some a) := by
  intro s hs
  obtain ⟨b, t, hf, hb⟩ := hf s
  change readOptional Codec.read (Codec.print a ++ s) = .ok (Option.some a, s)
  rw [readOptional, hf]
  split
  next h => exact absurd (congrArg Prod.fst (Option.some.inj h)) hb
  next => rw [h s hs]

instance {α : Type} [Codec α] [SolidCodec α] : LawfulCodec (Option α) where
  read_print a := by
    rcases a with - | a
    · exact readsBack_none
    · exact ReadsBack.some (LawfulCodec.read_print a) (SolidCodec.front?_print a)

/-! ### Members -/

/-- The given members are read one after the other, and take what has been read so far from one
    value to another. -/
inductive Reads {α : Type} (read : α → String → Reader α) : α → List (String × Bytes) → α → Prop
  | nil (a : α) : Reads read a [] a
  | cons {a a' a'' : α} {name : String} {value : Bytes} {ms : List (String × Bytes)}
      (h : ∀ s, IsEnd s → read a name (0x3A :: value ++ s) = .ok (a', s))
      (hs : Reads read a' ms a'') : Reads read a ((name, value) :: ms) a''

section Members

variable {α : Type} {read : α → String → Reader α} {a a' : α} {ms : List (String × Bytes)}

theorem joinByComma_cons (piece : Bytes) (pieces : List Bytes) :
    joinByComma (piece :: pieces) = piece ++ pieces.flatMap (0x2C :: ·) := by
  induction pieces generalizing piece with
  | nil => simp [joinByComma]
  | cons piece' pieces ih =>
    rw [joinByComma, ih, List.flatMap_cons]
    · rfl
    · rintro ⟨⟩

/-- The pieces after the first one begin with a comma, or nothing comes before what follows them. -/
theorem isEnd_flatMap (pieces : List Bytes) {s : Bytes} (hs : IsEnd s) :
    IsEnd (pieces.flatMap (0x2C :: ·) ++ s) := by
  rcases pieces with - | ⟨piece, pieces⟩
  · exact hs
  · intro b hb
    cases hb
    exact .inl rfl

theorem printMember_append (name : String) (value s : Bytes) :
    printMember name value ++ s =
      0x22 :: ((bytesOf name).flatMap escapeByte ++ 0x22 :: (0x3A :: value ++ s)) := by
  simp [printMember, quote]

/-- A member is read, and then those after it. -/
theorem readMembers_next {isFirst : Bool} {name : String} {value s t : Bytes}
    (hnext : nextMember isFirst t =
      .ok (some ((bytesOf name).flatMap escapeByte ++ 0x22 :: (0x3A :: value ++ s))))
    (hread : read a name (0x3A :: value ++ s) = .ok (a', s)) (hlen : s.length < t.length) :
    readMembers read isFirst a t = readMembers read false a' s := by
  rw [readMembers, hnext]
  simp only [unquote_escaped, hread]
  rw [if_pos hlen]

theorem Reads.readMembers_false (h : Reads read a ms a') (s : Bytes) :
    readMembers read false a
      ((ms.map fun m => printMember m.1 m.2).flatMap (0x2C :: ·) ++ 0x7D :: s) =
        .ok (a', 0x7D :: s) := by
  induction h with
  | nil a =>
    rw [readMembers]
    rfl
  | @cons a a' a'' name value ms h hs ih =>
    rw [List.map_cons, List.flatMap_cons, List.append_assoc]
    refine (readMembers_next ?_ (h _ (isEnd_flatMap _ (isEnd_closing .object s))) ?_).trans ih
    · rw [List.cons_append, printMember_append, nextMember, front?_cons rfl]
      simp only [front?_cons (show isSpace 0x22 = false from rfl)]
      rfl
    · simp only [printMember, List.length_append, List.length_flatMap, List.length_cons,
        List.map_map, List.append_assoc, List.cons_append]
      omega

/-- Members that are read one after the other are read up to the closing bracket. -/
theorem Reads.readMembers_true (h : Reads read a ms a') (s : Bytes) :
    readMembers read true a
      (joinByComma (ms.map fun m => printMember m.1 m.2) ++ 0x7D :: s) = .ok (a', 0x7D :: s) := by
  cases h with
  | nil a =>
    rw [readMembers]
    rfl
  | @cons _ a' _ name value ms h hs =>
    rw [List.map_cons, joinByComma_cons, List.append_assoc]
    refine (readMembers_next ?_ (h _ (isEnd_flatMap _ (isEnd_closing .object s))) ?_).trans
      (hs.readMembers_false s)
    · rw [printMember_append, nextMember, front?_cons rfl]
      rfl
    · simp only [printMember, List.length_append, List.length_flatMap, List.length_cons,
        List.map_map, List.append_assoc, List.cons_append]
      omega

end Members

/-! ### Fields -/

/-- What has been written of a field is read again, and what is left out is what a missing member
    stands for. -/
structure Field.Lawful (f : Field) : Prop where
  codec : @LawfulCodec f.type f.codec
  omitted : ∀ a, f.isOmitted a = true → f.absent = some a

theorem Field.lawful_plain (name : String) (type : Type) [Codec type] [h : LawfulCodec type] :
    (Field.plain name type).Lawful where
  codec := h
  omitted _ ha := by cases ha

theorem Field.lawful_sparse (name : String) {type : Type} [Codec type] [h : LawfulCodec type]
    [DecidableEq type] (blank : type) : (Field.sparse name blank).Lawful where
  codec := h
  omitted (a : type) ha := by
    have ha : a = blank := of_decide_eq_true ha
    rw [ha]
    rfl

/-- What has been written of a value of a field is read again, and if it is left out, then a missing
    member stands for it. -/
structure Field.Keeps (f : Field) (a : f.type) : Prop where
  readsBack : @ReadsBack f.type f.codec a
  omitted : f.isOmitted a = true → f.absent = some a

theorem Field.Lawful.keeps {f : Field} (h : f.Lawful) (a : f.type) : f.Keeps a :=
  ⟨h.codec.read_print a, h.omitted a⟩

theorem Field.keeps_plain {name : String} {type : Type} [Codec type] {a : type}
    (h : ReadsBack a) : (Field.plain name type).Keeps a :=
  ⟨h, fun ha => nomatch ha⟩

/-- Every field of a record keeps its value. -/
def Kept : (fs : List Field) → Record fs → Prop
  | [], _ => True
  | f :: fs, (value, values) => f.Keeps value ∧ Kept fs values

theorem kept_of_lawful {fs : List Field} (hl : ∀ f ∈ fs, f.Lawful) (r : Record fs) : Kept fs r := by
  induction fs with
  | nil => trivial
  | cons f fs ih =>
    obtain ⟨value, values⟩ := r
    exact ⟨(hl f List.mem_cons_self).keeps value,
      ih (fun f hf => hl f (List.mem_cons_of_mem _ hf)) values⟩

/-- The members of a record that are written, by name. -/
def members : (fs : List Field) → Record fs → List (String × Bytes)
  | [], _ => []
  | f :: fs, (value, values) =>
    if f.isOmitted value then members fs values
    else (f.name, f.codec.print value) :: members fs values

/-- The slots that are filled when these members have been read. -/
def filled : (fs : List Field) → Record fs → Slots fs
  | [], _ => ()
  | f :: fs, (value, values) =>
    (if f.isOmitted value then none else some value, filled fs values)

section Cons

variable (f : Field) (fs : List Field) (value : f.type) (values : Record fs)

theorem members_cons :
    members (f :: fs) (value, values) =
      if f.isOmitted value then members fs values
      else (f.name, f.codec.print value) :: members fs values := rfl

theorem filled_cons :
    filled (f :: fs) (value, values) =
      (if f.isOmitted value then none else some value, filled fs values) := rfl

theorem printMembers_cons :
    printMembers (f :: fs) (value, values) =
      if f.isOmitted value then printMembers fs values
      else printMember f.name (f.codec.print value) :: printMembers fs values := rfl

end Cons

theorem printMembers_eq (fs : List Field) (r : Record fs) :
    printMembers fs r = (members fs r).map fun m => printMember m.1 m.2 := by
  induction fs with
  | nil => rfl
  | cons f fs ih =>
    obtain ⟨value, values⟩ := r
    rw [printMembers_cons, members_cons]
    split
    · exact ih values
    · rw [List.map_cons, ih values]

theorem name_mem_of_mem_members {fs : List Field} {r : Record fs} {m : String × Bytes}
    (h : m ∈ members fs r) : m.1 ∈ fs.map (·.name) := by
  induction fs with
  | nil => cases h
  | cons f fs ih =>
    obtain ⟨value, values⟩ := r
    rw [members_cons] at h
    split at h
    · exact List.mem_cons_of_mem _ (ih h)
    · rcases List.mem_cons.1 h with rfl | h
      · exact List.mem_cons_self
      · exact List.mem_cons_of_mem _ (ih h)

theorem close?_filled {fs : List Field} {r : Record fs} (hk : Kept fs r) :
    Slots.close? fs (filled fs r) = some r := by
  induction fs with
  | nil => rfl
  | cons f fs ih =>
    obtain ⟨value, values⟩ := r
    have ih := ih hk.2
    have hslot : (if f.isOmitted value then none else some value).or f.absent = some value := by
      split
      next h => exact hk.1.omitted h
      next => rfl
    change (do
      let value ← (if f.isOmitted value then none else some value).or f.absent
      let values ← Slots.close? fs (filled fs values)
      return (value, values)) = some (value, values)
    rw [hslot, ih]
    rfl

/-- Members of other names leave the slot of a field as it is. -/
theorem Reads.lift {f : Field} {fs : List Field} {slot : Option f.type} {slots slots' : Slots fs}
    {ms : List (String × Bytes)} (h : Reads (readSlot fs) slots ms slots')
    (hn : ∀ m ∈ ms, m.1 ≠ f.name) :
    Reads (readSlot (f :: fs)) (slot, slots) ms (slot, slots') := by
  induction h with
  | nil => exact .nil _
  | @cons a a' a'' name value ms h hs ih =>
    refine .cons ?_ (ih fun m hm => hn m (List.mem_cons_of_mem _ hm))
    intro s hs
    have hne : name ≠ f.name := hn (name, value) List.mem_cons_self
    exact (if_neg hne).trans (by rw [h s hs]; rfl)

/-- A member of the name of a field fills its slot. -/
theorem readSlot_self {f : Field} {value : f.type} (hf : f.Keeps value) (fs : List Field)
    (slots : Slots fs) {s : Bytes} (hs : IsEnd s) :
    readSlot (f :: fs) (none, slots) f.name (0x3A :: f.codec.print value ++ s) =
      .ok ((some value, slots), s) := by
  have hread := hf.readsBack s hs
  refine (if_pos rfl).trans ?_
  rw [skipColon, List.cons_append, front?_cons rfl]
  simp only [Option.isSome_none, Bool.false_eq_true, if_false, if_true, bind, Except.bind, hread]

/-- The members that are written of a record fill its slots. -/
theorem reads_members {fs : List Field} {r : Record fs} (hk : Kept fs r)
    (hn : (fs.map (·.name)).Nodup) :
    Reads (readSlot fs) (Slots.empty fs) (members fs r) (filled fs r) := by
  induction fs with
  | nil => exact .nil _
  | cons f fs ih =>
    obtain ⟨value, values⟩ := r
    rw [List.map_cons, List.nodup_cons] at hn
    have ih := ih hk.2 hn.2
    have hne : ∀ m ∈ members fs values, m.1 ≠ f.name := by
      intro m hm heq
      exact hn.1 (heq ▸ name_mem_of_mem_members hm)
    -- A member that is left out leaves its slot empty.
    rw [members_cons, filled_cons]
    split
    · exact ih.lift hne
    · exact .cons (fun s hs => readSlot_self hk.1 fs _ hs) (ih.lift hne)

/-! ### Records -/

theorem readRecord_print {fs : List Field} {r : Record fs} (hk : Kept fs r)
    (hn : (fs.map (·.name)).Nodup) (s : Bytes) :
    readRecord fs (printObject (printMembers fs r) ++ s) = .ok (r, s) := by
  have hreads := (reads_members hk hn).readMembers_true s
  rw [readRecord, printObject, List.cons_append, List.cons_append, front?_cons rfl,
    List.append_assoc, List.singleton_append, printMembers_eq]
  simp only [if_true, hreads, close?_filled hk]
  rw [readClosing, front?_cons rfl]
  rfl

namespace Model

variable {α : Type} [Model α]

/-- A record that has been written is read again as it was, if its fields keep its values. -/
theorem parse_print_of_kept (hn : ((fields α).map (·.name)).Nodup) {a : α}
    (hk : Kept (fields α) (toRecord a)) : parse (print a) = .ok a := by
  have h := readRecord_print hk hn []
  rw [List.append_nil] at h
  rw [parse, Model.read, Model.print, h]
  simp [Except.map, ofRecord_toRecord, skipSpace]

/-- A record that has been written is read again as it was. -/
theorem parse_print (hl : ∀ f ∈ fields α, f.Lawful) (hn : ((fields α).map (·.name)).Nodup)
    (a : α) : parse (print a) = .ok a :=
  parse_print_of_kept hn (kept_of_lawful hl (toRecord a))

end Model

end Courier.Json
