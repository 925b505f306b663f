import Courier.Proofs.Json.Arrangement
import Courier.Proofs.Json.Documents

/-!
# Stored values are read in any layout

What the outbox and the notifications keep is read from JSON in whatever layout it comes: with its
members in any order, with others between them that hold anything, with any white space, or as an
array. No member may come twice.

* `isStringRest_escaped`: what is written of a text is in the grammar.
* `documents_layoutInsensitive`: all types of values that are kept.
-/

namespace Courier

open Json

namespace Json

/-! ### What is written is in the grammar -/

theorem IsStringRest.escapeByte {s : Bytes} (hs : IsStringRest s) (b : UInt8) :
    IsStringRest (Json.escapeByte b ++ s) := by
  have hunit : ∀ n < 0x20, (hexUnit? 0x30 0x30 (hexDigit (UInt8.ofNat n / 16))
      (hexDigit (UInt8.ofNat n % 16))).isSome = true := by decide +kernel
  rw [Json.escapeByte]
  split_ifs with hmark hescape _ _ _ _ _ hcontrol
  all_goals try exact .escape rfl hs
  · refine .unit ?_ hs
    rw [← UInt8.ofNat_toNat (x := b)]
    exact hunit b.toNat hcontrol
  · exact .plain (UInt8.not_lt.1 hcontrol) hmark hescape hs

theorem isStringRest_escaped (text : String) :
    IsStringRest ((bytesOf text).flatMap escapeByte ++ [0x22]) := by
  induction bytesOf text with
  | nil => exact .closing
  | cons b bytes ih =>
    rw [List.flatMap_cons, List.append_assoc]
    exact ih.escapeByte b

theorem isJson_quote (text : String) : IsJson (quote text) :=
  .string (isStringRest_escaped text)

/-- A member as it is written. -/
def Member.written (name : String) (value : Bytes) : Member :=
  ⟨(bytesOf name).flatMap escapeByte ++ [0x22], value⟩

theorem Member.wellFormed_written (name : String) {value : Bytes} (h : IsJson value) :
    (written name value).WellFormed :=
  ⟨isStringRest_escaped name, h⟩

theorem Member.written_says (name : String) (value : Bytes) : (written name value).Says name :=
  unquote_escaped name []

end Json

/-! ### All types of values -/

theorem Outbox.Event.free : Model.Free Outbox.Event where
  fields := by
    simp only [Model.fields]
    exact FreeFields.free
  toRecord_ofRecord _ := rfl

theorem EventMetadata.free : Model.Free EventMetadata where
  fields := by
    simp only [Model.fields]
    exact FreeFields.free
  toRecord_ofRecord _ := rfl

namespace Notification

theorem InAppNotification.free : Model.Free InAppNotification where
  fields := by
    simp only [Model.fields]
    exact FreeFields.free
  toRecord_ofRecord _ := rfl

theorem UserPreferences.free : Model.Free UserPreferences where
  fields := by
    simp only [Model.fields]
    exact FreeFields.free
  toRecord_ofRecord _ := rfl

theorem PushToken.free : Model.Free PushToken where
  fields := by
    simp only [Model.fields]
    exact FreeFields.free
  toRecord_ofRecord _ := rfl

theorem DeliveryLog.free : Model.Free DeliveryLog where
  fields := by
    simp only [Model.fields]
    exact FreeFields.free
  toRecord_ofRecord _ := rfl

theorem TranslationCreated.free : Model.Free TranslationCreated where
  fields := by
    simp only [Model.fields]
    exact FreeFields.free
  toRecord_ofRecord _ := rfl

theorem UserCreated.free : Model.Free UserCreated where
  fields := by
    simp only [Model.fields]
    exact FreeFields.free
  toRecord_ofRecord _ := rfl

end Notification

open Notification in
/-- **Stored values are read in any layout.** Of an object that says an event of the outbox, what is
    known of an event, a notification, preferences, a push token, the record of an attempt to
    deliver, or the payload of an event, the members may stand in any order and with any white
    space, and others with other names may stand between them, whatever they hold: the object still
    says the same value. With two members that have the name of one field it says none. The array
    of the values of all fields, in their order, says that value too. -/
theorem documents_layoutInsensitive :
    Model.LayoutInsensitive Outbox.Event ∧ Model.LayoutInsensitive EventMetadata ∧
    Model.LayoutInsensitive InAppNotification ∧ Model.LayoutInsensitive UserPreferences ∧
    Model.LayoutInsensitive PushToken ∧ Model.LayoutInsensitive DeliveryLog ∧
    Model.LayoutInsensitive TranslationCreated ∧ Model.LayoutInsensitive UserCreated :=
  ⟨Outbox.Event.free.layoutInsensitive, EventMetadata.free.layoutInsensitive,
    InAppNotification.free.layoutInsensitive, UserPreferences.free.layoutInsensitive,
    PushToken.free.layoutInsensitive, DeliveryLog.free.layoutInsensitive,
    TranslationCreated.free.layoutInsensitive, UserCreated.free.layoutInsensitive⟩

section Eve

open Notification

/-- A user without a name. -/
def Notification.UserCreated.onEve : UserCreated := ⟨Uuid.nil, "eve@example.com", none⟩

/-- The members of such a user, and one that says something else. -/
def idMember : Member := .written "user_id" (quote Uuid.nil.text)
def emailMember : Member := .written "email" (quote "eve@example.com")
def seenMember : Member := .written "seen" (printArray [bytesOf "null", printObject []])

theorem wellFormed_idMember : idMember.WellFormed := Member.wellFormed_written _ (isJson_quote _)

theorem wellFormed_emailMember : emailMember.WellFormed :=
  Member.wellFormed_written _ (isJson_quote _)

theorem wellFormed_seenMember : seenMember.WellFormed := by
  have hobject : IsJson (printObject ([].map Member.text)) := .object nofun nofun
  exact Member.wellFormed_written _ (.array (List.forall_mem_cons.2
    ⟨.word (.inl rfl), List.forall_mem_singleton.2 hobject⟩))

/-- The members in another order, with white space. -/
def shuffled : Bytes :=
  bytesOf (" \x7b\n\"email\":\"eve@example.com\",\"seen\":[null,\x7b\x7d], " ++
    "\"user_id\" :\t\"00000000-0000-0000-0000-000000000000\"\x7d")

theorem spells_shuffled : Spells [emailMember, seenMember, idMember] shuffled where
  wellFormed := List.forall_mem_cons.2 ⟨wellFormed_emailMember, List.forall_mem_cons.2
    ⟨wellFormed_seenMember, List.forall_mem_singleton.2 wellFormed_idMember⟩⟩
  respaced := by
    have htext : shuffled = 0x20 :: 0x7B :: 0x0A :: (emailMember.text ++ 0x2C ::
        (seenMember.text ++ 0x2C :: 0x20 :: 0x22 :: (idMember.name ++
          0x20 :: 0x3A :: 0x09 :: (idMember.value ++ [0x7D])))) := by
      decide +kernel
    have hleads : ∀ {m : Member}, m.WellFormed → Leads m.text := fun h =>
      leads_member h.name h.value.leads
    have hid : Respaced [] [] (idMember.text ++ [0x7D]) (0x20 :: 0x22 :: (idMember.name ++
        0x20 :: 0x3A :: 0x09 :: (idMember.value ++ [0x7D]))) := by
      rw [Member.text_append]
      exact .right rfl (.string wellFormed_idMember.name (.right rfl (.mark rfl (.right rfl
        (wellFormed_idMember.value.leads (.mark rfl .rest) (isBreak_cons rfl _)
          (isBreak_cons rfl _))))))
    rw [htext]
    exact .right rfl (.mark rfl (.right rfl (hleads wellFormed_emailMember
      (.mark rfl (hleads wellFormed_seenMember (.mark rfl hid) (isBreak_cons rfl _)
        (isBreak_cons rfl _))) (isBreak_cons rfl _) (isBreak_cons rfl _))))

/-- The user is read from the members in that order, and from an array. A second e-mail address is
    refused. -/
theorem documents_layoutInsensitive_eve :
    Model.parse shuffled = .ok UserCreated.onEve ∧
    Model.parse (Model.printAsRow UserCreated.onEve) = .ok UserCreated.onEve ∧
    ∀ u : UserCreated, Model.parse
      (printObject ([idMember, emailMember, emailMember].map Member.text)) ≠ .ok u := by
  obtain ⟨-, -, -, -, -, -, -, hfree⟩ := documents_layoutInsensitive
  have hone : ∀ m ∈ [emailMember], m.WellFormed :=
    List.forall_mem_singleton.2 wellFormed_emailMember
  have htwo : ∀ m ∈ [idMember, emailMember], m.WellFormed :=
    List.forall_mem_cons.2 ⟨wellFormed_idMember, hone⟩
  have htwice : ∀ m ∈ [idMember, emailMember, emailMember], m.WellFormed :=
    List.forall_mem_cons.2
      ⟨wellFormed_idMember, List.forall_mem_cons.2 ⟨wellFormed_emailMember, hone⟩⟩
  have hprint : Model.print UserCreated.onEve =
      printObject ([idMember, emailMember].map Member.text) := by
    decide +kernel
  have hparse : Model.parse (printObject ([idMember, emailMember].map Member.text)) =
      .ok UserCreated.onEve := by
    rw [← hprint]
    exact UserCreated.parse_print _
  have hforeign : ∀ m ∈ [seenMember], m.IsForeign (Model.fields UserCreated) :=
    List.forall_mem_singleton.2 ⟨"seen", Member.written_says _ _, by decide⟩
  have hemail : emailMember.Says "email" := Member.written_says _ _
  refine ⟨?_, hfree.row hparse, ?_⟩
  · exact hfree.rearranged (spells_self htwo) hparse hforeign
      (List.perm_append_singleton idMember [emailMember, seenMember]) spells_shuffled
  · have hfield : Field.plain "email" String ∈ Model.fields UserCreated :=
      List.mem_cons_of_mem _ List.mem_cons_self
    exact hfree.repeated (spells_self htwice)
      (List.perm_append_singleton idMember [emailMember, emailMember]).symm hfield hemail
      hemail

end Eve

end Courier
