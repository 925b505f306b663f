/-!
# Bytes and text

A payload is a list of bytes that nobody on the way looks into. Text becomes bytes by its UTF-8
encoding (`bytesOf`), and bytes become text again only if they are such an encoding (`textOf?`).

* `textOf?_bytesOf`: reading the bytes of a text gives the text back.
-/

namespace Courier

/-- A sequence of bytes. -/
abbrev Bytes := List UInt8

/-- The UTF-8 encoding of a text. -/
def bytesOf (text : String) : Bytes :=
  text.toByteArray.data.toList

/-- The text whose UTF-8 encoding the bytes are, if they are one. -/
def textOf? (bytes : Bytes) : Option String :=
  String.fromUTF8? ⟨bytes.toArray⟩

@[simp]
theorem textOf?_bytesOf (text : String) : textOf? (bytesOf text) = some text := by
  have h : (⟨text.toByteArray.data.toList.toArray⟩ : ByteArray) = text.toByteArray := by
    cases text.toByteArray; simp
  simp only [textOf?, bytesOf, h, String.fromUTF8?]
  rw [dif_pos text.isValidUTF8]
  rfl

end Courier
