/-!
# Bytes

What files hold, and the text that it may stand for.

## Main definitions

* `Bytes` — a row of bytes
* `Bytes.ofString`, `Bytes.text?` — text as bytes, and bytes as text

## Main statements

* `Bytes.text?_ofString` — the bytes of a text read back as that text
-/

namespace WireHeaders

/-- **A row of bytes.** -/
abbrev Bytes := List UInt8

namespace Bytes

/-- The bytes of a text in UTF-8. -/
def ofString (s : String) : Bytes := s.toUTF8.data.toList

/-- The text that bytes stand for, if they are valid UTF-8. -/
def text? (bytes : Bytes) : Option String := String.fromUTF8? ⟨bytes.toArray⟩

/-- **The bytes of a text read back as that text.** -/
theorem text?_ofString (s : String) : text? (ofString s) = some s := by
  have h : (⟨(ofString s).toArray⟩ : ByteArray) = s.toByteArray := by simp [ofString]
  rw [text?, h, String.fromUTF8?, dif_pos s.isValidUTF8]
  rfl

end Bytes

end WireHeaders
