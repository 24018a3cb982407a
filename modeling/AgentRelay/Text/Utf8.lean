/-! Texts as bytes in UTF-8. -/
namespace AgentRelay.Text

def utf8Bytes (s : String) : List UInt8 := s.toUTF8.data.toList

/-- `none` for bytes that are not UTF-8. -/
def ofUtf8? (bytes : List UInt8) : Option String := String.fromUTF8? ⟨bytes.toArray⟩

theorem ofUtf8?_utf8Bytes (s : String) : ofUtf8? (utf8Bytes s) = some s := by
  have h : (⟨(utf8Bytes s).toArray⟩ : ByteArray) = s.toByteArray := rfl
  rw [ofUtf8?, h, String.fromUTF8?, dif_pos s.isValidUTF8]
  rfl

end AgentRelay.Text
