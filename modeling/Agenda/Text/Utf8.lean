import Agenda.Text.Basic

/-!
# Bytes and text

Files and streams hold bytes; text is written to them as UTF-8 and read back strictly, so that bytes
that are no UTF-8 are refused as a whole. Main statement: what was written is read back
(`ofBytes?_toBytes`).
-/

namespace Agenda.Text

def toBytes (t : Text) : ByteArray := (String.ofList t).toByteArray

def ofBytes? (bytes : ByteArray) : Option Text := (String.fromUTF8? bytes).map String.toList

/-- The text of a file: bytes that are UTF-8, with every line end made a line feed. -/
def ofFile? (bytes : ByteArray) : Option Text := (ofBytes? bytes).map foldNewlines

@[simp] theorem ofBytes?_toBytes (t : Text) : ofBytes? (toBytes t) = some t := by
  have h : ∀ s : String, String.fromUTF8? s.toByteArray = some s := fun s => by
    simp [String.fromUTF8?, s.isValidUTF8, String.fromUTF8]
  rw [ofBytes?, toBytes, h]
  simp

end Agenda.Text
