/-!
# Bytes of a text

What leaves a logger is bytes: the UTF-8 encoding of a text, as a list.  What comes in from an environment is
bytes as well, and it is a text only if it is well-formed UTF-8.

* `utf8_append`: the encoding of a concatenation is the concatenation of the encodings;
* `ofUtf8?_eq_some_iff`: bytes are decoded exactly when they are the encoding of some text, and to that text.
-/

namespace LeveledLog

/-- A sequence of bytes. -/
abbrev Bytes := List UInt8

namespace Text

/-- The UTF-8 encoding of a text. -/
def utf8 (s : String) : Bytes :=
  s.toByteArray.data.toList

/-- The text whose UTF-8 encoding the bytes are, if there is one. -/
def ofUtf8? (bs : Bytes) : Option String :=
  String.fromUTF8? ⟨bs.toArray⟩

@[simp] theorem utf8_append (s t : String) : utf8 (s ++ t) = utf8 s ++ utf8 t := by
  simp [utf8]

/-- Two texts with the same bytes are the same text. -/
theorem utf8_inj {s t : String} (h : utf8 s = utf8 t) : s = t :=
  String.toByteArray_inj.1 (ByteArray.ext (Array.toList_inj.1 h))

theorem ofUtf8?_eq_some_iff {bs : Bytes} {s : String} : ofUtf8? bs = some s ↔ bs = utf8 s := by
  unfold ofUtf8? String.fromUTF8?
  constructor
  · intro h
    split at h
    · rw [← Option.some.inj h]
      rfl
    · nomatch h
  · rintro rfl
    exact dif_pos s.isValidUTF8

end Text

end LeveledLog
