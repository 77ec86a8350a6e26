/-!
# Text as bytes

Input and output are bytes in UTF-8. `encode` gives the bytes of a text,
`decode?` the text of bytes that are valid, and decoding undoes encoding.
-/


namespace BuildDiagnostics

namespace Text

/-- The bytes of a text. -/
def encode (s : String) : List UInt8 := s.toByteArray.data.toList

/-- The text of some bytes; bytes that are not valid UTF-8 have none. -/
def decode? (bytes : List UInt8) : Option String := String.fromUTF8? ⟨bytes.toArray⟩

/-- How many bytes the characters take. -/
def byteSize : List Char → Nat
  | [] => 0
  | c :: s => c.utf8Size + byteSize s

/-- What follows the first `n` bytes of a text. There is no such rest when
the text is shorter, or when the bytes end within a character. -/
def afterBytes? : Nat → List Char → Option (List Char)
  | 0, s => some s
  | _ + 1, [] => none
  | n + 1, c :: s => if c.utf8Size ≤ n + 1 then afterBytes? (n + 1 - c.utf8Size) s else none

/-- **Decoding undoes encoding.** -/
theorem decode?_encode (s : String) : decode? (encode s) = some s := by
  have h : (⟨(encode s).toArray⟩ : ByteArray) = s.toByteArray := by simp [encode]
  simp only [decode?, h, String.fromUTF8?]
  rw [dif_pos s.isValidUTF8]
  rfl

/-- Only the bytes of a text are decoded to it. -/
theorem encode_of_decode? {bytes : List UInt8} {s : String} (h : decode? bytes = some s) :
    encode s = bytes := by
  simp only [decode?, String.fromUTF8?] at h
  split at h
  · cases h
    simp [encode, String.fromUTF8]
  · cases h

@[simp] theorem byteSize_nil : byteSize [] = 0 := rfl

@[simp] theorem byteSize_cons (c : Char) (s : List Char) :
    byteSize (c :: s) = c.utf8Size + byteSize s := rfl

@[simp] theorem byteSize_append (s t : List Char) :
    byteSize (s ++ t) = byteSize s + byteSize t := by
  induction s with
  | nil => simp
  | cons c s ih =>
    simp only [List.cons_append, byteSize_cons, ih]
    omega

/-- The bytes of a text are those of its parts. -/
theorem encode_append (s t : String) : encode (s ++ t) = encode s ++ encode t := by
  simp [encode]

end Text

end BuildDiagnostics
