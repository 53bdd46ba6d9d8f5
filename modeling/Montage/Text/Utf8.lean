/-!
# UTF-8 with replacement

The error output of a program is bytes that need not be valid UTF-8.  Each
maximal part that begins like a character and cannot be completed becomes one
replacement character, as Unicode recommends, and so does each byte that begins
no character at all.
-/

namespace Montage.Utf8

/-- What a first byte announces: the payload of the byte, the count of
continuation bytes, and the range of the first of them. -/
structure Lead where
  payload : Nat
  following : Nat
  low : Nat
  high : Nat

/-- The ranges of the first continuation byte keep out overlong forms, surrogates
and code points beyond the last. -/
def lead? (byte : Nat) : Option Lead :=
  if byte < 0x80 then some ⟨byte, 0, 0, 0⟩
  else if byte < 0xC2 then none
  else if byte < 0xE0 then some ⟨byte - 0xC0, 1, 0x80, 0xBF⟩
  else if byte == 0xE0 then some ⟨0, 2, 0xA0, 0xBF⟩
  else if byte == 0xED then some ⟨0xD, 2, 0x80, 0x9F⟩
  else if byte < 0xF0 then some ⟨byte - 0xE0, 2, 0x80, 0xBF⟩
  else if byte == 0xF0 then some ⟨0, 3, 0x90, 0xBF⟩
  else if byte < 0xF4 then some ⟨byte - 0xF0, 3, 0x80, 0xBF⟩
  else if byte == 0xF4 then some ⟨4, 3, 0x80, 0x8F⟩
  else none

/-- The character that stands for what cannot be read. -/
def replacement : Char := '\ufffd'

/-- Decodes bytes.  `pending` is the character begun: its payload so far, the
count of bytes missing, and the range of the next byte. -/
def decodeFrom (pending : Option Lead) : List Nat → List Char
  | [] => if pending.isSome then [replacement] else []
  | byte :: rest =>
      let start : List Char :=
        match lead? byte with
        | none => replacement :: decodeFrom none rest
        | some lead =>
            if lead.following == 0 then Char.ofNat lead.payload :: decodeFrom none rest
            else decodeFrom (some lead) rest
      match pending with
      | none => start
      | some lead =>
          if lead.low ≤ byte && byte ≤ lead.high then
            let payload := lead.payload * 0x40 + (byte - 0x80)
            if lead.following == 1 then Char.ofNat payload :: decodeFrom none rest
            else decodeFrom (some ⟨payload, lead.following - 1, 0x80, 0xBF⟩) rest
          else replacement :: start

/-- The text of the bytes. -/
def decode (bytes : List UInt8) : String :=
  String.ofList (decodeFrom none (bytes.map UInt8.toNat))

end Montage.Utf8
