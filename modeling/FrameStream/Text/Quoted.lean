import FrameStream.Text.Utf8
import FrameStream.Text.Shown

/-!
# Quoted texts

How a text, or octets that need not be one, stand in a message: in double quotes, with a backslash before a
quote or a backslash, short names for the common controls, and the number of every other character that is not
shown on its own.  An optional value is written `None` or `Some(…)`.
-/

namespace FrameStream

/-- The digits of a number in a base up to sixteen, in lower case. -/
def numeral (base n : Nat) : String := String.ofList (Nat.toDigits base n)

/-- One character as it stands between the quotes. -/
def quotedChar (c : Char) : String :=
  if c = '\x00' then "\\0"
  else if c = '\t' then "\\t"
  else if c = '\r' then "\\r"
  else if c = '\n' then "\\n"
  else if c = '"' then "\\\""
  else if c = '\\' then "\\\\"
  else if isShown c then c.toString
  else "\\u\x7b" ++ numeral 16 c.toNat ++ "\x7d"

/-- A text in quotes. -/
def quoted (s : String) : String := "\"" ++ String.join (s.toList.map quotedChar) ++ "\""

/-- An octet that belongs to no character, by its two digits. -/
def quotedOctet (b : UInt8) : String :=
  "\\x" ++ (numeral 16 (b.toNat / 16) ++ numeral 16 (b.toNat % 16)).toUpper

/-- One part of octets between the quotes. -/
def quotedPart : Utf8.Part → String
  | .character c => quotedChar c
  | .stretch octets => String.join (octets.map quotedOctet)

/-- Octets in quotes: characters as in a text, and every octet that belongs to none by its digits. -/
def quotedBytes (bs : Bytes) : String := "\"" ++ String.join ((Utf8.scan none bs).map quotedPart) ++ "\""

/-- An optional value, with `write` for the value. -/
def shownOption (write : α → String) : Option α → String
  | none => "None"
  | some a => "Some(" ++ write a ++ ")"

/-- An optional timestamp. -/
def shownTime (t : Option UInt64) : String := shownOption (fun t => numeral 10 t.toNat) t

end FrameStream
