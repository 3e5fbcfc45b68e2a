/-!
# Quoted texts

JSON's notation of a text: in double quotes, with escapes for the quote, the backslash and the
control characters below U+0020, and every other character as it is.
-/

namespace Nativize.Text

def hexDigit (n : Nat) : Char :=
  if n < 10 then Char.ofNat (48 + n) else Char.ofNat (87 + n)

/-- The value of a hexadecimal digit. -/
def hexValue? (c : Char) : Option Nat :=
  if c.isDigit then some (c.toNat - 48)
  else if 'a' ≤ c && c ≤ 'f' then some (c.toNat - 87)
  else if 'A' ≤ c && c ≤ 'F' then some (c.toNat - 55)
  else none

theorem hexValue?_hexDigit : ∀ n < 16, hexValue? (hexDigit n) = some n := by decide +kernel

/-- The written form of one character between the quotes. -/
def quotedChar (c : Char) : List Char :=
  if c = '"' then ['\\', '"']
  else if c = '\\' then ['\\', '\\']
  else if c.toNat = 8 then ['\\', 'b']
  else if c.toNat = 12 then ['\\', 'f']
  else if c = '\n' then ['\\', 'n']
  else if c = '\r' then ['\\', 'r']
  else if c = '\t' then ['\\', 't']
  else if c.toNat < 0x20 then
    ['\\', 'u', '0', '0', hexDigit (c.toNat / 16), hexDigit (c.toNat % 16)]
  else [c]

/-- The quoted form of a text. -/
def quotedChars (text : List Char) : List Char := '"' :: (text.flatMap quotedChar ++ ['"'])

def quoted (text : String) : String := String.ofList (quotedChars text.toList)

theorem length_le_quoted (text : List Char) : text.length ≤ (text.flatMap quotedChar).length := by
  induction text with
  | nil => simp
  | cons c text ih =>
    have hchar : 0 < (quotedChar c).length := by
      unfold quotedChar
      grind
    simp only [List.flatMap_cons, List.length_append, List.length_cons]
    omega

end Nativize.Text
