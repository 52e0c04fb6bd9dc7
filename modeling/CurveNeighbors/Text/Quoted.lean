import CurveNeighbors.Text.Characters

/-!
# Quoted text

A text inside a message stands in single quotes, or in double quotes when it
holds a single quote and no double one, so that as few quotes as possible are
escaped. The backslash, the quote in use, the three common control characters
and everything unprintable are escaped; hence the quoted form is one line and
shows where the text ends.
-/

namespace CurveNeighbors

namespace Quoted

def quote (text : List Char) : Char :=
  if text.contains '\'' && !text.contains '"' then '"' else '\''

/-- A number in hexadecimal, filled up with zeros to the given width. -/
def hexadecimal (width value : Nat) : List Char :=
  let digits := Nat.toDigits 16 value
  List.replicate (width - digits.length) '0' ++ digits

/-- The escape of an unprintable character, as short as its code point allows. -/
def numericEscape (character : Char) : List Char :=
  let code := character.toNat
  if code < 0x100 then '\\' :: 'x' :: hexadecimal 2 code
  else if code < 0x10000 then '\\' :: 'u' :: hexadecimal 4 code
  else '\\' :: 'U' :: hexadecimal 8 code

/-- How a character is written between the given quotes. -/
def encoded (quote character : Char) : List Char :=
  if character = quote ∨ character = '\\' then ['\\', character]
  else if character = '\n' then ['\\', 'n']
  else if character = '\t' then ['\\', 't']
  else if character = '\r' then ['\\', 'r']
  else if Characters.isPrintable character then [character]
  else numericEscape character

def text (content : String) : String :=
  let characters := content.toList
  let mark := quote characters
  String.ofList ([mark] ++ characters.flatMap (encoded mark) ++ [mark])

end Quoted

end CurveNeighbors
