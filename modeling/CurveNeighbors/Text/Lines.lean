/-!
# Lines

A report is a text of lines. Each of its lines is ended by a line break, but a
name that is printed in it may hold line breaks of its own and so cut a line in
two. `Lines.ofText` gives the lines as a reader sees them, without the breaks; a
break at the very end begins no further line.
-/

namespace CurveNeighbors

namespace Lines

/-- Whether a character ends a line: the vertical ones among the control characters, the separators
of files, groups and records, and those of lines and paragraphs. -/
def isBreak (character : Char) : Bool :=
  let code := character.toNat
  (0x0A ≤ code && code ≤ 0x0D) || (0x1C ≤ code && code ≤ 0x1E) || code == 0x85 ||
    code == 0x2028 || code == 0x2029

/-- The lines of a text, the first of which begins with the given characters in reverse order. A
carriage return and the line feed behind it are one break. -/
def split (line : List Char) : List Char → List (List Char)
  | [] => if line.isEmpty then [] else [line.reverse]
  | '\r' :: '\n' :: rest => line.reverse :: split [] rest
  | character :: rest =>
      if isBreak character then line.reverse :: split [] rest else split (character :: line) rest

def ofText (text : String) : List String :=
  (split [] text.toList).map String.ofList

end Lines

end CurveNeighbors
