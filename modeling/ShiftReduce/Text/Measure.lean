/-!
# Measuring text

Places in a text are counted in UTF-8 bytes; widths of columns and lengths of excerpts are counted
in characters.

## Main definitions

* `Text.byteLength` — the bytes that a text takes
* `Text.padLeft`, `Text.padRight` — fills a text up to a width
* `Text.excerpt` — the start of a text, marked where it is cut
-/

namespace ShiftReduce.Text

/-- The number of bytes that a text takes in UTF-8. -/
def byteLength : List Char → Nat
  | [] => 0
  | char :: rest => char.utf8Size + byteLength rest

/-- Texts behind each other have the bytes of both. -/
@[simp] theorem byteLength_append (left right : List Char) :
    byteLength (left ++ right) = byteLength left + byteLength right := by
  induction left with
  | nil => simp [byteLength]
  | cons first rest ih => simp [byteLength, ih, Nat.add_assoc]

/-- The text from byte `offset` on, where `offset` lies between two characters. -/
def dropBytes : (offset : Nat) → List Char → List Char
  | 0, text => text
  | _, [] => []
  | offset + 1, char :: rest => dropBytes (offset + 1 - char.utf8Size) rest

/-- Fills `text` with blanks on the right up to `width` characters. -/
def padRight (width : Nat) (text : String) : String :=
  text ++ String.ofList (List.replicate (width - text.length) ' ')

/-- Fills `text` with blanks on the left up to `width` characters. -/
def padLeft (width : Nat) (text : String) : String :=
  String.ofList (List.replicate (width - text.length) ' ') ++ text

/-- The first `limit` characters of a text, with three dots if there are more. -/
def excerpt (limit : Nat) (text : List Char) : List Char :=
  if limit < text.length then text.take limit ++ ['.', '.', '.'] else text

end ShiftReduce.Text
