/-!
# Text

Every piece of a lesson is a list of Unicode scalar values: the document and its lines, names,
paths, and the HTML that comes out. Fixed words are written as string literals and read as lists of
characters by a coercion. Bytes become text by UTF-8, and text has a size in UTF-8 bytes.
-/

namespace TutorialPages

/-- A piece of text: its characters in order. -/
abbrev Text := List Char

/-- A literal word stands for the list of its characters. -/
instance : Coe String Text := ⟨String.toList⟩

namespace Text

/-- The pieces one after another. -/
def join (pieces : List Text) : Text :=
  pieces.flatten

/-- The pieces one after another with `separator` between neighbours. -/
def joinWith (separator : Text) : List Text → Text
  | [] => []
  | [piece] => piece
  | piece :: rest => piece ++ separator ++ joinWith separator rest

/-- Number of bytes of the text in UTF-8. -/
def utf8Length (text : Text) : Nat :=
  text.foldl (fun size c => size + c.utf8Size) 0

/-- The UTF-8 bytes of the text. -/
def toUtf8 (text : Text) : List UInt8 :=
  (String.ofList text).toUTF8.toList

/-- The text that the bytes spell in UTF-8, when they spell one. -/
def ofUtf8? (bytes : List UInt8) : Option Text :=
  (String.fromUTF8? ⟨bytes.toArray⟩).map String.toList

/-- The decimal digits of a natural number. -/
def ofNat (n : Nat) : Text :=
  Nat.toDigits 10 n

/-- Whether `needle` occurs as a contiguous part of the text. -/
def occursIn (needle : Text) : Text → Bool
  | [] => needle.isEmpty
  | c :: rest => needle.isPrefixOf (c :: rest) || occursIn needle rest

/-- The text after the first `mark`, when there is one. -/
def after? (mark : Char) : Text → Option Text
  | [] => none
  | c :: rest => if c = mark then some rest else after? mark rest

end Text

end TutorialPages
