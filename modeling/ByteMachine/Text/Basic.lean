/-!
# Text

A text is the list of its characters, so that every question about a text is a question about a
list.  This file holds the cuts that the rest of the library makes: at the first occurrence of a
character or of a word, at every occurrence of a character, and at the blanks around a text.  The
blanks are those of the Unicode standard together with the four separator controls.

A character is a Unicode scalar value.  Surrogate code points are no characters, so that a string in
which one stands alone is no text, and nothing is said here about such strings.
-/

namespace ByteMachine

/-- A text is the list of its characters. -/
abbrev Text := List Char

namespace Text

/-- The text before the first `mark`, and the text after it when there is a `mark`. -/
def cut (mark : Char) : Text → Text × Option Text
  | [] => ([], none)
  | c :: rest =>
      if c = mark then ([], some rest)
      else (c :: (cut mark rest).1, (cut mark rest).2)

/-- The text before the first occurrence of the word `mark`, and the text after that occurrence
when there is one.  The word is not empty. -/
def cutAt (mark : Text) : Text → Text × Option Text
  | [] => ([], none)
  | c :: rest =>
      if mark.isPrefixOf (c :: rest) then ([], some ((c :: rest).drop mark.length))
      else (c :: (cutAt mark rest).1, (cutAt mark rest).2)

/-- The pieces between the occurrences of `mark`; there is one piece more than there are marks. -/
def pieces (mark : Char) : Text → List Text
  | [] => [[]]
  | c :: rest =>
      if c = mark then [] :: pieces mark rest
      else
        match pieces mark rest with
        | [] => [[c]]
        | piece :: more => (c :: piece) :: more

/-- The texts one after another with `separator` between neighbours. -/
def join (separator : Text) : List Text → Text
  | [] => []
  | [text] => text
  | text :: next :: more => text ++ separator ++ join separator (next :: more)

/-- The texts one below another. -/
def joinLines (texts : List Text) : Text :=
  join ['\n'] texts

/-- A blank: the tab and the line breaks, the four separator controls, and the spaces of the
Unicode standard. -/
def isBlank (c : Char) : Bool :=
  (0x9 ≤ c.toNat && c.toNat ≤ 0xD) || (0x1C ≤ c.toNat && c.toNat ≤ 0x20) ||
    c.toNat == 0x85 || c.toNat == 0xA0 || c.toNat == 0x1680 ||
    (0x2000 ≤ c.toNat && c.toNat ≤ 0x200A) || c.toNat == 0x2028 || c.toNat == 0x2029 ||
    c.toNat == 0x202F || c.toNat == 0x205F || c.toNat == 0x3000

/-- The text without the characters of a class at its end. -/
def dropEndWhile (holds : Char → Bool) (text : Text) : Text :=
  (text.reverse.dropWhile holds).reverse

/-- The text without the blanks at its start. -/
def trimStart (text : Text) : Text :=
  text.dropWhile isBlank

/-- The text without the blanks at its end. -/
def trimEnd (text : Text) : Text :=
  text.dropEndWhile isBlank

/-- The text without the blanks at either end. -/
def trim (text : Text) : Text :=
  text.trimStart.trimEnd

/-- The first word of a text that starts with no blank, and what follows the blanks after it. -/
def firstWord (text : Text) : Text × Text :=
  (text.takeWhile (!isBlank ·), trimStart (text.dropWhile (!isBlank ·)))

/-- The text with blanks appended up to the given width. -/
def padEnd (width : Nat) (text : Text) : Text :=
  text ++ List.replicate (width - text.length) ' '

/-- The text with `fill` put before it up to the given width. -/
def padStart (fill : Char) (width : Nat) (text : Text) : Text :=
  List.replicate (width - text.length) fill ++ text

/-- The text between single quotation marks, with nothing escaped. -/
def quoted (text : Text) : Text :=
  '\'' :: text ++ ['\'']

end Text
end ByteMachine
