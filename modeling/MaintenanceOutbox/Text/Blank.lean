set_option autoImplicit false

/-! # Blank characters

A name, a title or a setting that consists of blanks only counts as missing, and blanks around a
number in the environment do not matter. Both rules mean the characters of the Unicode property
`White_Space`. That set is wider than ASCII (it holds the no-break space and the ideographic space)
and narrower than "looks empty": zero-width characters and the information separators
`U+001C`–`U+001F` are not in it.
-/

namespace MaintenanceOutbox.Text

/-- Is `c` a blank, that is, does it have the Unicode property `White_Space`? -/
def isBlankChar (c : Char) : Bool :=
  let n := c.toNat
  (0x9 ≤ n && n ≤ 0xD) || n == 0x20 || n == 0x85 || n == 0xA0 || n == 0x1680 ||
    (0x2000 ≤ n && n ≤ 0x200A) || n == 0x2028 || n == 0x2029 || n == 0x202F || n == 0x205F ||
    n == 0x3000

/-- The blanks of ASCII are blanks. -/
theorem isBlankChar_of_isWhitespace (c : Char) (h : c.isWhitespace = true) :
    isBlankChar c = true := by
  simp only [Char.isWhitespace, Bool.or_eq_true, decide_eq_true_eq] at h
  rcases h with ((rfl | rfl) | rfl) | rfl <;> rfl

/-- Are all characters of `s` blanks? The empty text is blank. -/
def isBlank (s : String) : Bool :=
  s.toList.all isBlankChar

/-- The characters of a text from its first character that is no blank. -/
def dropBlanks (cs : List Char) : List Char :=
  cs.dropWhile isBlankChar

/-- The characters of a text without the blanks at its two ends. -/
def trimChars (cs : List Char) : List Char :=
  (dropBlanks (dropBlanks cs).reverse).reverse

/-- The text `s` without the blanks at its two ends. -/
def trim (s : String) : String :=
  String.ofList (trimChars s.toList)

end MaintenanceOutbox.Text
