import MaintenanceOutbox.Text.Shapeless

set_option autoImplicit false

/-! # Quoted texts

An error that names a text puts it between quotation marks, so that its ends show and no character
in it can be mistaken for something else: the quotation mark and the backslash are escaped, line
breaks and tabs have short names, and a character without a shape of its own is written by its
number, as in `\u{200b}`. The apostrophe stands as it is.
-/

namespace MaintenanceOutbox.Text

/-- The digits of `n` to the base sixteen, in lower case, without leading zeros. -/
def hexDigits (n : Nat) : List Char :=
  Nat.toDigits 16 n

/-- How one character is written inside a quoted text. -/
def escapeChar (c : Char) : List Char :=
  if c = '\x00' then ['\\', '0']
  else if c = '\t' then ['\\', 't']
  else if c = '\r' then ['\\', 'r']
  else if c = '\n' then ['\\', 'n']
  else if c = '\\' then ['\\', '\\']
  else if c = '"' then ['\\', '"']
  else if isShapeless c then ['\\', 'u', '\x7b'] ++ hexDigits c.toNat ++ ['\x7d']
  else [c]

/-- The text `s` between quotation marks, escaped. -/
def quote (s : String) : String :=
  String.ofList (['"'] ++ s.toList.flatMap escapeChar ++ ['"'])

end MaintenanceOutbox.Text
