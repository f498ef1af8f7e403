import Targeting.Unicode.GeneralCategory
import Targeting.Unicode.Property
/-!
# Blank and quoted text

A text is blank if it has only characters that Unicode counts as white space. A text
is shown inside a message between double quotes, with a backslash before a quote or a
backslash, names for the common control characters, and the code point in braces for
whatever would not be visible on its own.
-/

namespace Targeting.Text

/-! ## Blank text -/

/-- Tab to carriage return, the space, next line, the no-break space, and the
spaces and separators above Latin-1. -/
def isBlank (c : Char) : Bool :=
  let n := c.toNat
  (0x09 ≤ n && n ≤ 0x0d) || n == 0x20 || n == 0x85 || n == 0xa0 || n == 0x1680 ||
  (0x2000 ≤ n && n ≤ 0x200a) || n == 0x2028 || n == 0x2029 || n == 0x202f || n == 0x205f ||
  n == 0x3000

/-- Whether a text has nothing but white space. -/
def isBlankText (s : String) : Bool := s.toList.all isBlank

/-! ## Quoted text -/

open Targeting.Unicode

/-- Whether a character shows on its own: it is not a separator other than the
space, not a control or format character, not unassigned, and not one that
joins the character before it. -/
def isVisible (c : Char) : Bool :=
  if c = ' ' then true
  else if Property.graphemeExtend.contains c then false
  else match generalCategory c with
    | .control | .format | .surrogate | .privateUse | .unassigned
    | .lineSeparator | .paragraphSeparator | .spaceSeparator => false
    | _ => true

def quotedChar (c : Char) : List Char :=
  if c = '"' then ['\\', '"']
  else if c = '\\' then ['\\', '\\']
  else if c = '\n' then ['\\', 'n']
  else if c = '\r' then ['\\', 'r']
  else if c = '\t' then ['\\', 't']
  else if c = '\x00' then ['\\', '0']
  else if isVisible c then [c]
  else ['\\', 'u', '\x7b'] ++ Nat.toDigits 16 c.toNat ++ ['\x7d']

def quoted (s : String) : String :=
  String.ofList ('"' :: s.toList.flatMap quotedChar ++ ['"'])

end Targeting.Text
