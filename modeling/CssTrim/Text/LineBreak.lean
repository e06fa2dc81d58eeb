import CssTrim.Text

/-!
# Line breaks

A carriage return, alone or before a line feed, breaks a line as a line feed
does.  Files are read with all three written as line feeds.
-/

namespace CssTrim.Text

/-- The text with every line break written as a line feed. -/
def unifyBreaks : Text → Text
  | [] => []
  | '\r' :: '\n' :: rest => '\n' :: unifyBreaks rest
  | c :: rest => (if c = '\r' then '\n' else c) :: unifyBreaks rest

end CssTrim.Text
