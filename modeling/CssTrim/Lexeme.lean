import CssTrim.Text

/-!
# Lexemes of a stylesheet

A stylesheet is read as a sequence of lexemes: a quoted string, a comment, an
escaped character, or one plain character.  Braces, semicolons and brackets
have a meaning only as plain characters, so everything that looks for them
works on lexemes and never sees the inside of a string or a comment.

* A string runs to its quote.  A line break ends it too, and belongs to it.
* A comment runs to the first `*/` after its opening.
* A backslash takes the next character with it.  The last character of a
  stylesheet may be a backslash, which is then a plain character.

A string or a comment that is never closed runs to the end.  Nothing is
dropped: the lexemes of a text, written one after the other, are the text.
-/

namespace CssTrim

/-- One unit of a stylesheet. -/
inductive Lexeme where
  /-- A character that stands for itself. -/
  | plain (c : Char)
  /-- A backslash and the character behind it. -/
  | escape (c : Char)
  /-- A quoted string: its quote and all that follows, the end of the string included. -/
  | quoted (quote : Char) (rest : Text)
  /-- A comment: all that follows its opening, the end of the comment included. -/
  | comment (rest : Text)
  deriving DecidableEq

namespace Lexeme

/-- The characters of a lexeme. -/
def text : Lexeme → Text
  | plain c => [c]
  | escape c => ['\\', c]
  | quoted quote rest => quote :: rest
  | comment rest => '/' :: '*' :: rest

/-- Whether a lexeme is a comment. -/
def isComment : Lexeme → Bool
  | comment _ => true
  | _ => false

/-- Whether a lexeme is a blank character. -/
def isBlank : Lexeme → Bool
  | plain c => Text.isBlank c
  | _ => false

/-- The text of a sequence of lexemes. -/
def textOf (ls : List Lexeme) : Text := ls.flatMap text

end Lexeme

/-! ## Reading lexemes -/

namespace Text

/-- Whether a character opens a string. -/
def isQuote (c : Char) : Bool := c == '\x22' || c == '\x27'

/-- Cuts behind the end of the string that `quote` has opened. -/
def spanQuoted (quote : Char) : Text → Text × Text
  | [] => ([], [])
  | '\\' :: c :: rest => (spanQuoted quote rest).map ('\\' :: c :: ·) id
  | c :: rest =>
    if c = quote ∨ c = '\n' then ([c], rest)
    else (spanQuoted quote rest).map (c :: ·) id

/-- Cuts behind the first end of a comment. -/
def spanComment : Text → Text × Text
  | '*' :: '/' :: rest => (['*', '/'], rest)
  | c :: rest => (spanComment rest).map (c :: ·) id
  | [] => ([], [])

theorem spanQuoted_append (quote : Char) (t : Text) :
    (spanQuoted quote t).1 ++ (spanQuoted quote t).2 = t := by
  fun_induction spanQuoted quote t <;> simp_all

theorem spanComment_append (t : Text) : (spanComment t).1 ++ (spanComment t).2 = t := by
  fun_induction spanComment t <;> simp_all

theorem length_spanQuoted_le (quote : Char) (t : Text) :
    (spanQuoted quote t).2.length ≤ t.length := by
  have h := congrArg List.length (spanQuoted_append quote t)
  rw [List.length_append] at h
  omega

theorem length_spanComment_le (t : Text) : (spanComment t).2.length ≤ t.length := by
  have h := congrArg List.length (spanComment_append t)
  rw [List.length_append] at h
  omega

/-- The lexemes of a text. -/
def lexemes (t : Text) : List Lexeme :=
  match t with
  | [] => []
  | '\\' :: c :: rest => .escape c :: lexemes rest
  | '/' :: '*' :: rest => .comment (spanComment rest).1 :: lexemes (spanComment rest).2
  | c :: rest =>
    if isQuote c then .quoted c (spanQuoted c rest).1 :: lexemes (spanQuoted c rest).2
    else .plain c :: lexemes rest
termination_by t.length
decreasing_by
  · simp only [List.length_cons]
    omega
  · have := length_spanComment_le rest
    simp only [List.length_cons]
    omega
  · have := length_spanQuoted_le c rest
    simp only [List.length_cons]
    omega
  · simp

/-- The lexemes of a text spell the text. -/
theorem textOf_lexemes (t : Text) : Lexeme.textOf (lexemes t) = t := by
  fun_induction lexemes t <;>
    simp_all [Lexeme.textOf, Lexeme.text, spanComment_append, spanQuoted_append]

/-- Takes the comments out of a text. -/
def stripComments (t : Text) : Text := Lexeme.textOf ((lexemes t).filter (!·.isComment))

end Text

end CssTrim
