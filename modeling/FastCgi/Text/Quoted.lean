import FastCgi.Text.Unprintable
import FastCgi.Text.GraphemeExtend
import FastCgi.Text.DefaultIgnorable

/-!
# Quoted text and lists

Log lines and error messages show a text that a peer or an operator chose between quotation marks,
so that its end is visible and nothing in it can disturb the line: quotation marks and backslashes
are escaped, line breaks and tabs have short names, and any other character without a shape of its
own is written by its number.
-/

namespace FastCgi

/-- A number in lower-case hexadecimal, without leading zeros. -/
def hexadecimal (n : Nat) : String := String.ofList (Nat.toDigits 16 n)

/-- The halfwidth sound marks of Japanese. They extend the character before them, but each fills a
column of its own and shows there whatever it follows. -/
def Quoted.halfwidthSoundMark (c : Char) : Bool := c = '\uff9e' || c = '\uff9f'

/-- Whether a character could not be seen between quotation marks, or would change the mark. -/
def Quoted.elusive (c : Char) : Bool :=
  CodePoints.unprintable.contains c || CodePoints.defaultIgnorable.contains c ||
    CodePoints.graphemeExtend.contains c && !halfwidthSoundMark c

/-- One character as it stands in a quoted text. An apostrophe needs no escape. -/
def Quoted.character (c : Char) : String :=
  if c = '"' then "\\\""
  else if c = '\\' then "\\\\"
  else if c = '\n' then "\\n"
  else if c = '\r' then "\\r"
  else if c = '\t' then "\\t"
  else if c = '\x00' then "\\0"
  else if ' ' ≤ c ∧ c ≤ '~' then c.toString
  else if Quoted.elusive c then "\\u\x7b" ++ hexadecimal c.toNat ++ "\x7d"
  else c.toString

/-- A text between quotation marks. -/
def quoted (text : String) : String :=
  text.toList.foldl (fun shown c => shown ++ Quoted.character c) "\"" ++ "\""

/-- The elements of a list between brackets, separated by commas. -/
def bracketed (elements : List String) : String := "[" ++ ", ".intercalate elements ++ "]"

/-- A truth value as a word. -/
def truth (b : Bool) : String := if b then "true" else "false"

end FastCgi
