import PodRedirect.Text.Basic

/-!
# Words on a shell's command line

A list of words as one line that a POSIX shell splits into the same words. A word that holds a
character with a meaning of its own stands between single quotes, where every character but the
single quote stands for itself.

## Main definitions

* `Shell.isPlain`: the characters that need no quotes
* `Shell.word`: one word
* `Shell.join`: the words of a command
-/

namespace PodRedirect.Shell

/-- The marks that need no quotes, besides the letters and digits of ASCII. -/
def plainMarks : List Char := ['_', '@', '%', '+', '=', ':', ',', '.', '/', '-']

/-- A character that a shell takes as it is, wherever it stands in a word. -/
def isPlain (c : Char) : Bool :=
  c.isAlphanum || plainMarks.contains c

/-- A single quote between single quotes: the quotes are closed, the single quote stands between
double quotes, and single quotes are opened again. -/
def quoteInQuotes : List Char := ['\x27', '\x22', '\x27', '\x22', '\x27']

/-- A character between single quotes. -/
def inQuotes (c : Char) : List Char :=
  if c = '\x27' then quoteInQuotes else [c]

/-- A word, with quotes where it needs them. -/
def word (w : String) : String :=
  let cs := w.toList
  if !cs.isEmpty && cs.all isPlain then w
  else String.ofList ('\x27' :: cs.flatMap inQuotes ++ ['\x27'])

/-- The words of a command with a blank between them. -/
def join (ws : List String) : String :=
  " ".intercalate (ws.map word)

end PodRedirect.Shell
