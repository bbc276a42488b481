import Scriptorium.Dialect

/-!
# What a command prints

The words that the shell reads in the command that prints a text. The reader goes through a command
once, character by character, and is outside quotes, between single quotes or behind a backslash
(`Shell.Mode`). Between single quotes every character stands for itself; outside them a backslash
makes the next character stand for itself, blanks end words, and pieces without blanks between them
are one word. Characters that the shell reads by other rules when they are not quoted, like a dollar
sign or a semicolon, are not read at all, so that a command that is read has none of them there.

A character of a text is written between quotes in such a way that the reader comes back to where it
was, with the character behind its word (`read_shellQuoted`), whether it is a quote, a backslash or
a line break. So it does for a whole text (`read_flatMap_shellQuoted`), and `words?_echo` follows.
-/

set_option autoImplicit false
set_option relaxedAutoImplicit false

namespace Scriptorium.Shell

/-- Where the next character of a command is read: outside quotes, between single quotes, or behind
a backslash. -/
inductive Mode where
  | plain
  | quoted
  | escaped
  deriving DecidableEq, Repr

/-- What has been read of a command: the words that have ended, and the one that has not, if one has
begun. -/
structure Reader where
  mode : Mode
  words : List (List Char)
  word : Option (List Char)
  deriving DecidableEq, Repr

namespace Reader

/-- The reader before a command. -/
def start : Reader := ⟨.plain, [], none⟩

/-- The word that is read, or one that begins. -/
def current (r : Reader) : List Char := r.word.getD []

/-- Puts a character behind the word. -/
def push (r : Reader) (c : Char) : Reader := { r with word := some (r.current ++ [c]) }

/-- Ends the word if one has begun. -/
def endWord (r : Reader) : Reader := { r with words := r.words ++ r.word.toList, word := none }

end Reader

/-- The blanks between words. -/
def isSeparator (c : Char) : Bool := c == ' ' || c == '\t'

/-- The characters that mean something else outside quotes: operators, line breaks, expansions,
patterns, and double quotes. -/
def special : List Char :=
  ['|', '&', ';', '<', '>', '(', ')', '\n', '$', '\x60', '\x22', '*', '?', '[', '#', '~', '=', '%']

/-- Reads a character, if it is no special one outside quotes. A line break behind a backslash goes
on with the line. -/
def step (r : Reader) (c : Char) : Option Reader :=
  match r.mode with
  | .quoted => some (if c = '\'' then { r with mode := .plain } else r.push c)
  | .escaped =>
    some (if c = '\n' then { r with mode := .plain } else { r.push c with mode := .plain })
  | .plain =>
    if c = '\'' then some { r with mode := .quoted, word := some r.current }
    else if c = '\\' then some { r with mode := .escaped }
    else if isSeparator c then some r.endWord
    else if c ∈ special then none
    else some (r.push c)

/-- Reads characters one after the other. -/
def read (r : Reader) (text : List Char) : Option Reader := text.foldlM step r

/-- The words of a command that ends outside quotes and not behind a backslash. -/
def words? (command : String) : Option (List String) := do
  let r ← read .start command.toList
  if r.mode = .plain then some (r.endWord.words.map String.ofList) else none

theorem read_append (r : Reader) (first second : List Char) :
    read r (first ++ second) = (read r first).bind fun s ↦ read s second :=
  List.foldlM_append

variable {words : List (List Char)} {word : List Char}

/-- Between quotes a character is read back from what is written for it. -/
theorem read_shellQuoted (c : Char) :
    read ⟨.quoted, words, some word⟩ (Dialect.shellQuoted c) =
      some ⟨.quoted, words, some (word ++ [c])⟩ := by
  unfold Dialect.shellQuoted
  by_cases hquote : c = '\''
  · -- out of the quotes, a quote behind a backslash, and into quotes again
    subst hquote
    rfl
  · rw [if_neg hquote]
    simp [read, step, hquote, Reader.push, Reader.current]

/-- Between quotes a text is read back from what is written for its characters. -/
theorem read_flatMap_shellQuoted (text : List Char) :
    read ⟨.quoted, words, some word⟩ (text.flatMap Dialect.shellQuoted) =
      some ⟨.quoted, words, some (word ++ text)⟩ := by
  induction text generalizing word with
  | nil =>
    rw [List.append_nil]
    rfl
  | cons c rest ih =>
    rw [List.flatMap_cons, read_append, read_shellQuoted, Option.bind_some, ih, List.append_assoc,
      List.singleton_append]

/-- A text that is quoted is a word, or goes on with one. -/
theorem read_quoted (word : Option (List Char)) (text : List Char) :
    read ⟨.plain, words, word⟩ (['\''] ++ text.flatMap Dialect.shellQuoted ++ ['\'']) =
      some ⟨.plain, words, some (word.getD [] ++ text)⟩ := by
  have hopened : read ⟨.plain, words, word⟩ ['\''] =
      some ⟨.quoted, words, some (word.getD [])⟩ := rfl
  have hclosed : read ⟨.quoted, words, some (word.getD [] ++ text)⟩ ['\''] =
      some ⟨.plain, words, some (word.getD [] ++ text)⟩ := rfl
  rw [read_append, read_append, hopened, Option.bind_some, read_flatMap_shellQuoted,
    Option.bind_some, hclosed]

/-- The command that prints a text has two words, of which the second is the text. -/
theorem words?_echo (text : String) :
    words? (Dialect.shell.echo text) = some ["echo", text] := by
  have hname : read .start "echo ".toList = some ⟨.plain, ["echo".toList], none⟩ := by decide
  have hcommand : (Dialect.shell.echo text).toList =
      "echo ".toList ++ (['\''] ++ text.toList.flatMap Dialect.shellQuoted ++ ['\'']) := by
    simp [Dialect.echo]
  have hread : read .start (Dialect.shell.echo text).toList =
      some ⟨.plain, ["echo".toList], some text.toList⟩ := by
    rw [hcommand, read_append, hname, Option.bind_some, read_quoted]
    rfl
  simp [words?, hread, Reader.endWord]

example : Dialect.shell.echo "it's $5" = "echo 'it'\\''s $5'" ∧
    words? "echo 'it'\\''s $5'" = some ["echo", "it's $5"] := by decide

end Scriptorium.Shell
