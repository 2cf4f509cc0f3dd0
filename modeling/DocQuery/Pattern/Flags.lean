import DocQuery.Pattern.Basic
import DocQuery.Text.CaseFold

/-!
# Flags

Flags change how the rest of a group is read: whether case counts, whether `^` and `$` mean
lines, whether the dot takes a line feed, whether blanks and comments stand between the parts
of a pattern.  They also decide how a character that is written down becomes a set.

Without the flag for Unicode a pattern speaks of bytes.  Only sets within ASCII are patterns
then, because any other set could cut a character in two.  A character that is written down
still stands for itself.
-/

namespace DocQuery.Pattern

open DocQuery.Text

/-- How the rest of a group is read. -/
structure Flags where
  /-- `i`: letters stand for both cases. -/
  anyCase : Bool := false
  /-- `m`: `^` and `$` mean the ends of lines. -/
  lines : Bool := false
  /-- `s`: the dot takes a line feed. -/
  dotAll : Bool := false
  /-- `U`: repetitions prefer to be short, which does not change what a pattern covers. -/
  lazy : Bool := false
  /-- `u`: the pattern speaks of characters, not of bytes. -/
  unicode : Bool := true
  /-- `R`: a carriage return ends lines as well. -/
  crlf : Bool := false
  /-- `x`: white space and comments between the parts are left out. -/
  spaced : Bool := false
deriving DecidableEq, Repr

namespace Flags

/-- The flags with one of them changed. -/
def set? (f : Flags) (letter : Char) (value : Bool) : Option Flags :=
  match letter with
  | 'i' => some { f with anyCase := value }
  | 'm' => some { f with lines := value }
  | 's' => some { f with dotAll := value }
  | 'U' => some { f with lazy := value }
  | 'u' => some { f with unicode := value }
  | 'R' => some { f with crlf := value }
  | 'x' => some { f with spaced := value }
  | _ => none

/-- Reads letters up to the `:` or `)` behind them, which is left in place.  Letters behind a
hyphen are turned off.  No letter and no hyphen may come twice, and a hyphen must not come
last.  The result also tells whether there were any letters. -/
def readLetters (f : Flags) (seen : List Char) (lastIsHyphen : Bool) :
    List Char → Option (Flags × Bool × List Char)
  | [] => none
  | c :: rest =>
    if c = ':' ∨ c = ')' then
      if lastIsHyphen then none else some (f, !seen.isEmpty, c :: rest)
    else if seen.contains c then none
    else if c = '-' then f.readLetters (c :: seen) true rest
    else (f.set? c (!seen.contains '-')).bind fun f => f.readLetters (c :: seen) false rest

/-! ## From characters to sets -/

/-- A set closed under case, if case does not count. -/
def foldCase (f : Flags) (s : CodePointSet) : CodePointSet :=
  if !f.anyCase then s else if f.unicode then upToCase s else upToAsciiCase s

/-- A set of characters, or a set of bytes that are all characters of ASCII. -/
def checked? (f : Flags) (s : CodePointSet) : Option CodePointSet :=
  if f.unicode || s.isAscii then some s else none

/-- The set for one character that is written down. -/
def literal (f : Flags) (c : Char) : CodePointSet := f.foldCase (.single c)

/-- The set for the dot. -/
def dot? (f : Flags) : Option CodePointSet :=
  if !f.unicode then none
  else if f.dotAll then some .all
  else if f.crlf then some ((CodePointSet.single '\n').union (.single '\r')).compl
  else some (CodePointSet.single '\n').compl

/-- What `^` asserts. -/
def caret (f : Flags) : Assertion := if f.lines then .lineStart f.crlf else .textStart

/-- What `$` asserts. -/
def dollar (f : Flags) : Assertion := if f.lines then .lineEnd f.crlf else .textEnd

/-! ## Blanks between the parts -/

/-- Leaves out white space and comments, the latter from `#` to the end of the line. -/
def skipFrom (inComment : Bool) : List Char → List Char
  | [] => []
  | c :: rest =>
    if inComment then skipFrom (c != '\n') rest
    else if isSpace c then skipFrom false rest
    else if c = '#' then skipFrom true rest
    else c :: rest

/-- Leaves out what does not count between the parts of a pattern. -/
def skip (f : Flags) (cs : List Char) : List Char := if f.spaced then skipFrom false cs else cs

/-- Takes characters that satisfy `p`, leaving out blanks between and behind them. -/
def takeFrom (f : Flags) (p : Char → Bool) (inComment : Bool) :
    List Char → List Char × List Char
  | [] => ([], [])
  | c :: rest =>
    if inComment then takeFrom f p (c != '\n') rest
    else if f.spaced && isSpace c then takeFrom f p false rest
    else if f.spaced && c == '#' then takeFrom f p true rest
    else if p c then
      let (taken, left) := takeFrom f p false rest
      (c :: taken, left)
    else ([], c :: rest)

/-- The next character that counts.  The text of a comment counts here, though its `#` does
not. -/
def peekFrom (inComment : Bool) : List Char → Option Char
  | [] => none
  | c :: rest =>
    if isSpace c then peekFrom inComment rest
    else if !inComment && c == '#' then peekFrom true rest
    else some c

/-- A look at the next character, before it is decided whether a hyphen makes a range. -/
def peek? (f : Flags) (cs : List Char) : Option Char :=
  if f.spaced then (peekFrom false cs).or cs.head? else cs.head?

/-- Takes characters that satisfy `p` off the front. -/
def takeWhile (f : Flags) (p : Char → Bool) (cs : List Char) : List Char × List Char :=
  f.takeFrom p false cs

end Flags

end DocQuery.Pattern
