/-!
# Marked-up Text

Text with tags in square brackets, as the console takes it.

A tag begins with a lower-case letter or one of `#`, `/` and `@` right after its
bracket and ends at the next closing one. Backslashes in front of a tag count:
each pair stands for one backslash, and an odd one makes the tag plain text.
Backslashes elsewhere stand for themselves, except that one in front of any
other opening bracket is dropped.

`escape` prepares a text so that none of its tags is taken for one, and `render`
gives what the console shows. Together they keep most texts as they are. What
they do to a text that ends in several backslashes, or that has a backslash in
front of a bracket that opens no tag, is part of how messages look.

## Main definitions

* `Piece`: A character, or a tag with the backslashes in front of it.
* `Markup.pieces`: A text in pieces.
* `Markup.escape`: A text without tags of its own.
* `Markup.render`: What is shown of a text with tags.
-/

namespace DiskPlan

namespace Markup

/-- A character, or a tag with the backslashes in front of it. -/
inductive Piece where
  | plain (c : Char)
  | tag (backslashes : Nat) (body : List Char)
  deriving DecidableEq, Repr

/-- Whether a character may follow the opening bracket of a tag. -/
def beginsTag (c : Char) : Bool :=
  c.isLower || c == '#' || c == '/' || c == '@'

/-- The inside of a tag at the front of a text, and what follows it. -/
def scanTag? : List Char → Option (List Char × List Char)
  | '[' :: c :: rest =>
    if beginsTag c then
      let inside := rest.takeWhile fun d => d != ']' && d != '['
      -- Another opening bracket first means that this one opens nothing.
      match rest.dropWhile fun d => d != ']' && d != '[' with
      | ']' :: after => some (c :: inside, after)
      | _ => none
    else
      none
  | _ => none

/-- Whether a character is a backslash. -/
def isBackslash (c : Char) : Bool :=
  c == '\\'

/-- A text in pieces, given a bound on their number. -/
def piecesFrom : Nat → List Char → List Piece
  | 0, _ => []
  | _ + 1, [] => []
  | fuel + 1, c :: rest =>
    let backslashes := (c :: rest).takeWhile isBackslash
    match scanTag? ((c :: rest).dropWhile isBackslash) with
    | some (body, after) => .tag backslashes.length body :: piecesFrom fuel after
    | none =>
      match (c :: rest).dropWhile isBackslash with
      | [] => backslashes.map .plain
      | d :: after => backslashes.map .plain ++ .plain d :: piecesFrom fuel after

/-- A text in pieces. Each piece but the last takes at least one character. -/
def pieces (cs : List Char) : List Piece :=
  piecesFrom cs.length cs

/-- A tag in brackets. -/
def bracketed (body : List Char) : List Char :=
  '[' :: body ++ [']']

/-- A piece as it stands in an escaped text. -/
def escapePiece : Piece → List Char
  | .plain c => [c]
  | .tag backslashes body => List.replicate (2 * backslashes + 1) '\\' ++ bracketed body

/-- A text with a single backslash at its end doubled. -/
def closeBackslash (cs : List Char) : List Char :=
  match cs.reverse with
  | '\\' :: '\\' :: _ => cs
  | '\\' :: _ => cs ++ ['\\']
  | _ => cs

/-- A text whose tags are not taken for tags. -/
def escape (s : String) : String :=
  String.ofList (closeBackslash ((pieces s.toList).flatMap escapePiece))

/-- A text without the backslashes in front of opening brackets. -/
def dropEscapes : List Char → List Char
  | '\\' :: '[' :: rest => '[' :: dropEscapes rest
  | c :: rest => c :: dropEscapes rest
  | [] => []

/-- What is shown of a list of pieces, after the plain characters in front of
    it. -/
def renderPieces : List Char → List Piece → List Char
  | shown, [] => dropEscapes shown
  | shown, .plain c :: rest => renderPieces (shown ++ [c]) rest
  | shown, .tag backslashes body :: rest =>
    -- Each pair of backslashes is one, and an odd one shows the tag.
    dropEscapes shown ++ List.replicate (backslashes / 2) '\\'
      ++ (if backslashes % 2 = 1 then bracketed body else [])
      ++ renderPieces [] rest

/-- What is shown of a text with tags. -/
def render (s : String) : String :=
  String.ofList (renderPieces [] (pieces s.toList))

end Markup

end DiskPlan
