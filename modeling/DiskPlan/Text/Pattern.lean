/-!
# Patterns

Shapes of text, and where a text has them.

A pattern says which characters follow one another. Some patterns take no
character and only look at the ones around a place, which is why a place knows
the character before it. A part of a pattern may be set apart; its bounds are
what a search is after.

A pattern may match in several ways, and they are tried in order. Of two
alternatives the first one goes first. A greedy repetition tries one more round
before it stops, a lazy one tries to stop first. The first way that lets all that
follows match as well is the one that counts, so `Pattern.find?` is given what
follows as a function.

A search goes through a text from the left and goes on behind each match.

## Main definitions

* `Place`: A place in a text, and the bounds that were found on the way to it.
* `Pattern`: A shape of text.
* `Pattern.find?`: The first way in which a pattern matches at a place.
* `Pattern.bounds`: The bounds of the parts of all matches in a text.
-/

namespace DiskPlan

namespace Text

/-- A place in a text: the character before it, the characters after it, its
    distance from the start, and the bounds that were found on the way. -/
structure Place where
  last : Option Char
  rest : List Char
  offset : Nat
  bounds : List Nat
  deriving DecidableEq, Repr

/-- The place in front of a text. -/
def Place.start (cs : List Char) : Place :=
  ⟨none, cs, 0, []⟩

/-- The place after one more character, given what follows it. -/
def Place.past (here : Place) (c : Char) (rest : List Char) : Place :=
  ⟨some c, rest, here.offset + 1, here.bounds⟩

/-- A place with the bounds of the part that leads to it. A part without
    characters has none. -/
def Place.closing (here : Place) (opened : Nat) : Place :=
  if opened < here.offset then
    { here with bounds := opened :: here.offset :: here.bounds }
  else
    here

/-- A way to go on from one place to another. -/
abbrev Continuation := Place → Option Place

/-- A shape of text. -/
inductive Pattern where
  /-- Nothing at all. -/
  | empty
  /-- One character of a class. -/
  | one (accepts : Char → Bool)
  | followedBy (first second : Pattern)
  | either (first second : Pattern)
  /-- As many rounds as possible from a least to a greatest number. -/
  | greedy (least : Nat) (most : Option Nat) (round : Pattern)
  /-- As few rounds as possible from a least to a greatest number. -/
  | lazy (least : Nat) (most : Option Nat) (round : Pattern)
  /-- A part with bounds of its own. -/
  | part (inner : Pattern)
  /-- Nothing, where no character of a class stands before. -/
  | notAfter (refuses : Char → Bool)
  /-- Nothing, where a run of characters of a class begins or ends, or where
      none does. -/
  | edge (inside : Char → Bool) (present : Bool)

instance : Append Pattern := ⟨.followedBy⟩

instance : OrElse Pattern := ⟨fun p q => .either p (q ())⟩

/-- A number of rounds. -/
def inRounds (round : Place → Continuation → Option Place) :
    Nat → Place → Continuation → Option Place
  | 0, here, next => next here
  | n + 1, here, next => round here fun there => inRounds round n there next

/-- As many rounds as possible up to a number. -/
def inMostRounds (round : Place → Continuation → Option Place) :
    Nat → Place → Continuation → Option Place
  | 0, here, next => next here
  | n + 1, here, next =>
    (round here fun there => inMostRounds round n there next).orElse fun _ => next here

/-- As few rounds as possible up to a number. -/
def inFewestRounds (round : Place → Continuation → Option Place) :
    Nat → Place → Continuation → Option Place
  | 0, here, next => next here
  | n + 1, here, next =>
    (next here).orElse fun _ => round here fun there => inFewestRounds round n there next

namespace Pattern

/-- Where the first way leads in which a pattern matches at a place and what
    follows matches too. A repetition without an end takes a character in each
    round, so the length of the text is a limit for it. -/
def find? (limit : Nat) : Pattern → Place → Continuation → Option Place
  | .empty, here, next => next here
  | .one accepts, here, next =>
    match here.rest with
    | [] => none
    | c :: rest => if accepts c then next (here.past c rest) else none
  | .followedBy first second, here, next =>
    first.find? limit here fun there => second.find? limit there next
  | .either first second, here, next =>
    (first.find? limit here next).orElse fun _ => second.find? limit here next
  | .greedy least most round, here, next =>
    inRounds (round.find? limit) least here fun there =>
      inMostRounds (round.find? limit) (most.getD limit - least) there next
  | .lazy least most round, here, next =>
    inRounds (round.find? limit) least here fun there =>
      inFewestRounds (round.find? limit) (most.getD limit - least) there next
  | .part inner, here, next =>
    inner.find? limit here fun there => next (there.closing here.offset)
  | .notAfter refuses, here, next =>
    if here.last.any refuses then none else next here
  | .edge inside present, here, next =>
    if (here.last.any inside != here.rest.head?.any inside) == present then next here else none

/-- The bounds of the parts of all matches from a place on, given a bound on
    their number. -/
def boundsFrom (p : Pattern) (limit : Nat) : Nat → Place → List Nat
  | 0, here => here.bounds
  | fuel + 1, here =>
    match here.rest with
    | [] => here.bounds
    | c :: rest =>
      match p.find? limit here some with
      | none => p.boundsFrom limit fuel (here.past c rest)
      | some there =>
        -- A match without characters is passed over like no match.
        p.boundsFrom limit fuel (if here.offset < there.offset then there else here.past c rest)

/-- The bounds of the parts of all matches in a text. Each match takes at least
    one character. -/
def bounds (p : Pattern) (cs : List Char) : List Nat :=
  p.boundsFrom cs.length cs.length (.start cs)

/-- A character. -/
def char (c : Char) : Pattern :=
  .one (· == c)

/-- One of the characters of a text. -/
def oneOf (s : String) : Pattern :=
  .one s.toList.contains

/-- A text as it stands. -/
def exactly (s : String) : Pattern :=
  s.toList.foldr (fun c p => char c ++ p) .empty

/-- One of several patterns. The first that matches counts. -/
def firstOf : List Pattern → Pattern
  | [] => .one fun _ => false
  | [p] => p
  | p :: rest => p <|> firstOf rest

/-- A pattern or nothing. -/
def optional (p : Pattern) : Pattern :=
  .greedy 0 (some 1) p

/-- A pattern any number of times. -/
def many (p : Pattern) : Pattern :=
  .greedy 0 none p

/-- A pattern at least once. -/
def oneOrMore (p : Pattern) : Pattern :=
  .greedy 1 none p

/-- A pattern a number of times. -/
def times (p : Pattern) (n : Nat) : Pattern :=
  .greedy n (some n) p

/-- A pattern between two numbers of times. -/
def between (p : Pattern) (least most : Nat) : Pattern :=
  .greedy least (some most) p

end Pattern

end Text

end DiskPlan
