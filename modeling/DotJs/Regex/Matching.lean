import DotJs.Regex.CharSet

/-!
# Regular expressions and where they match

A pattern is searched for in a text from left to right. What is left of a pattern
behind one character is again a pattern: `Regex.partials` lists the possible
remainders. A search keeps the list of all remainders of all attempts so far, each
once, and a match has been found as soon as one of them holds of no further
character, which is `Regex.nullable`. Both look at the characters before and behind
the current place, because patterns can ask about them.
-/

namespace DotJs

namespace Regex

/-- What a pattern can ask about a place between two characters. The place is told by the characters
on its sides, so that one question is answered without the rest of the text. -/
inductive Look where
  /-- it is the start of the text -/
  | textStart
  /-- it is the end of the text -/
  | textEnd
  /-- it is the start of a line; carriage returns can end lines too -/
  | lineStart (crlf : Bool)
  /-- it is the end of a line; carriage returns can end lines too -/
  | lineEnd (crlf : Bool)
  /-- a word starts or ends; words can be of ASCII only -/
  | boundary (unicode : Bool)
  /-- no word starts or ends -/
  | noBoundary (unicode : Bool)
  /-- a word starts -/
  | wordStart (unicode : Bool)
  /-- a word ends -/
  | wordEnd (unicode : Bool)
  /-- no character of a word stands before -/
  | wordStartHalf (unicode : Bool)
  /-- no character of a word stands behind -/
  | wordEndHalf (unicode : Bool)
  deriving DecidableEq, Repr

/-- Whether a character next to a place is one of a word (`\w`). At the ends of a text there is
none. -/
def isWord (unicode : Bool) : Option Char → Bool
  | none => false
  | some c => if unicode then Unicode.isWordPart c else c.isAlphanum || c == '_'

/-- Whether a place is as a `Look` asks, given the characters before and behind it. A line feed
behind a carriage return belongs to it where carriage returns end lines, so that no line starts or
ends between the two. -/
def Look.holds (before after : Option Char) : Look → Bool
  | .textStart => before.isNone
  | .textEnd => after.isNone
  | .lineStart crlf =>
    before.isNone || before == some '\n'
      || (crlf && before == some '\r' && after != some '\n')
  | .lineEnd crlf =>
    if crlf then
      after.isNone || after == some '\r' || (after == some '\n' && before != some '\r')
    else
      after.isNone || after == some '\n'
  | .boundary u => isWord u before != isWord u after
  | .noBoundary u => isWord u before == isWord u after
  | .wordStart u => !isWord u before && isWord u after
  | .wordEnd u => isWord u before && !isWord u after
  | .wordStartHalf u => !isWord u before
  | .wordEndHalf u => !isWord u after

end Regex

/-- A regular expression. Groups have no numbers and repetitions no preference, because all that is
ever asked of one is whether it is found (`Regex.isFoundIn`). -/
inductive Regex where
  /-- no character -/
  | empty
  /-- one character of a set -/
  | one (set : Regex.CharSet)
  /-- no character, at a place as asked -/
  | look (l : Regex.Look)
  /-- one after the other -/
  | andThen (a b : Regex)
  /-- one or the other -/
  | either (a b : Regex)
  /-- the same again and again, at least and at most so often -/
  | loop (a : Regex) (least : Nat) (most : Option Nat)
  deriving DecidableEq, Repr

namespace Regex

/-- Whether a `Regex` holds of no character at a place. It is what decides that a match has been
found. -/
def nullable (before after : Option Char) : Regex → Bool
  | .empty => true
  | .one _ => false
  | .look l => l.holds before after
  | .andThen a b => a.nullable before after && b.nullable before after
  | .either a b => a.nullable before after || b.nullable before after
  | .loop a least _ => least == 0 || a.nullable before after

/-- A remainder with what follows it. An empty remainder leaves no trace, so that equal remainders
are equal terms. -/
def followedBy (a b : Regex) : Regex :=
  match a with
  | .empty => b
  | a => .andThen a b

/-- What can be left of a `Regex` behind the next character. In a loop, rounds that take no
character can be made here as often as needed. -/
def partials (before : Option Char) (c : Char) : Regex → List Regex
  | .empty => []
  | .one set => if set.contains c then [.empty] else []
  | .look _ => []
  | .andThen a b =>
    (a.partials before c).map (followedBy · b)
      ++ if a.nullable before (some c) then b.partials before c else []
  | .either a b => a.partials before c ++ b.partials before c
  | .loop a least most =>
    if most = some 0 then
      []
    else
      let left := if a.nullable before (some c) then 0 else least - 1
      (a.partials before c).map (followedBy · (.loop a left (most.map (· - 1))))

/-- Searches the rest of a text for a pattern, of which some remainders are under way already. A new
attempt starts at every place, and each remainder (`partials`) is kept once, so that the work at a
place is bounded by the number of remainders and nothing is gone through twice. -/
def searchFrom (r : Regex) : (before : Option Char) → List Regex → Text → Bool
  | before, states, [] => (r :: states).any (nullable before none)
  | before, states, c :: rest =>
    let states := (r :: states).eraseDups
    states.any (nullable before (some c))
      || searchFrom r (some c) (states.flatMap (partials before c)).eraseDups rest

/-- Whether a pattern matches somewhere in a text. It is the way of looking for patterns that
`Rules.forces` goes by. -/
def isFoundIn (r : Regex) (text : Text) : Bool := searchFrom r none [] text

/-- An upper bound on the number of bytes that a compiled pattern takes. A repetition (`{n,m}`)
weighs as much as the copies that it stands for. -/
def weight : Regex → Nat
  | .empty => 32
  | .one set => set.weight
  | .look _ => 32
  | .andThen a b => a.weight + b.weight
  | .either a b => a.weight + b.weight + 64
  | .loop a least most =>
    match most with
    | none => max least 1 * a.weight + 32
    | some most => most * (a.weight + (if least < most then 32 else 0))

/-- The number of bytes that a compiled pattern may take. A pattern beyond it is none (`parse?`). -/
def weightLimit : Nat := 10 * 0x100000

end Regex

end DotJs
