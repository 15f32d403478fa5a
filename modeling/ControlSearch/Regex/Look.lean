import ControlSearch.CharSet.Property

/-!
# Assertions about a place in a text

An assertion consumes nothing. Whether it holds depends on the characters on either side of
the place, in the whole text and not only in the part that is searched.
-/
namespace ControlSearch.Regex

/-- The characters before and behind a place; at the ends of the text there is none. -/
structure Place where
  last : Option Char
  next : Option Char
  deriving DecidableEq, Repr

/-- Which characters belong to words. -/
inductive Alphabet where
  | ascii
  | unicode
  deriving DecidableEq, Repr, Hashable

/-- What ends a line: a line feed, or also a carriage return with or without a line feed. -/
inductive LineEnding where
  | lineFeed
  | carriageReturn
  deriving DecidableEq, Repr, Hashable

/-- The assertions. -/
inductive Look where
  | textStart
  | textEnd
  | lineStart (ending : LineEnding)
  | lineEnd (ending : LineEnding)
  /-- One neighbour belongs to a word and the other does not. -/
  | wordEdge (alphabet : Alphabet)
  | notWordEdge (alphabet : Alphabet)
  | wordStart (alphabet : Alphabet)
  | wordEnd (alphabet : Alphabet)
  /-- The left neighbour does not belong to a word. -/
  | wordStartHalf (alphabet : Alphabet)
  /-- The right neighbour does not belong to a word. -/
  | wordEndHalf (alphabet : Alphabet)
  deriving DecidableEq, Repr, Hashable

namespace Alphabet

def wordChars : Alphabet → CharSet
  | ascii => CharSet.asciiWord
  | unicode => CharSet.word

/-- Whether a neighbour belongs to a word. -/
def inWord (a : Alphabet) : Option Char → Bool
  | none => false
  | some c => a.wordChars.contains c

end Alphabet

namespace Look

def holds (place : Place) : Look → Bool
  | textStart => place.last.isNone
  | textEnd => place.next.isNone
  | lineStart .lineFeed => place.last.isNone || place.last == some '\n'
  | lineStart .carriageReturn =>
    place.last.isNone || place.last == some '\n' ||
      (place.last == some '\r' && place.next != some '\n')
  | lineEnd .lineFeed => place.next.isNone || place.next == some '\n'
  | lineEnd .carriageReturn =>
    place.next.isNone || place.next == some '\r' ||
      (place.next == some '\n' && place.last != some '\r')
  | wordEdge a => a.inWord place.last != a.inWord place.next
  | notWordEdge a => a.inWord place.last == a.inWord place.next
  | wordStart a => !a.inWord place.last && a.inWord place.next
  | wordEnd a => a.inWord place.last && !a.inWord place.next
  | wordStartHalf a => !a.inWord place.last
  | wordEndHalf a => !a.inWord place.next

/-- Whether the assertion asks for the words of all scripts. -/
def isUnicode : Look → Bool
  | wordEdge .unicode | notWordEdge .unicode | wordStart .unicode | wordEnd .unicode
  | wordStartHalf .unicode | wordEndHalf .unicode => true
  | _ => false

end Look
end ControlSearch.Regex
