import ControlSearch.Text.Canonical

/-!
# Canonical composition

Brings a text into the composed canonical form (NFC): characters are taken apart, marks are
put into the order of their combining classes, and what can be composed with the character it
follows is. Two texts that are canonically equivalent have the same composed form.
-/
namespace ControlSearch.Text

/-- The letters of Hangul from which syllables are composed: leading consonants, vowels and
trailing consonants. The trailing ones are counted from the place before the first of them. -/
def leading : Nat := 0x1100
def vowel : Nat := 0x1161
def trailing : Nat := 0x11A7
def syllable : Nat := 0xAC00

/-- Whether a code point is a conjoining letter or a syllable of Hangul. -/
def isHangul (n : Nat) : Bool := (0x1100 ≤ n && n ≤ 0x11FF) || (0xAC00 ≤ n && n ≤ 0xD7A3)

/-- The combining class. -/
def combiningClass (c : Char) : Nat :=
  if isHangul c.toNat then 0 else classTable.getD c.toNat 0

/-- The letters of a syllable of Hangul; any other letter is left as it is. -/
def hangulLetters (n : Nat) : Text :=
  if syllable ≤ n ∧ n ≤ 0xD7A3 then
    let i := n - syllable
    Char.ofNat (leading + i / 588) :: Char.ofNat (vowel + i % 588 / 28) ::
      (if i % 28 = 0 then [] else [Char.ofNat (trailing + i % 28)])
  else [Char.ofNat n]

/-- Takes a character apart as far as it goes. Only the first of its parts can have parts
itself, and four rounds exhaust the table. -/
def parts : Nat → Nat → Text
  | 0, n => [Char.ofNat n]
  | rounds + 1, n =>
    match partTable[n]? with
    | some (first :: others) => parts rounds first ++ others.map Char.ofNat
    | _ => [Char.ofNat n]

/-- The full decomposition of a character. -/
def decomposition (c : Char) : Text :=
  if isHangul c.toNat then hangulLetters c.toNat else parts 4 c.toNat

/-- Puts a mark behind the characters before it, which are given last one first, in front of
those marks that have a greater class. -/
def insertMark (c : Char) : Text → Text
  | [] => [c]
  | d :: before =>
    if combiningClass c ≠ 0 ∧
      combiningClass c < combiningClass d then d :: insertMark c before
    else c :: d :: before

/-- Puts neighbouring marks into the order of their classes, and keeps those of equal class as
they are. -/
def ordered (t : Text) : Text := (t.foldl (fun before c => insertMark c before) []).reverse

/-- The syllable composed from two letters, or from a syllable without a trailing consonant
and one. -/
def hangulPair? (a b : Nat) : Option Nat :=
  if leading ≤ a ∧ a < leading + 19 ∧ vowel ≤ b ∧ b < vowel + 21 then
    some (syllable + ((a - leading) * 21 + (b - vowel)) * 28)
  else if syllable ≤ a ∧ a ≤ 0xD7A3 ∧ (a - syllable) % 28 = 0 ∧
      trailing < b ∧ b < trailing + 28 then
    some (a + (b - trailing))
  else none

/-- The character composed from two. -/
def pair? (a b : Char) : Option Char :=
  (if isHangul a.toNat then hangulPair? a.toNat b.toNat
    else pairTable[(a.toNat, b.toNat)]?).map Char.ofNat

/-- Composes what follows a starter and the marks that were not composed with it (last one
first). A character is composed with the starter unless a mark of its class, or a greater one,
or another starter stands in between. -/
def composeBehind (starter : Char) (marks : Text) : Text → Text
  | [] => starter :: marks.reverse
  | c :: rest =>
    let reaches := match marks with
      | [] => true
      | m :: _ => combiningClass m < combiningClass c
    match if reaches then pair? starter c else none with
    | some d => composeBehind d marks rest
    | none =>
      if combiningClass c = 0 then starter :: marks.reverse ++ composeBehind c [] rest
      else composeBehind starter (c :: marks) rest

/-- Composes all that can be composed. -/
def compose : Text → Text
  | [] => []
  | c :: rest => if combiningClass c = 0 then composeBehind c [] rest else c :: compose rest

/-- The composed canonical form. -/
def composed (t : Text) : Text := compose (ordered (t.flatMap decomposition))

end ControlSearch.Text
