/-!
# Text

A text is a list of characters whose offsets count UTF-8 bytes. An offset is a boundary of a
text when it lies between two characters, or at either end; only boundaries cut a text.
-/
namespace ControlSearch

/-- Characters in reading order. -/
abbrev Text := List Char

namespace Text

/-- The length in UTF-8 bytes. -/
def size : Text → Nat
  | [] => 0
  | c :: rest => c.utf8Size + size rest

@[simp] theorem size_nil : size [] = 0 := rfl
@[simp] theorem size_cons (c : Char) (t : Text) : size (c :: t) = c.utf8Size + size t := rfl

@[simp] theorem size_append (s t : Text) : size (s ++ t) = size s + size t := by
  induction s with
  | nil => simp
  | cons c s ih => simp [ih, Nat.add_assoc]

/-- Cuts a text at an offset, which has to be a boundary. -/
def splitAt? : Text → Nat → Option (Text × Text)
  | t, 0 => some ([], t)
  | [], _ + 1 => none
  | c :: rest, n + 1 =>
    if c.utf8Size ≤ n + 1 then
      (splitAt? rest (n + 1 - c.utf8Size)).map fun (before, after) => (c :: before, after)
    else none

/-- The text from an offset on. -/
def drop? (t : Text) (start : Nat) : Option Text := (t.splitAt? start).map (·.2)

/-- The text up to an offset. -/
def take? (t : Text) (stop : Nat) : Option Text := (t.splitAt? stop).map (·.1)

/-- The text between two offsets; nothing unless both are boundaries in this order. -/
def slice? (t : Text) (start stop : Nat) : Option Text :=
  if start ≤ stop then (t.drop? start).bind (take? · (stop - start)) else none

/-- A boundary of a text: its offset, the character in front of it, and what follows. -/
structure Boundary where
  offset : Nat
  last : Option Char
  rest : Text
  deriving DecidableEq, Repr

/-- The boundaries of a text that begins at a given offset, behind a given character. -/
def boundariesFrom (offset : Nat) (last : Option Char) : Text → List Boundary
  | [] => [⟨offset, last, []⟩]
  | c :: rest =>
    ⟨offset, last, c :: rest⟩ :: boundariesFrom (offset + c.utf8Size) (some c) rest

theorem boundariesFrom_eq_cons (offset : Nat) (last : Option Char) (t : Text) :
    boundariesFrom offset last t =
      ⟨offset, last, t⟩ :: (boundariesFrom offset last t).tail := by
  cases t <;> rfl

/-- Every boundary from the start to the end of the text, both included. -/
def boundaries (t : Text) : List Boundary := boundariesFrom 0 none t

/-- The offset of the leftmost place where `word` stands. -/
def find? (t word : Text) : Option Nat :=
  (t.boundaries.find? fun b => word.isPrefixOf b.rest).map (·.offset)

/-- The offset of the rightmost place where `word` stands. -/
def findLast? (t word : Text) : Option Nat :=
  (t.boundaries.reverse.find? fun b => word.isPrefixOf b.rest).map (·.offset)

/-- Whether `word` stands somewhere in the text. -/
def includes (t word : Text) : Bool := t.boundaries.any fun b => word.isPrefixOf b.rest

/-- The characters with the property White_Space. -/
def isBlank (c : Char) : Bool :=
  let n := c.toNat
  (9 ≤ n && n ≤ 13) || n = 0x20 || n = 0x85 || n = 0xA0 || n = 0x1680 ||
  (0x2000 ≤ n && n ≤ 0x200A) || n = 0x2028 || n = 0x2029 || n = 0x202F || n =
    0x205F || n = 0x3000

/-- Removes blanks at the start. -/
def trimStart (t : Text) : Text := t.dropWhile isBlank

/-- Removes blanks at the end. -/
def trimEnd (t : Text) : Text := (t.reverse.dropWhile isBlank).reverse

/-- Removes blanks at both ends. -/
def trim (t : Text) : Text := t.trimStart.trimEnd

/-- Joins texts with a separator between neighbours. -/
def join (separator : Text) (parts : List Text) : Text :=
  (parts.intersperse separator).flatten

@[simp] theorem join_singleton (separator t : Text) : join separator [t] = t := by simp [join]

@[simp] theorem join_cons_cons (separator t u : Text) (rest : List Text) :
    join separator (t :: u :: rest) = t ++ (separator ++ join separator (u :: rest)) := by
  simp [join]

/-- Lowers the ASCII letters. -/
def lowered (t : Text) : Text := t.map Char.toLower

/-- A text cut to at most `max` characters, three of them dots if anything had to go. -/
def preview (t : Text) (max : Nat) : Text :=
  if t.length ≤ max then t else t.take (max - 3) ++ ['.', '.', '.']

theorem length_preview_le (t : Text) (max : Nat) (h : 3 ≤ max) :
    (t.preview max).length ≤ max := by
  unfold preview
  split
  · assumption
  · simp only [List.length_append, List.length_take, List.length_cons, List.length_nil]
    omega

/-- The decimal numeral of a number. -/
def ofNat (n : Nat) : Text := n.repr.toList

end Text
end ControlSearch
