import ControlSearch.Text.Composition

/-!
# Running text

The text of a page as it is read: composed, and with a single plain blank for every run of
blanks. It never begins with a blank.
-/
namespace ControlSearch

structure RunningText where
  content : Text
  deriving DecidableEq, Repr

namespace RunningText

def empty : RunningText := ⟨[]⟩

/-- Whether a blank would be lost at the end: there is one, or nothing to follow. -/
def endsBlank (content : Text) : Bool :=
  match content.getLast? with
  | none => true
  | some c => c == ' '

/-- Collapses the blanks of a text. The first run of blanks is lost if there is a blank
already. -/
def collapse (blank : Bool) : Text → Text
  | [] => []
  | c :: rest =>
    if Text.isBlank c then
      if blank then collapse true rest else ' ' :: collapse true rest
    else c :: collapse false rest

/-- Appends a raw text. -/
def append (t : RunningText) (raw : Text) : RunningText :=
  ⟨t.content ++ collapse (endsBlank t.content) raw.composed⟩

/-- Appends a blank, unless one would be lost. -/
def appendBlank (t : RunningText) : RunningText :=
  if endsBlank t.content then t else ⟨t.content ++ [' ']⟩

def ofRaw (raw : Text) : RunningText := empty.append raw

def size (t : RunningText) : Nat := t.content.size

/-- Removes one blank in front. -/
def dropBlank : Text → Text
  | ' ' :: rest => rest
  | t => t

/-- Removes one blank at the end. -/
def dropBlankEnd (t : Text) : Text := (dropBlank t.reverse).reverse

/-- The text between two offsets, without a blank at either end. It is empty if the offsets
are out of order or not boundaries. -/
def between (content : Text) (start stop : Nat) : Text :=
  if stop ≤ start then []
  else dropBlankEnd (dropBlank ((content.slice? start stop).getD []))

end RunningText
end ControlSearch
