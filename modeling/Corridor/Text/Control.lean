namespace Corridor.Text

def between (low high c : Char) : Bool := low ≤ c && c ≤ high

def isLayout (c : Char) : Bool := c = '\t' || c = '\n' || c = '\x0c' || c = '\r'

def isVisible (c : Char) : Bool := between ' ' '~' c || 128 ≤ c.toNat || isLayout c

/-- The byte 0x9c ends a string, also where it is a part of a character. -/
def hasTerminator (c : Char) : Bool := (String.utf8EncodeChar c).contains 0x9c

inductive Position where
  | outside
  | escape
  | intermediate
  | parameters
  | command
  | deviceStart
  | deviceParameters
  | deviceIntermediate
  | string
  deriving DecidableEq, Repr

namespace Position

def next (position : Position) (c : Char) : Position :=
  if c = '\x1b' then escape
  else if c = '\x18' || c = '\x1a' then outside
  else match position with
    | outside => outside
    | escape =>
      if c = '[' then parameters
      else if c = ']' then command
      else if c = 'P' then deviceStart
      else if c = 'X' || c = '^' || c = '_' then string
      else if between ' ' '/' c then intermediate
      else if between '0' '~' c then outside
      else escape
    | intermediate => if between '0' '~' c then outside else intermediate
    | parameters => if between '@' '~' c then outside else parameters
    | command => if c = '\x07' then outside else command
    | deviceStart =>
      if between ' ' '/' c then deviceIntermediate
      else if between '0' '?' c then deviceParameters
      else if between '@' '~' c then string
      else deviceStart
    | deviceParameters =>
      if between ' ' '/' c then deviceIntermediate
      else if between '<' '~' c then string
      else deviceParameters
    | deviceIntermediate => if between '0' '~' c then string else deviceIntermediate
    | string => if hasTerminator c then outside else string

/-- Characters that lay out a text act within a sequence too, except in strings. -/
def shows : Position → Char → Bool
  | outside, c => isVisible c
  | escape, c | intermediate, c | parameters, c => isLayout c
  | _, _ => false

end Position

/-- What is left of a text from a position on. Once a character is shown, so are all that follow up
to a control character, which is read at the position from before; a character beyond ASCII ends
the sequence that was open there. -/
def visibleFrom (position : Position) (shown : Bool) : List Char → List Char
  | [] => []
  | c :: rest =>
    if (if shown then Position.outside else position).shows c then
      c :: visibleFrom (if c.toNat < 128 then position else .outside) true rest
    else visibleFrom (position.next c) false rest

def visible (text : List Char) : List Char := visibleFrom .outside false text

end Corridor.Text
