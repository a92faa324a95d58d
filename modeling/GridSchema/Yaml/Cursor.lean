import GridSchema.Yaml.Character

/-! A position in a stream, from which characters are read. -/

namespace GridSchema.Yaml

/-- The characters that are left, and where they start: after how many bytes, in which line and
after how many characters of it. -/
structure Cursor where
  rest : List Char
  index : Nat
  line : Nat
  column : Nat

namespace Cursor

def start (text : String) : Cursor := ⟨text.toList, 0, 0, 0⟩

def peek (cursor : Cursor) (n : Nat) : Option Char :=
  cursor.rest[n]?

def holds (cursor : Cursor) (n : Nat) (c : Char) : Bool :=
  cursor.peek n == some c

/-- Whether a space, a break or the end comes `n` places on. -/
def gapAt (cursor : Cursor) (n : Nat) : Bool :=
  (cursor.peek n).all isGap

def atLineEnd (cursor : Cursor) : Bool :=
  (cursor.peek 0).all isBreak

def width (cursor : Cursor) (n : Nat) : Nat :=
  (cursor.rest.take n).foldl (fun size c => size + c.utf8Size) 0

def skipMany (cursor : Cursor) (n : Nat) : Cursor :=
  ⟨cursor.rest.drop n, cursor.index + cursor.width n, cursor.line, cursor.column + n⟩

def skip (cursor : Cursor) : Cursor :=
  cursor.skipMany 1

def takeWhile (p : Char → Bool) (cursor : Cursor) : List Char × Cursor :=
  let taken := cursor.rest.takeWhile p
  (taken, cursor.skipMany taken.length)

def skipWhile (p : Char → Bool) (cursor : Cursor) : Cursor :=
  (cursor.takeWhile p).2

private def nextLine (cursor : Cursor) (n : Nat) : Cursor :=
  ⟨cursor.rest.drop n, cursor.index + cursor.width n, cursor.line + 1, 0⟩

/-- Reads a line break, if one comes next. The two separators that are no controls stand for
themselves, the other breaks for a line feed. -/
def takeBreak (cursor : Cursor) : List Char × Cursor :=
  match cursor.rest with
  | '\r' :: '\n' :: _ => (['\n'], cursor.nextLine 2)
  | c :: _ =>
    if isBreak c then
      ([if c.toNat == 0x2028 || c.toNat == 0x2029 then c else '\n'], cursor.nextLine 1)
    else ([], cursor)
  | [] => ([], cursor)

def skipBreak (cursor : Cursor) : Cursor :=
  cursor.takeBreak.2

def skipComment (cursor : Cursor) : Cursor :=
  if cursor.holds 0 '#' then cursor.skipWhile fun c => !isBreak c else cursor

/-- Moves over the rest of a line that may hold spaces and a comment only. -/
def endLine? (cursor : Cursor) : Option Cursor :=
  let cursor := (cursor.skipWhile isSpace).skipComment
  if cursor.atLineEnd then some cursor.skipBreak else none

/-- Whether a line starts here with three times `c`, standing alone. -/
def atDocumentMark (cursor : Cursor) (c : Char) : Bool :=
  cursor.column == 0 && cursor.holds 0 c && cursor.holds 1 c && cursor.holds 2 c && cursor.gapAt 3

def atAnyDocumentMark (cursor : Cursor) : Bool :=
  cursor.atDocumentMark '-' || cursor.atDocumentMark '.'

end Cursor

end GridSchema.Yaml
