import Emend.Regex.Fault

/-! # Reading a pattern

A cursor is a place in a pattern with the characters from there on. Where white space is
ignored, most steps also pass the blanks and comments behind the character they take.
-/

namespace Emend.Regex

/-- The rest of a pattern, its place, and whether white space in it is ignored. -/
structure Cursor where
  rest : List Char
  pos : Position
  verbose : Bool
  deriving Repr

namespace Cursor

def start (pattern : List Char) (verbose : Bool) : Cursor := ⟨pattern, .first, verbose⟩

def atEnd (cur : Cursor) : Bool := cur.rest.isEmpty

def char? (cur : Cursor) : Option Char := cur.rest.head?

def sees (cur : Cursor) (c : Char) : Bool := cur.rest.head? == some c

/-- The character behind the next one. -/
def peek? (cur : Cursor) : Option Char := cur.rest.tail.head?

def bump (cur : Cursor) : Cursor :=
  match cur.rest with
  | [] => cur
  | c :: rest => { cur with rest, pos := cur.pos.advance c }

/-- Passes `text` if the rest starts with it. -/
def take? (cur : Cursor) (text : List Char) : Option Cursor :=
  match text, cur.rest with
  | [], _ => some cur
  | _ :: _, [] => none
  | t :: text, c :: rest =>
      if t = c then take? { cur with rest, pos := cur.pos.advance c } text else none


/-- The place behind blanks and comments. A comment runs to the end of its line. -/
def passSpace (inComment : Bool) (pos : Position) : List Char → List Char × Position
  | [] => ([], pos)
  | c :: rest =>
      if inComment then passSpace (c != '\n') (pos.advance c) rest
      else if Text.isSpace c then passSpace false (pos.advance c) rest
      else if c = '#' then passSpace true (pos.advance c) rest
      else (c :: rest, pos)

/-- Passes blanks and comments where they are ignored. -/
def skipSpace (cur : Cursor) : Cursor :=
  if cur.verbose then
    let (rest, pos) := passSpace false cur.pos cur.rest
    { cur with rest, pos }
  else cur

/-- Passes one character and what is ignored behind it. -/
def bumpSpace (cur : Cursor) : Cursor := cur.bump.skipSpace

/-- The character that is found behind the next one when blanks are looked past. The
character right behind a number sign counts even though a comment has begun. -/
def peekPast (inComment : Bool) : List Char → Option Char
  | [] => none
  | c :: rest =>
      if Text.isSpace c then peekPast inComment rest
      else if !inComment && c = '#' then peekPast true rest
      else some c

/-- The character that decides whether a dash in a class makes a range. -/
def peekSpace? (cur : Cursor) : Option Char :=
  if cur.verbose then (peekPast false cur.rest.tail).or cur.peek? else cur.peek?

def span (cur : Cursor) : Span := .point cur.pos

def spanChar (cur : Cursor) : Span := ⟨cur.pos, cur.bump.pos⟩

/-- A fault here in a given span. -/
def fail {α : Type} (span : Span) (kind : FaultKind) : Except Fault α :=
  .error ⟨kind, span, none⟩

end Cursor

end Emend.Regex
