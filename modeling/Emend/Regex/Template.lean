import Emend.Regex.Search

/-! # Replacement templates

A template is text in which `$` starts a reference to a group: `$name` with as many
letters, digits and underscores as follow, or `${name}` with anything up to the brace.
Two of them stand for one, and any other `$` for itself.
-/

namespace Emend.Regex

inductive TemplatePart where
  /-- A character that stands for itself. -/
  | char (c : Char)
  /-- The group with a number. -/
  | number (n : Nat)
  /-- The group with a name. -/
  | name (text : List Char)
  deriving Repr, DecidableEq

namespace TemplatePart

def isNameChar (c : Char) : Bool := c.isAlphanum || c == '_'

/-- The group that a name in a template refers to: a number, which may have a plus sign
and has to fit into 64 bits, or else a name. -/
def ofName (text : List Char) : TemplatePart :=
  let digits := match text with
    | '+' :: rest => rest
    | _ => text
  let value := digits.foldl (fun n c => 10 * n + (c.toNat - '0'.toNat)) 0
  if digits.isEmpty || !digits.all Char.isDigit || value ≥ 0x10000000000000000 then .name text
  else .number value

/-- Reads a template. The first `skip` characters belong to a reference already read. -/
def parse (skip : Nat) : (template : List Char) → List TemplatePart
  | [] => []
  | c :: rest =>
      match skip with
      | skip + 1 => parse skip rest
      | 0 =>
          if c != '$' then .char c :: parse 0 rest
          else
            match rest with
            | '$' :: _ => .char '$' :: parse 1 rest
            | '{' :: inner =>
                let text := inner.takeWhile (· != '}')
                if text.length < inner.length then .ofName text :: parse (text.length + 2) rest
                else .char '$' :: parse 0 rest
            | _ =>
                let text := rest.takeWhile isNameChar
                if text.isEmpty then .char '$' :: parse 0 rest
                else .ofName text :: parse text.length rest

/-- The text of a part for a match. Groups that do not exist or took no part in the match
give nothing. -/
def expand (names : List (String × Nat)) (m : Match) : TemplatePart → List Char
  | .char c => [c]
  | .number n => (m.group? n).getD []
  | .name text => (((names.lookup (String.ofList text)).bind m.group?).getD [])

end TemplatePart

end Emend.Regex
