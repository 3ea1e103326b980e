import Emend.FileError

/-! # Files

What a program does with files: it reads, writes and copies them whole. Everything above
this module works with any files of this kind.
-/

namespace Emend

/-- Operations on whole files. Each of them succeeds or changes nothing. -/
class Files (m : Type → Type) where
  /-- The bytes of a file. -/
  read : (path : String) → m (Except FileError ByteArray)
  /-- Puts bytes in the place of a file, which is made if there is none. -/
  write : (path : String) → (bytes : ByteArray) → m (Except FileError Unit)
  /-- Puts the bytes of a file in the place of another. -/
  copy : (source destination : String) → m (Except FileError Unit)

namespace Files

variable {m : Type → Type} [Monad m] [Files m]

def decode (bytes : ByteArray) : Except FileError String :=
  match String.fromUTF8? bytes with
  | some text => .ok text
  | none => .error .notText

def readText (path : String) : m (Except FileError String) := do
  return (← read path).bind decode

def writeText (path text : String) : m (Except FileError Unit) :=
  write path text.toUTF8

end Files

end Emend
