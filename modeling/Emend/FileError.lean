/-! # Errors of file operations -/

namespace Emend

/-- Why a file operation fails. -/
inductive FileError where
  /-- There is no such file, or no directory on the way to it. -/
  | notFound
  /-- The path is that of a directory. -/
  | isDirectory
  /-- A file stands where the path has a directory. -/
  | notDirectory
  /-- A name of the path has too many bytes, or the whole path. -/
  | nameTooLong
  /-- The path has a NUL in it. -/
  | nulInPath
  /-- The file may not be written. -/
  | permissionDenied
  /-- The bytes of the file are not UTF-8. -/
  | notText
  /-- Only regular files can be copied. -/
  | notRegular
  /-- Any other cause, in words. -/
  | other (text : String)
  deriving Repr, DecidableEq

def FileError.message : FileError → String
  | .notFound => "No such file or directory (os error 2)"
  | .isDirectory => "Is a directory (os error 21)"
  | .notDirectory => "Not a directory (os error 20)"
  | .nameTooLong => "File name too long (os error 36)"
  | .nulInPath => "file name contained an unexpected NUL byte"
  | .permissionDenied => "Permission denied (os error 13)"
  | .notText => "stream did not contain valid UTF-8"
  | .notRegular => "the source path is neither a regular file nor a symlink to a regular file"
  | .other text => text

end Emend
