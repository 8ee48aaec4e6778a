/-!
Contract: why a file or directory cannot be used.

Owns: `FileError` and its wording.
-/

namespace ForwardingProxy

/-- A failed operation on a file or directory. -/
inductive FileError where
  | notFound
  | notDirectory
  | isDirectory
  | alreadyExists
  | tooManyLinks
  | nameTooLong
  /-- The content is no valid text. -/
  | notText
  /-- The path holds a NUL character. -/
  | nulInPath
  | other (text : String)
deriving DecidableEq, Repr

/-- The error in words. -/
def FileError.message : FileError → String
  | .notFound => "No such file or directory (os error 2)"
  | .notDirectory => "Not a directory (os error 20)"
  | .isDirectory => "Is a directory (os error 21)"
  | .alreadyExists => "File exists (os error 17)"
  | .tooManyLinks => "Too many levels of symbolic links (os error 40)"
  | .nameTooLong => "File name too long (os error 36)"
  | .notText => "stream did not contain valid UTF-8"
  | .nulInPath => "file name contained an unexpected NUL byte"
  | .other text => text

end ForwardingProxy
