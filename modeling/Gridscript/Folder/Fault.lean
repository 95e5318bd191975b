/-
  Why a file could not be read or written, with the system's wording.
-/

namespace Gridscript

/-- Why an operation on a file failed. -/
inductive FileFault where
  | notFound
  | notDirectory
  | isDirectory
  | nameTooLong
  /-- The path holds the character that ends paths in system calls. -/
  | nulInPath
  /-- The bytes were read but are no UTF-8 text. -/
  | notText
  /-- A source of bytes other than a file failed for a reason of its own. -/
  | reported (reason : String)
deriving DecidableEq

namespace FileFault

def message : FileFault → String
  | notFound => "No such file or directory (os error 2)"
  | notDirectory => "Not a directory (os error 20)"
  | isDirectory => "Is a directory (os error 21)"
  | nameTooLong => "File name too long (os error 36)"
  | nulInPath => "file name contained an unexpected NUL byte"
  | notText => "stream did not contain valid UTF-8"
  | reported reason => reason

end FileFault

end Gridscript
