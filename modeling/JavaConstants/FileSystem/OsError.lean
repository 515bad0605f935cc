/-!
# Errors of file operations

Why the operating system refuses an operation, with the words and the number it reports.
-/

namespace JavaConstants

/-- Why a file operation is refused. -/
inductive OsError where
  /-- A name on the way does not exist. -/
  | notFound
  /-- The target is in use, as the root directory is. -/
  | busy
  /-- The name is taken. -/
  | alreadyExists
  /-- Something on the way is not a directory. -/
  | notDirectory
  /-- The target is a directory. -/
  | isDirectory
  /-- The path's form does not suit the operation. -/
  | invalidArgument
  /-- A name has more than 255 bytes. -/
  | nameTooLong
  /-- The directory is not empty. -/
  | notEmpty
  /-- Too many links were met on the way. -/
  | linkLoop
  /-- The path holds a NUL character. -/
  | nulCharacter
  deriving DecidableEq, Repr

/-- The report of an error. -/
def OsError.message : OsError → String
  | notFound => "No such file or directory (os error 2)"
  | busy => "Device or resource busy (os error 16)"
  | alreadyExists => "File exists (os error 17)"
  | notDirectory => "Not a directory (os error 20)"
  | isDirectory => "Is a directory (os error 21)"
  | invalidArgument => "Invalid argument (os error 22)"
  | nameTooLong => "File name too long (os error 36)"
  | notEmpty => "Directory not empty (os error 39)"
  | linkLoop => "Too many levels of symbolic links (os error 40)"
  | nulCharacter => "file name contained an unexpected NUL byte"

end JavaConstants
