/-!
# File faults

Why a file step or a look at a path fails, with the wording of the operating system and its number.
-/

namespace Campus

/-- Why a file cannot be read or changed. -/
inductive FileFault
  | notFound
  /-- The device failed. -/
  | device
  /-- A file stands where a folder is to be made. -/
  | alreadyThere
  /-- A file is used as a folder. -/
  | notFolder
  /-- A folder is used as a file. -/
  | isFolder
  | nameTooLong
  /-- The content is not UTF-8. -/
  | notText
  /-- A path has the character that no path can have. -/
  | zeroInPath
deriving DecidableEq

namespace FileFault

/-- The message of a fault. -/
def message : FileFault → String
  | notFound => "No such file or directory (os error 2)"
  | device => "Input/output error (os error 5)"
  | alreadyThere => "File exists (os error 17)"
  | notFolder => "Not a directory (os error 20)"
  | isFolder => "Is a directory (os error 21)"
  | nameTooLong => "File name too long (os error 36)"
  | notText => "stream did not contain valid UTF-8"
  | zeroInPath => "file name contained an unexpected NUL byte"

end FileFault
end Campus
