import FunctionHost.Bytes
/-!
# Files

What reading a path gives, and paths as texts.  A path begins in the folder that the program works
in, unless it begins with a slash; blank parts and single dots change nothing, two dots lead out of
a folder.
-/
namespace FunctionHost

/-- Why a file cannot be read. -/
inductive ReadFault where
  /-- There is nothing under the path. -/
  | missing
  /-- The file must not be read. -/
  | denied
  /-- A file is taken for a folder. -/
  | notFolder
  /-- A folder is taken for a file. -/
  | isFolder
  /-- A part of the path is longer than any name. -/
  | nameTooLong
  /-- The path has a character that paths do not have. -/
  | notPath
  /-- The file does not hold text. -/
  | notText
  /-- The system has another reason. -/
  | other (reason : String)
  deriving DecidableEq, Repr, Inhabited

/-- The wording of the fault. -/
def ReadFault.message : ReadFault → String
  | .missing => "No such file or directory (os error 2)"
  | .denied => "Permission denied (os error 13)"
  | .notFolder => "Not a directory (os error 20)"
  | .isFolder => "Is a directory (os error 21)"
  | .nameTooLong => "File name too long (os error 36)"
  | .notPath => "file name contained an unexpected NUL byte"
  | .notText => "stream did not contain valid UTF-8"
  | .other reason => reason

/-- **What reading a path gives.** -/
abbrev Files := String → Except ReadFault Bytes

/-- There are no files. -/
def Files.none : Files := fun _ => .error .missing

/-! ## Paths as texts -/

namespace FilePath

/-- The parts of a path. -/
def parts (path : String) : List String := path.splitOn "/"

/-- Whether a part of a path leads nowhere. -/
def isIdle (part : String) : Bool := part = "" || part = "."

/-- The parts of a path that lead somewhere. -/
def steps (path : String) : List String := (parts path).filter (!isIdle ·)

/-- **The extension** of a path's last part: what follows its last dot, unless that is where the
part begins. -/
def extension? (path : String) : Option String :=
  match (steps path).getLast? with
  | none => none
  | some name =>
    if name = ".." then none
    else
      match (name.splitOn ".").reverse with
      | last :: before :: more => if more.isEmpty && before.isEmpty then none else some last
      | _ => none

/-- A path as seen from a folder; one that begins with a slash stands for itself. -/
def join (folder path : String) : String :=
  if path.startsWith "/" || folder.isEmpty then path
  else if folder.endsWith "/" then folder ++ path
  else folder ++ "/" ++ path

/-- Parts without the last one that leads somewhere. -/
def dropStep (parts : List String) : List String :=
  (((parts.reverse.dropWhile isIdle).drop 1).dropWhile isIdle).reverse

/-- **The folder that a path leads into**: the path without its last part.  What a path begins with,
a slash or a single dot, stays. -/
def parent (path : String) : String :=
  match parts path with
  | "" :: rest => if path = "" then "" else "/" ++ "/".intercalate (dropStep rest)
  | "." :: rest => "/".intercalate ("." :: dropStep rest)
  | parts => "/".intercalate (dropStep parts)

end FilePath
end FunctionHost
