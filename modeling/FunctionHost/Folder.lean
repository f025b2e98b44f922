import FunctionHost.Files
/-!
# Folders

Files and folders that are known in advance.  `read` follows a path through them.
-/
namespace FunctionHost

/-- **Files and folders.** -/
structure Folder where
  /-- Files, each with the folders that it is in and its name. -/
  files : List (List String × Bytes) := []
  /-- Folders that are there even if no file is in them. -/
  folders : List (List String) := []
  /-- The folder in which paths begin. -/
  here : List String := []
  deriving Inhabited

namespace Folder

/-- The folder with one more file. -/
def add (f : Folder) (path : String) (bytes : Bytes) : Folder :=
  { f with files := f.files ++ [(f.here ++ FilePath.steps path, bytes)] }

/-- The file under some parts; the one added last counts. -/
def file? (f : Folder) (at_ : List String) : Option Bytes :=
  (f.files.reverse.find? (·.1 == at_)).map (·.2)

/-- Whether some parts lead to a folder. -/
def isFolder (f : Folder) (at_ : List String) : Bool :=
  at_.isEmpty || (f.here :: f.folders).any at_.isPrefixOf
    || f.files.any fun entry => at_.isPrefixOf entry.1 && entry.1 != at_

/-- The greatest number of bytes of a name. -/
def longestName : Nat := 255

/-- Follows the parts of a path from a folder. -/
def follow (f : Folder) (at_ : List String) : List String → Except ReadFault Bytes
  | [] => .error .isFolder
  | part :: rest =>
    if FilePath.isIdle part then follow f at_ rest
    else if part = ".." then follow f at_.dropLast rest
    else if longestName < part.utf8ByteSize then .error .nameTooLong
    else
      let there := at_ ++ [part]
      if f.isFolder there then follow f there rest
      else
        match f.file? there with
        | none => .error .missing
        | some bytes => if rest.isEmpty then .ok bytes else .error .notFolder

/-- **The bytes of the file under a path.** -/
def read (f : Folder) : Files := fun path =>
  if path.any (· = '\x00') then .error .notPath
  else if path = "" then .error .missing
  else follow f (if path.startsWith "/" then [] else f.here) (FilePath.parts path)

end Folder
end FunctionHost
