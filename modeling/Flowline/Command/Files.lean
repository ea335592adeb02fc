import Flowline.Entries

/-!
What a command reads: files by path, and directories that are held in memory.
-/

namespace Flowline.Command

inductive FileError where
  | notFound
  | notDirectory
  | isDirectory
  | nameTooLong
  | nulInName
  | notText
  | other (text : String)
deriving DecidableEq

def FileError.message : FileError → String
  | .notFound => "No such file or directory (os error 2)"
  | .notDirectory => "Not a directory (os error 20)"
  | .isDirectory => "Is a directory (os error 21)"
  | .nameTooLong => "File name too long (os error 36)"
  | .nulInName => "file name contained an unexpected NUL byte"
  | .notText => "stream did not contain valid UTF-8"
  | .other text => text

abbrev Files := String → Except FileError String

abbrev Directory := Entries String

namespace Directory

def pathText (parts : List String) : String := "/".intercalate parts

def isFile (directory : Directory) (parts : List String) : Bool :=
  Entries.has directory (pathText parts)

def isFolder (directory : Directory) (parts : List String) : Bool :=
  parts.isEmpty || (Entries.keys directory).any fun name => name.startsWith (pathText parts ++ "/")

/-- Follows the parts of a path from `place`; nothing outside of the directory is found. -/
def follow (directory : Directory) (place : List String) :
    List String → Except FileError (List String)
  | [] => .ok place
  | part :: rest =>
    if directory.isFile place then .error .notDirectory
    else if part = "" ∨ part = "." then follow directory place rest
    else if 255 < part.utf8ByteSize then .error .nameTooLong
    else if part = ".." then
      if place.isEmpty then .error .notFound else follow directory place.dropLast rest
    else
      let next := place ++ [part]
      if directory.isFile next || directory.isFolder next then follow directory next rest
      else .error .notFound

def read (directory : Directory) : Files := fun path =>
  if path.toList.contains '\x00' then .error .nulInName
  else if path.startsWith "/" then .error .notFound
  else
    match directory.follow [] (path.splitOn "/") with
    | .error error => .error error
    | .ok place =>
      match Entries.get? directory (pathText place) with
      | some text => .ok text
      | none => .error .isDirectory

end Directory

end Flowline.Command
