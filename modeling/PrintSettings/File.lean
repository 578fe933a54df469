import PrintSettings.Error
import PrintSettings.Text.Split

/-! # Files

Reading a file gives its bytes or the reason why there are none; a text file must be UTF-8. A
directory held in memory (`Directory`) answers the same way as one on disk for the names in it. -/

namespace PrintSettings

open PrintSettings.Text

/-- What reading a file gives. -/
abbrev Contents := Except ReadFault ByteArray

/-- The text of a file. -/
def Contents.text (file : Contents) : Except SettingError String :=
  match file with
  | .error fault => .error (.unreadable fault)
  | .ok bytes =>
    match String.fromUTF8? bytes with
    | some text => .ok text
    | none => .error (.unreadable .notUtf8)

/-! ## Directories -/

/-- Files by their names, with no directories below. -/
structure Directory where
  files : List (String × ByteArray)

namespace Directory

/-- The names on a path, and whether the last one must be a directory. -/
def steps (path : String) : List String × Bool :=
  let parts := (splitAll '/' path.toList).map String.ofList
  (parts.filter fun name => name ≠ "" ∧ name ≠ ".",
    parts.getLast?.any fun name => name = "" ∨ name = ".")

/-- How many bytes a path may have. -/
def maxPathSize : Nat := 4095

/-- How many bytes a name may have. -/
def maxNameSize : Nat := 255

/-- What following names gives where `found` says what the first one stands for. -/
def follow (found : String → Contents) (names : List String) (endsInDirectory : Bool) : Contents :=
  match names with
  | [] => .error .isDirectory
  | name :: rest =>
    if maxNameSize < name.utf8ByteSize then .error .nameTooLong
    else match found name with
      | .ok bytes => if rest.isEmpty && !endsInDirectory then .ok bytes else .error .notDirectory
      | .error .isDirectory => .error (if rest.isEmpty then .isDirectory else .notFound)
      | .error fault => .error fault

/-- The names at the root of a file system that are known to be there; all are directories. -/
def rootNames : List String :=
  ["bin", "dev", "etc", "home", "lib", "proc", "root", "sbin", "sys", "tmp", "usr", "var"]

/-- What an absolute path gives. Nothing but an empty null device is known below the root. -/
def readAbsolute (names : List String) (endsInDirectory : Bool) : Contents :=
  match names with
  | "dev" :: "null" :: rest => follow (fun _ => .ok .empty) ("null" :: rest) endsInDirectory
  | _ =>
    let found (name : String) : Contents :=
      .error (if rootNames.contains name then .isDirectory else .notFound)
    follow found names endsInDirectory

/-- What a relative path gives. Outside of the directory nothing but its parents is known. -/
def readRelative (d : Directory) (names : List String) (endsInDirectory : Bool) : Contents :=
  let found (name : String) : Contents :=
    match d.files.lookup name with
    | some bytes => .ok bytes
    | none => .error .notFound
  match names with
  | ".." :: _ => follow (fun _ => .error .notFound) (names.dropWhile (· = "..")) endsInDirectory
  | _ => follow found names endsInDirectory

/-- What reading a path gives. -/
def read (d : Directory) (path : String) : Contents :=
  let (names, endsInDirectory) := steps path
  if maxPathSize < path.utf8ByteSize then .error .nameTooLong
  else if path.startsWith "/" then readAbsolute (names.dropWhile (· = "..")) endsInDirectory
  else d.readRelative names endsInDirectory

end Directory

end PrintSettings
