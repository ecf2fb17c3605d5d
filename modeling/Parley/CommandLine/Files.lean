import Parley.Text.Words

/-!
# Files

A run of the program sees files only as texts that paths lead to, or as the reason why a path
leads to none. A directory holds its files by name. A path is followed part by part, from the
directory or, if it begins with a slash, from the root above it; the first part that does not lead
on decides the reason. Of what lies outside the directory only the places that every system has
are known.
-/
namespace Parley.CommandLine

/-- Why a file cannot be read. -/
inductive Unreadable where
  | missing
  | notDirectory
  | isDirectory
  | nameTooLong
  /-- The file holds something else than text. -/
  | notText
  | other (reason : String)
  deriving DecidableEq

namespace Unreadable

def message : Unreadable → String
  | missing => "No such file or directory (os error 2)"
  | notDirectory => "Not a directory (os error 20)"
  | isDirectory => "Is a directory (os error 21)"
  | nameTooLong => "File name too long (os error 36)"
  | notText => "stream did not contain valid UTF-8"
  | other reason => reason

end Unreadable

/-- What reading a path yields. -/
abbrev Reading := String → Except Unreadable String

/-- Files by their names. Of two with one name the last counts. -/
abbrev Directory := List (String × String)

/-- What a path has led to. A directory is given by the names that lead to it from the root. -/
inductive Place where
  | file (text : String)
  | directory (names : List String)
  deriving DecidableEq

namespace Directory

/-- What stands between the slashes of a path. -/
def parts (path : String) : List String :=
  (Text.pieces (· == '/') path.toList).map String.ofList

/-- Whether a part of a path stays where it is. -/
def stays (part : String) : Bool := part == "" || part == "."

/-- Where a directory lies: two steps below the root, under a name that nothing else bears. -/
def location : List String := ["tmp", "parley"]

/-- The directories that are there whatever they hold. -/
def standing : List (List String) :=
  [location, ["bin"], ["dev"], ["etc"], ["home"], ["lib"], ["proc"], ["sys"], ["usr"], ["var"]]

/-- The known files, from the root: those of a directory, the last one first, and the null device,
which reads as an empty file. -/
def known (directory : Directory) : List (List String × String) :=
  directory.reverse.map (fun file => (location ++ (parts file.1).filter (!stays ·), file.2)) ++
    [(["dev", "null"], "")]

/-- What stands under names that lead down from the root. Directories are the standing ones, and
those on the way to them or to a file. -/
def place (directory : Directory) (names : List String) : Except Unreadable Place :=
  match directory.known.find? (·.1 == names) with
  | some file => .ok (.file file.2)
  | none =>
    if (standing ++ directory.known.map (·.1)).any names.isPrefixOf then .ok (.directory names)
    else .error .missing

/-- Goes one part of a path further. No part leads on from a file, not even one that stays, and two
dots at the root stay there. -/
def follow (directory : Directory) : Place → String → Except Unreadable Place
  | .file _, _ => .error .notDirectory
  | .directory names, part =>
    if stays part then .ok (.directory names)
    else if part = ".." then .ok (.directory names.dropLast)
    else if 255 < part.utf8ByteSize then .error .nameTooLong
    else directory.place (names ++ [part])

/-- Where a path begins. -/
def start (path : String) : Place :=
  .directory (if (parts path).head? = some "" then [] else location)

/-- Reads a file of a directory. An empty path leads nowhere. -/
def read (directory : Directory) : Reading := fun path =>
  if path = "" then .error .missing
  else if 4095 < path.utf8ByteSize then .error .nameTooLong
  else
    match (parts path).foldlM directory.follow (start path) with
    | .ok (.file text) => .ok text
    | .ok (.directory _) => .error .isDirectory
    | .error reason => .error reason

end Directory
end Parley.CommandLine
