import ShiftReduce.Text.Measure

/-!
# Files

Commands read files by their paths. What they read from is a function, so that it may be a real
directory or one that is held in memory.

## Main definitions

* `ReadFailure` — why a file cannot be read
* `FileSource` — the files that are there to be read
* `FileSource.ofDirectory` — a directory held in memory
* `FileSource.ofReadings` — files that were read before
-/

namespace ShiftReduce

/-- Why a file cannot be read. -/
inductive ReadFailure
  | notFound
  | notDirectory
  | isDirectory
  | nameTooLong
  | notText
  /-- Any other reason, in words. -/
  | other (message : String)
deriving DecidableEq, Repr

/-- The failure in words. -/
def ReadFailure.message : ReadFailure → String
  | .notFound => "No such file or directory (os error 2)"
  | .notDirectory => "Not a directory (os error 20)"
  | .isDirectory => "Is a directory (os error 21)"
  | .nameTooLong => "File name too long (os error 36)"
  | .notText => "stream did not contain valid UTF-8"
  | .other message => message

/-- The files that are there to be read, by path. -/
abbrev FileSource := String → Except ReadFailure String

namespace FileSource

/-- The pieces of a path. -/
def pieces (path : String) : List String :=
  (path.toList.splitBy fun left right => left != '/' && right != '/').map String.ofList
    |>.filter (· ≠ "/")

/-- A place in a directory tree: above the directory itself, or below it. -/
inductive Place
  | above (levels : Nat)
  | below (pieces : List String)
deriving DecidableEq, Repr

/-- What is at a place. -/
inductive Entry
  | file (content : String)
  | directory
  | missing
deriving DecidableEq, Repr

/-- What is at a place of the directory that holds some files. -/
def entryAt (files : List (List String × String)) : Place → Entry
  | .above _ => .directory
  | .below pieces =>
    match files.lookup pieces with
    | some content => .file content
    | none =>
      if pieces.isEmpty || files.any fun file => pieces.isPrefixOf file.1 then .directory
      else .missing

/-- Follows the pieces of a path from a place. Only directories can be left for what is below them
or above them. -/
def follow (files : List (List String × String)) (place : Place) :
    List String → Except ReadFailure String
  | [] =>
    match entryAt files place with
    | .file content => .ok content
    | .directory => .error .isDirectory
    | .missing => .error .notFound
  | piece :: rest =>
    match entryAt files place with
    | .file _ => .error .notDirectory
    | .missing => .error .notFound
    | .directory =>
      if piece = "." then follow files place rest
      else if Text.byteLength piece.toList > 255 then .error .nameTooLong
      else match place with
        | .above levels =>
          if piece = ".." then follow files (.above (levels + 1)) rest else .error .notFound
        | .below pieces =>
          if piece = ".." then
            follow files (if pieces.isEmpty then .above 1 else .below pieces.dropLast) rest
          else follow files (.below (pieces ++ [piece])) rest

/-- The directory that holds files of given paths. Outside of it there are no files. -/
def ofDirectory (files : List (String × String)) : FileSource := fun path =>
  let chars := path.toList
  let ending := if chars.getLast? = some '/' then ["."] else []
  if path = "" then .error .notFound
  else if chars.head? = some '/' then
    if (pieces path).all fun piece => piece = "." || piece = ".." then .error .isDirectory
    else .error .notFound
  else follow (files.map fun (name, content) => (pieces name, content)) (.below [])
    (pieces path ++ ending)

/-- The files that were read, or could not be read, before. There are no others. -/
def ofReadings (readings : List (String × Except ReadFailure String)) : FileSource := fun path =>
  (readings.lookup path).getD (.error .notFound)

end FileSource

end ShiftReduce
