import DataQuality.Source.Address
import DataQuality.Text.Glob

/-!
# Locations of tables

The path of a file that is opened as a table is more than a path. With a scheme in front of it it
is an address, and with one of the characters `?`, `*` and `[` in it a pattern, for which the files
of the folder are searched. `DataQuality.Source.locate` says where a path leads: to the file of
that very name, to nothing, or nowhere, since it cannot be read as a location.

Paths are relative to the folder of the files. An address of the scheme `file` counts from the root
instead, where none of them is, so that it leads to nothing; no other scheme is served.
-/

namespace DataQuality.Source

/-! ### Parts of a path -/

/-- The names in a path. -/
def namesOf (path : List Char) : List (List Char) := Text.pieces '/' path

/-- The characters of the last name in a path, behind its last slash. -/
def lastName (path : List Char) : List Char := (namesOf path).getLast?.getD []

/-- The name of the file that a path ends with; slashes behind it, and dots for the folder itself,
do not count. -/
def fileName (path : List Char) : List Char :=
  ((namesOf path).reverse.dropWhile fun name => name.isEmpty || name = ['.']).headD []

/-- The **extension** of a path with its dot: what follows the last dot of its file name, unless
that name begins with this dot. -/
def extension (path : List Char) : List Char :=
  let name := fileName path
  if name = ['.', '.'] then []
  else
    match Text.cutAt? '.' name.reverse with
    | some (ending, _ :: _) => '.' :: ending.reverse
    | _ => []

/-- A character that does not stand for itself in the address of a file of that name. -/
def isEncoded (c : Char) : Bool := isSpecialInPath c || 127 ≤ c.toNat || c = '%' || c = '\\'

/-- The number of bytes that a name may have. -/
def nameLimit : Nat := 255

/-- Whether a name can be that of a file: it controls nothing, and is not too long. -/
def isName (name : List Char) : Bool :=
  !name.any isControl && (String.ofList name).utf8ByteSize ≤ nameLimit

/-- Whether a path is that of a folder, by its end. -/
def isFolderPath (path : List Char) : Bool :=
  let name := lastName path
  name.isEmpty || name = ['.'] || name = ['.', '.']

/-- Whether a path leads to the root. -/
def isRootPath (path : List Char) : Bool :=
  path.head? = some '/' && (namesOf path).all fun name => name.isEmpty || name = ['.']

/-- Whether a name is that of a file which is still being written: it ends with a number sign and
digits. Such a file cannot be opened by its name, and a search passes over it. -/
def isUnfinished (name : List Char) : Bool :=
  match Text.cutAt? '#' name with
  | some (_, number) => !number.isEmpty && number.all Char.isDigit
  | none => false

/-- Whether a name ends like that of a drive, behind something else. Such a name is taken for a
folder, and a file of that name cannot be read. -/
def endsInDrive (name : List Char) : Bool :=
  isDrive (name.drop (name.length - 2))

/-! ### Locations -/

/-- Where a path **leads**. -/
inductive Location where
  /-- It cannot be read as a location. -/
  | refused
  /-- There is no such file. -/
  | nothing
  /-- To the file of that name. -/
  | file
  deriving DecidableEq

/-! ### Addresses -/

/-- The scheme in front of an address and what follows it: a letter, any letters, digits and the
signs plus, minus and dot, and then a colon. Blank characters around the address do not count, nor
do tabs and line ends anywhere. -/
def scheme? (path : List Char) : Option (List Char × List Char) :=
  let cs := (((path.dropWhile isTrimmed).reverse.dropWhile isTrimmed).reverse).filter
    fun c => !(c = '\t' || c = '\n' || c = '\r')
  match Text.cutAt? ':' cs with
  | some (c :: name, rest) =>
    if c.isAlpha && name.all fun c => c.isAlphanum || c = '+' || c = '-' || c = '.' then
      some ((c :: name).map Char.toLower, rest)
    else none
  | _ => none

/-- Where an address of the scheme `file` leads, given what follows the scheme and the extension
that it has as a path. The address has to end with that extension, unless it is that of a folder;
the root cannot be searched. -/
def locateAddress (ending rest : List Char) : Location :=
  match FileAddress.parse? rest with
  | none => .refused
  | some a =>
    if !a.isFolder && !ending.isSuffixOf a.chars then .refused
    else
      match a.names? with
      | none => .refused
      | some [] => .refused
      | some (name :: names) =>
        if !(name :: names).all isName then .refused
        else if !a.isFolder && isUnfinished (names.getLast?.getD name) then .refused
        else .nothing

/-! ### Patterns -/

/-- A path parted in two, before the name in which the first special character stands: a folder,
and a pattern. -/
def splitPattern (path : List Char) : List Char × List Char :=
  let ahead := path.takeWhile fun c => !Text.Glob.isSpecial c
  path.splitAt (ahead.length - (lastName ahead).length)

/-- Whether a pattern finds the file of its own name. It is matched against the first of the names
in its path that has no equals sign in it. -/
def findsItself (pattern : List Char) (glob : Text.Glob) : Bool :=
  match (namesOf pattern).filter fun name => !name.contains '=' with
  | [] => false
  | name :: _ => glob.holds name

/-- Where a path with a special character in it leads, given the size of the file of that name, if
there is one. A file is opened only if it holds something. -/
def locatePattern (path : List Char) (size? : Option Nat) : Location :=
  let (folder, pattern) := splitPattern path
  match Text.Glob.parse? pattern with
  | none => .refused
  | some glob =>
    if !(namesOf folder).all isName || isRootPath folder then .refused
    else
      match size? with
      | none => .nothing
      | some size =>
        if !(namesOf pattern).all isName then .refused
        else if isUnfinished (lastName path) || !findsItself pattern glob then .nothing
        else if endsInDrive (lastName path) && size ≠ 0 then .refused
        else .file

/-! ### Files -/

/-- Where a path without special characters leads, given whether there is a file of that name. Its
extension has to be that of its address, unless it is that of a folder. -/
def locateFile (path : List Char) (present : Bool) : Location :=
  if !(namesOf path).all isName || isRootPath path then .refused
  else if isFolderPath path then .nothing
  else if (extension path).any isEncoded || isUnfinished (lastName path) then .refused
  else if !present then .nothing
  else if endsInDrive (lastName path) then .refused
  else .file

/-- Where a path **leads**, given the size of the file of that name, if there is one. -/
def locate (path : List Char) (size? : Option Nat) : Location :=
  match scheme? path with
  | some (scheme, rest) =>
    if scheme = "file".toList then locateAddress (extension path) rest else .refused
  | none =>
    if path.any Text.Glob.isSpecial then locatePattern path size?
    else locateFile path size?.isSome

end DataQuality.Source
