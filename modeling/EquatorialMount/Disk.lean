import EquatorialMount.Outcome
import EquatorialMount.Text.Quoted

/-!
# Files and folders

A disk is a tree of folders with text files, looked at from one folder.  A path leads from that folder, or from the
root, to a file or a folder; a component `..` goes back up.  Text is read with every line break as the same character.
-/

namespace EquatorialMount

/-- A path, by its text. -/
structure Path where
  text : String
deriving Repr, DecidableEq

namespace Path

/-- The parts of a text between slashes. -/
def partsAtSlashes : List Char → List (List Char)
  | [] => [[]]
  | c :: rest =>
    if c = '/' then [] :: partsAtSlashes rest
    else
      match partsAtSlashes rest with
      | first :: others => (c :: first) :: others
      | [] => [[c]]

def parts (p : Path) : List String := (partsAtSlashes p.text.toList).map String.ofList

/-- The slashes that stand for the root at the start of a path: two are kept apart from one, more are not. -/
def root (p : Path) : String :=
  match p.text.toList with
  | '/' :: '/' :: '/' :: _ => "/"
  | '/' :: '/' :: _ => "//"
  | '/' :: _ => "/"
  | _ => ""

/-- The parts of a path that lead anywhere: empty ones and single points do not. -/
def components (p : Path) : List String := p.parts.filter fun part => part ≠ "" && part ≠ "."

/-- The path of some components from a root. -/
def ofComponents (root : String) (components : List String) : Path :=
  ⟨if root = "" && components.isEmpty then "." else root ++ "/".intercalate components⟩

/-- The path a text spells, in its shortest form. -/
def ofText (s : String) : Path := ofComponents (root ⟨s⟩) (components ⟨s⟩)

/-- The path without its last component. -/
def parent (p : Path) : Path := ofComponents p.root p.components.dropLast

/-- What is followed to get to the end of a path.  A slash at the end stands for the folder before it. -/
def steps (p : Path) : List String :=
  let walked := p.parts.filter (· ≠ "")
  (if p.root = "" then [] else ["/"]) ++ walked
    ++ (if p.parts.getLast? = some "" && !walked.isEmpty then ["."] else [])

end Path

/-- Why a file or a folder cannot be used as asked. -/
inductive FileError
  | notFound (path : Path)
  | isFolder (path : Path)
  | notAFolder (path : Path)
  | taken (path : Path)
  | tooLong (path : Path)
  /-- A path with a null character in it. -/
  | nullInPath
  /-- The file's bytes are no text. -/
  | undecodable
deriving Repr, DecidableEq

/-- What a path can lead to: a folder, or a file with its text if its bytes are one. -/
inductive DiskEntry
  | folder
  | file (text : Option String)
deriving Repr, DecidableEq

/-- The entries of a disk by the components of their paths.  The folders that every disk has are not among them: the one
it is looked at from, those above it, and the root. -/
structure Disk where
  entries : List (List String × DiskEntry)
deriving Repr, DecidableEq

namespace Disk

def empty : Disk := ⟨[]⟩

/-- What a path leads to. -/
inductive Found
  | folder (place : List String)
  | file (place : List String) (text : Option String)
  /-- Nothing, in a folder that is there. -/
  | absent (place : List String)
  /-- Nothing, since a folder on the way is missing. -/
  | astray
  /-- Nothing, since something on the way is a file. -/
  | blocked
  /-- Nothing, since a name on the way or the whole path is longer than any can be. -/
  | tooLong
  /-- Nothing, since no path has a null character. -/
  | nullInPath
deriving Repr, DecidableEq

/-- The greatest number of bytes in a name. -/
def nameLimit : Nat := 255

/-- The greatest number of bytes in a path. -/
def pathLimit : Nat := 4095

/-- Whether a place is one of the folders that every disk has. -/
def isGiven (place : List String) : Bool := place = ["/"] || place.all (· = "..")

def entryAt? (d : Disk) (place : List String) : Option DiskEntry :=
  if isGiven place then some .folder else d.entries.lookup place

/-- The folder a folder lies in; the root lies in itself. -/
def above (place : List String) : List String :=
  if place = ["/"] then place else if isGiven place then place ++ [".."] else place.dropLast

/-- Follows steps from a folder. -/
def follow (d : Disk) : List String → List String → Found
  | place, [] => .folder place
  | place, c :: rest =>
    if c = "/" then follow d ["/"] rest
    else if c = "." then follow d place rest
    else if c = ".." then follow d (above place) rest
    else if nameLimit < c.utf8ByteSize then .tooLong
    else
      match d.entryAt? (place ++ [c]) with
      | some .folder => follow d (place ++ [c]) rest
      | some (.file text) => if rest.isEmpty then .file (place ++ [c]) text else .blocked
      | none => if rest.isEmpty then .absent (place ++ [c]) else .astray

def find (d : Disk) (p : Path) : Found :=
  if p.text.toList.contains '\x00' then .nullInPath
  else if pathLimit < p.text.utf8ByteSize then .tooLong
  else if p.text = "" then .astray
  else d.follow [] p.steps

/-- Whether a path leads to a file or a folder. -/
def doesExist (d : Disk) (p : Path) : Except FileError Bool :=
  match d.find p with
  | .folder _ => .ok true
  | .file .. => .ok true
  | .tooLong => .error (.tooLong p)
  | _ => .ok false

/-- A text with each line break as a line feed. -/
def unifyBreaks : List Char → List Char
  | '\r' :: '\n' :: rest => '\n' :: unifyBreaks rest
  | '\r' :: rest => '\n' :: unifyBreaks rest
  | c :: rest => c :: unifyBreaks rest
  | [] => []

/-- The text of the file at a path. -/
def read (d : Disk) (p : Path) : Except FileError String :=
  match d.find p with
  | .file _ (some text) => .ok (String.ofList (unifyBreaks text.toList))
  | .file _ none => .error .undecodable
  | .folder _ => .error (.isFolder p)
  | .absent _ => .error (.notFound p)
  | .astray => .error (.notFound p)
  | .blocked => .error (.notAFolder p)
  | .tooLong => .error (.tooLong p)
  | .nullInPath => .error .nullInPath

def setEntry (d : Disk) (place : List String) (entry : DiskEntry) : Disk :=
  ⟨(place, entry) :: d.entries.filter (·.1 ≠ place)⟩

/-- Makes the folder at a path, unless it is there, in a folder that is. -/
def makeFolder (p : Path) (d : Disk) : Outcome FileError Disk Unit :=
  match d.find p with
  | .folder _ => (.ok (), d)
  | .absent place => (.ok (), d.setEntry place .folder)
  | .file .. => (.error (.taken p), d)
  | .astray => (.error (.notFound p), d)
  | .blocked => (.error (.notAFolder p), d)
  | .tooLong => (.error (.tooLong p), d)
  | .nullInPath => (.error .nullInPath, d)

/-- Makes a folder and those it lies in, as far as they are missing; `fuel` bounds their number. -/
def makeFolders : Nat → Path → Disk → Outcome FileError Disk Unit
  | 0, p, d => makeFolder p d
  | fuel + 1, p, d =>
    match makeFolder p d with
    | (.error (.notFound _), d) =>
      match makeFolders fuel p.parent d with
      | (.ok (), d) => makeFolder p d
      | failed => failed
    | made => made

/-- Writes a text to the file at a path in a folder that is there. -/
def write (p : Path) (text : String) (d : Disk) : Outcome FileError Disk Unit :=
  match d.find p with
  | .file place _ => (.ok (), d.setEntry place (.file (some text)))
  | .absent place => (.ok (), d.setEntry place (.file (some text)))
  | .folder _ => (.error (.isFolder p), d)
  | .astray => (.error (.notFound p), d)
  | .blocked => (.error (.notAFolder p), d)
  | .tooLong => (.error (.tooLong p), d)
  | .nullInPath => (.error .nullInPath, d)

/-- Writes a text to the file at a path, whose folders are made if they are missing. -/
def save (p : Path) (text : String) (d : Disk) : Outcome FileError Disk Unit :=
  match makeFolders p.components.length p.parent d with
  | (.ok (), d) => d.write p text
  | failed => failed

/-- Puts a file or a folder on the disk with the folders it lies in, unless there is a folder at its path. -/
def place (d : Disk) (p : Path) (entry : DiskEntry) : Disk :=
  match makeFolders p.components.length p.parent d with
  | (.ok (), d) =>
    match d.find p with
    | .file place _ => d.setEntry place entry
    | .absent place => d.setEntry place entry
    | _ => d
  | (.error _, _) => d

/-- The text of the file at a path, if there is such a file, with its line breaks as they are. -/
def rawText? (d : Disk) (p : Path) : Option String :=
  match d.find p with
  | .file _ text => text
  | _ => none

end Disk

end EquatorialMount
