import PacketLink.Files.Path
import PacketLink.Files.Store

namespace PacketLink

/-! Files and folders as a value, and the store over them.

A path is followed piece by piece between its slashes: only folders can be entered, a blank piece and
`.` stay where they are, and `..` goes back. Names and the text of a path are limited in length. -/

namespace FileTree

inductive Entry where
  | folder
  | file (content : ByteArray)

/-- A place by the names that lead to it from the root, with a slash ahead of each. -/
abbrev Place := String

namespace Place

def root : Place := ""

def child (place : Place) (name : String) : Place := place ++ "/" ++ name

/-- The folder that a place is in; the root is in itself. -/
def parent (place : Place) : Place :=
  String.ofList ((place.toList.reverse.dropWhile (· ≠ '/')).drop 1).reverse

end Place

inductive Found where
  | folder (place : Place)
  | file (place : Place) (content : ByteArray)
  /-- Nothing yet, in a folder that is there. -/
  | free (place : Place)

end FileTree

structure FileTree where
  entries : List (FileTree.Place × FileTree.Entry)
  /-- The folder in which relative paths begin. -/
  working : FileTree.Place := .root

namespace FileTree

/-- The last entry of a place counts; the root is always there. -/
def get? (tree : FileTree) (place : Place) : Option Entry :=
  if place = .root then some .folder
  else (tree.entries.find? fun entry => entry.1 = place).map (·.2)

def put (tree : FileTree) (place : Place) (entry : Entry) : FileTree :=
  { tree with entries := (place, entry) :: tree.entries }

def start (tree : FileTree) (path : String) : Place :=
  if path.startsWith "/" then .root else tree.working

/-- Follows the pieces of a path from a folder. A name that is too long is found out when its turn
comes. -/
def follow (tree : FileTree) : Place → List String → Except FileError Found
  | here, [] => .ok (.folder here)
  | here, piece :: rest =>
      if Path.staysHere piece then tree.follow here rest
      else if piece = ".." then tree.follow here.parent rest
      else if piece.utf8ByteSize > Path.longestName then .error .nameTooLong
      else match tree.get? (here.child piece), rest with
        | some .folder, _ => tree.follow (here.child piece) rest
        | some (.file content), [] => .ok (.file (here.child piece) content)
        | some (.file _), _ :: _ => .error .notFolder
        | none, [] => .ok (.free (here.child piece))
        | none, _ :: _ => .error .missing

/-- What stands at the end of a path. The empty path leads nowhere. -/
def find (tree : FileTree) (path : String) : Except FileError Found :=
  if path.isEmpty then .error .missing
  else if path.utf8ByteSize > Path.longest then .error .nameTooLong
  else tree.follow (tree.start path) (Path.pieces path)

/-- Enters folders one after the other and makes those that are missing. What was made before a
failure stays. From the first folder that was made on, each is made by itself, and then a file in its
place is said to be there already. -/
def enterAll (tree : FileTree) (made : Bool) (here : Place) :
    List String → Except FileError Unit × FileTree
  | [] => (.ok (), tree)
  | piece :: rest =>
      if Path.staysHere piece then tree.enterAll made here rest
      else if piece = ".." then tree.enterAll made here.parent rest
      else if piece.utf8ByteSize > Path.longestName then (.error .nameTooLong, tree)
      else match tree.get? (here.child piece) with
        | some .folder => tree.enterAll made (here.child piece) rest
        | some (.file _) =>
            (.error (if made || rest.isEmpty then .exists else .notFolder), tree)
        | none => (tree.put (here.child piece) .folder).enterAll true (here.child piece) rest

/-- The content of a file. A path that cannot be followed leads to nothing. -/
def load (tree : FileTree) (path : String) : Except FileError (Option ByteArray) :=
  match tree.find path with
  | .error _ | .ok (.free _) => .ok none
  | .ok (.folder _) => .error .isFolder
  | .ok (.file _ content) => .ok (some content)

def makeFolders (tree : FileTree) (path : String) : Except FileError Unit × FileTree :=
  let folder := Path.folder path
  if (Path.ofPieces folder).utf8ByteSize > Path.longest then (.error .nameTooLong, tree)
  else tree.enterAll false (tree.start path) folder

/-- Replaces or makes a file. With a slash at its end a path can only be a folder, whatever its last
name is, so nothing but the way to that name is followed. -/
def write (tree : FileTree) (path : String) (content : ByteArray) :
    Except FileError Unit × FileTree :=
  if path.endsWith "/" then
    if path.utf8ByteSize > Path.longest then (.error .nameTooLong, tree)
    else match tree.follow (tree.start path) (Path.way path ++ ["."]) with
      | .error reason => (.error reason, tree)
      | .ok _ => (.error .isFolder, tree)
  else match tree.find path with
    | .error reason => (.error reason, tree)
    | .ok (.folder _) => (.error .isFolder, tree)
    | .ok (.file place _) | .ok (.free place) => (.ok (), tree.put place (.file content))

def store : FileStore (StateM FileTree) where
  load path tree := (tree.load path, tree)
  makeFolders path tree := tree.makeFolders path
  write path content tree := tree.write path content

end FileTree

end PacketLink
