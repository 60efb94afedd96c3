namespace PacketLink

/-! Where the host program keeps its settings: a store of files with paths. -/

inductive FileError where
  | isFolder
  | notFolder
  | exists
  | missing
  | nameTooLong
  | other (reason : String)
deriving DecidableEq

namespace FileError

def message : FileError → String
  | .isFolder => "Is a directory (os error 21)"
  | .notFolder => "Not a directory (os error 20)"
  | .exists => "File exists (os error 17)"
  | .missing => "No such file or directory (os error 2)"
  | .nameTooLong => "File name too long (os error 36)"
  | .other reason => reason

end FileError

/-- What the program asks of the files, whatever they are kept in. -/
structure FileStore (m : Type → Type) where
  /-- The content of a file, if there is something at the path. -/
  load : String → m (Except FileError (Option ByteArray))
  /-- Makes the folders on the way to a path. -/
  makeFolders : String → m (Except FileError Unit)
  /-- Replaces or makes a file. -/
  write : String → ByteArray → m (Except FileError Unit)

end PacketLink
