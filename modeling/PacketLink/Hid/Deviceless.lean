import PacketLink.Files.Tree
import PacketLink.Hid.Link

namespace PacketLink.Hid

/-! A system on a machine without any HID interface. Its state is the machine's files: a path that
is opened all the same leads to a failure, and what stands there decides to which. -/

/-- The reason for which a path cannot be opened as an interface. A file can be opened, but it does
not tell the size of a report descriptor. -/
def refusal (files : FileTree) (path : String) : String :=
  let failed (reason : FileError) : String :=
    s!"failed to open device with path {path}: {reason.message}"
  match files.find path with
  | .error reason => failed reason
  | .ok (.free _) => failed .missing
  | .ok (.folder _) => failed .isFolder
  | .ok (.file ..) =>
      s!"ioctl(GRDESCSIZE) error for {path}, not a HIDRAW device?: ENOTTY: Not a typewriter"

def System.deviceless : System FileTree where
  interfaces _ := .ok []
  openPath path files := ⟨.error (.api (refusal files path)), files, none⟩
  write _ files := ⟨.error .initialization, files, none⟩
  read _ files := ⟨.error .initialization, files, none⟩
  close files := files

end PacketLink.Hid
