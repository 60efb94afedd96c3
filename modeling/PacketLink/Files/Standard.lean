import PacketLink.Files.Tree

namespace PacketLink.FileTree

/-! What stands on any machine before something is stored there: the folders of the system, its
special files, and a few tables. -/

def standardFolders : List Place :=
  ["/bin", "/boot", "/dev", "/etc", "/home", "/lib", "/lib64", "/media", "/mnt", "/opt", "/proc",
    "/root", "/run", "/sbin", "/srv", "/sys", "/tmp", "/usr", "/var", "/work",
    "/dev/fd", "/dev/mqueue", "/dev/pts", "/dev/shm", "/proc/self", "/proc/sys", "/sys/bus",
    "/sys/class", "/sys/devices", "/usr/bin", "/usr/include", "/usr/lib", "/usr/local",
    "/usr/local/bin", "/usr/sbin", "/usr/share", "/usr/src", "/var/cache", "/var/lib", "/var/log",
    "/var/tmp"]

/-- Files that hold nothing, or nothing of interest. -/
def standardFiles : List Place :=
  ["/dev/console", "/dev/full", "/dev/null", "/dev/ptmx", "/dev/random", "/dev/stderr",
    "/dev/stdin", "/dev/stdout", "/dev/tty", "/dev/urandom", "/dev/zero", "/bin/cat", "/bin/ls",
    "/bin/sh", "/usr/bin/env", "/proc/cpuinfo", "/proc/meminfo", "/proc/mounts", "/proc/version"]

def standardTables : List (Place × String) :=
  [("/etc/passwd", "root:x:0:0:root:/root:/bin/sh\n"), ("/etc/group", "root:x:0:\n"),
    ("/etc/hosts", "127.0.0.1\tlocalhost\n"), ("/etc/hostname", "localhost\n")]

/-- The files of a machine as it is set up; relative paths begin in the folder `/work`. -/
def standard : FileTree where
  entries := standardFolders.map (fun place => (place, .folder)) ++
    standardFiles.map (fun place => (place, .file .empty)) ++
    standardTables.map (fun (place, content) => (place, .file content.toUTF8))
  working := "/work"

end PacketLink.FileTree
