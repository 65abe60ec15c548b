import Agenda.Disk.Path

/-!
# The system around a disk

What every system has at fixed paths besides the files of its users: directories, some files that
tell about it, devices, and programs. Scripts can ask whether these are there, and call the
programs.
-/

namespace Agenda.Shell.Outside

/-- What can be at a fixed path. -/
inductive Fixture
  | directory
  | file
  | device
  | program
deriving DecidableEq

def directories : List Text := (["bin", "boot", "dev", "etc", "home", "lib", "media", "mnt", "opt",
  "proc", "root", "run", "sbin", "srv", "sys", "tmp", "usr", "usr/bin", "usr/lib", "usr/local",
  "usr/local/bin", "usr/sbin", "usr/share", "var", "var/log", "var/tmp"] :
  List String).map String.toList

def files : List Text := ["etc/passwd", "etc/group", "etc/hosts", "etc/hostname", "etc/os-release",
  "etc/shadow", "etc/fstab"]

def devices : List Text := ["dev/null", "dev/zero", "dev/full", "dev/random", "dev/urandom",
  "dev/tty"]

def programs : List Text := ([
  "[", "arch", "awk", "b2sum", "base32", "base64", "basename", "basenc", "bash", "cat", "chmod",
  "cksum", "cmp", "comm", "cp", "cut", "dash", "date", "dd", "diff", "dirname", "echo", "egrep",
  "env", "expand", "expr", "factor", "false", "fgrep", "find", "fmt", "fold", "grep", "groups",
  "head", "hostname", "id", "install", "join", "kill", "ln", "logname", "ls", "md5sum", "mkdir",
  "mktemp", "mv", "nice", "nl", "nohup", "nproc", "od", "paste", "printenv", "printf", "pwd",
  "readlink", "realpath", "rev", "rm", "rmdir", "sed", "seq", "setsid", "sh", "sha1sum",
  "sha224sum", "sha256sum", "sha384sum", "sha512sum", "sleep", "sort", "split", "stat", "stdbuf",
  "sum", "sync", "tac", "tail", "tee", "test", "timeout", "touch", "tr", "true", "truncate", "tty",
  "uname", "unexpand", "uniq", "unlink", "wc", "which", "whoami", "xargs", "yes"] :
  List String).map String.toList

def programOf? (names : List Text) : Option Text :=
  let name? : Option Text := match names with
    | [directory, name] => if directory = "bin".toList then some name else none
    | [first, second, name] =>
      if first = "usr".toList ∧ second = "bin".toList then some name else none
    | _ => none
  name?.filter programs.contains

def at? (path : Text) : Option Fixture :=
  let path := Disk.Path.ofText path
  let name := Text.join "/" path.names
  if path.slashes = 0 then none
  else if path.names.isEmpty ∨ directories.contains name then some .directory
  else if files.contains name then some .file
  else if devices.contains name then some .device
  else (programOf? path.names).map fun _ => .program

def Fixture.answer (fixture : Fixture) (question : Char) : Bool :=
  match question with
  | 'd' => fixture = .directory
  | 'f' => fixture = .file || fixture = .program
  | 'c' => fixture = .device
  | 'x' => fixture = .directory || fixture = .program
  | 's' => fixture ≠ .device
  | 'e' | 'r' | 'w' | 'O' | 'G' => true
  | _ => false

end Agenda.Shell.Outside
