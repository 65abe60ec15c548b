import Agenda.Shell.FileTool.Listing
import Agenda.Shell.FileTool.Make
import Agenda.Shell.FileTool.Mode
import Agenda.Shell.FileTool.Move

/-!
# File tools of scripts

The tools for files by their names: which options each of them knows, and what it does in a
directory of a disk.
-/

namespace Agenda.Shell

structure FileTool where
  known : Known
  act : Place → Options → Deed → List Text → Except Misuse Deed

namespace FileTool

/-- The words for what the tools have in common that go through several sources, and others. -/
def sourceWords (others : List (Text × Char)) : List (Text × Char) :=
  let common : List (Text × Char) := [("backup", 'B'), ("force", 'f'), ("interactive", 'i'),
    ("suffix", 'S'), ("target-directory", 't'), ("no-target-directory", 'T'), ("verbose", 'v')]
  common ++ others

def formWords : List (Text × Char) := [("author", '&'), ("escape", 'b'), ("block-size", '%'),
  ("classify", 'F'), ("color", '2'), ("file-type", '7'), ("format", '='), ("full-time", '3'),
  ("no-group", 'G'), ("hide-control-chars", 'q'), ("human-readable", 'h'), ("hyperlink", '~'),
  ("indicator-style", '6'), ("inode", 'i'), ("kibibytes", 'k'), ("literal", 'N'),
  ("numeric-uid-gid", 'n'), ("quote-name", 'Q'), ("quoting-style", '8'),
  ("show-control-chars", '_'), ("si", '^'), ("size", 's'), ("tabsize", 'T'), ("time-style", '+'),
  ("width", 'w'), ("zero", '0')]

def choiceWords : List (Text × Char) := [("all", 'a'), ("almost-all", 'A'),
  ("ignore-backups", 'B'), ("directory", 'd'), ("dereference", 'L'),
  ("dereference-command-line", 'H'), ("group-directories-first", '4'), ("hide", '5'),
  ("ignore", 'I'), ("recursive", 'R'), ("reverse", 'r'), ("sort", '9'), ("time", '@')]

def listing : Known where
  plain := "aAbBcCdDfFgGhHiklLmnNopqQrRsStuUvxXZ1"
  valued := "ITw5689@+=%"
  words := formWords ++ choiceWords

def all : List (Text × FileTool) := [
  ("cp", ⟨{ plain := "abdfHilLnpPRrsTuvxZqezy", valued := "tSAW", words := sourceWords [
    ("archive", 'a'), ("attributes-only", 'y'), ("dereference", 'L'), ("link", 'l'),
    ("no-clobber", 'n'), ("no-dereference", 'P'), ("preserve", 'k'), ("no-preserve", 'A'),
    ("parents", 'q'), ("recursive", 'r'), ("reflink", 'w'), ("remove-destination", 'e'),
    ("sparse", 'W'), ("strip-trailing-slashes", 'z'), ("symbolic-link", 's'), ("update", 'U'),
    ("one-file-system", 'x')] }, copies⟩),
  ("install", ⟨{ plain := "bcCdDpsTvZ", valued := "gmotS", words := sourceWords [
    ("directory", 'd'), ("group", 'g'), ("mode", 'm'), ("owner", 'o'), ("compare", 'C'),
    ("preserve-timestamps", 'p'), ("strip", 's')] }, installs⟩),
  ("mv", ⟨{ plain := "bfinTuvZz", valued := "tS", words := sourceWords [("no-clobber", 'n'),
    ("update", 'U'), ("strip-trailing-slashes", 'z')] }, moves⟩),
  ("ln", ⟨{ plain := "bdFfinLPrsTv", valued := "tS", words := sourceWords [("symbolic", 's'),
    ("relative", 'r'), ("logical", 'L'), ("physical", 'P'), ("no-dereference", 'n')] }, links⟩),
  ("rm", ⟨{ plain := "dfiIrRv", words := [("dir", 'd'), ("force", 'f'), ("interactive", 'A'),
    ("one-file-system", 'x'), ("no-preserve-root", 'N'), ("preserve-root", 'p'),
    ("recursive", 'r'), ("verbose", 'v')] }, removes⟩),
  ("unlink", ⟨{}, fun here _ => unlinks here⟩),
  ("rmdir", ⟨{ plain := "pv", words := [("ignore-fail-on-non-empty", 'i'), ("parents", 'p'),
    ("verbose", 'v')] }, removesFolders⟩),
  ("mkdir", ⟨{ plain := "pvZ", valued := ['m'], words := [("parents", 'p'), ("verbose", 'v'),
    ("mode", 'm')] }, makes⟩),
  ("touch", ⟨{ plain := "acmfh", valued := "drtT", words := [("no-create", 'c'), ("date", 'd'),
    ("reference", 'r'), ("no-dereference", 'h'), ("time", 'T')] }, touches⟩),
  ("truncate", ⟨{ plain := "co", valued := "sr", words := [("size", 's'), ("no-create", 'c'),
    ("io-blocks", 'o'), ("reference", 'r')] }, resizes⟩),
  ("chmod", ⟨{ plain := "Rvcfrwxstugoa,+=X01234567", valued := ['F'], words := [("changes", 'c'),
    ("silent", 'f'), ("quiet", 'f'), ("verbose", 'v'), ("reference", 'F'),
    ("recursive", 'R')] }, remodes⟩),
  ("stat", ⟨{ plain := "Lft", valued := "cp", words := [("format", 'c'), ("printf", 'p'),
    ("dereference", 'L'), ("file-system", 'f'), ("terse", 't')] }, states⟩),
  ("readlink", ⟨{ plain := "femnqsvz", words := [("canonicalize", 'f'),
    ("canonicalize-existing", 'e'), ("canonicalize-missing", 'm'), ("no-newline", 'n'),
    ("quiet", 'q'), ("silent", 's'), ("verbose", 'v'), ("zero", 'z')] }, readsLinks⟩),
  ("realpath", ⟨{ plain := "emLPqsz", valued := "23", words := [("canonicalize-existing", 'e'),
    ("canonicalize-missing", 'm'), ("quiet", 'q'), ("logical", 'L'), ("physical", 'P'),
    ("strip", 's'), ("no-symlinks", 's'), ("zero", 'z'), ("relative-to", '2'),
    ("relative-base", '3')] }, plainPaths⟩),
  ("ls", ⟨listing, lists⟩)]

def find? (name : Text) : Option FileTool := all.lookup name

end FileTool

end Agenda.Shell
