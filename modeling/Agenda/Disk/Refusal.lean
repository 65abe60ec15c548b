import Agenda.Text.Quoted

/-!
# Refusals of the file system

Why the file system refuses to open, create, read, write or start something. The reasons that the
program or its tools tell apart have names; there may be any others, each known by its number. A
refusal names the path as it was asked for, unless something that is open already is read or
written.
-/

namespace Agenda.Disk

/-- The numbers of the reasons that have names. -/
def namedCodes : List Nat := [2, 13, 17, 20, 21, 36, 39, 40]

inductive Reason
  | missing
  | denied
  | occupied
  | notDirectory
  | isDirectory
  | nameTooLong
  | notEmpty
  | tooManyLinks
  | other (number : Nat) (description : Text) (new : number ∉ namedCodes)
deriving Repr, DecidableEq

namespace Reason

/-- The number by which the system knows a reason. -/
def code : Reason → Nat
  | missing => 2
  | denied => 13
  | occupied => 17
  | notDirectory => 20
  | isDirectory => 21
  | nameTooLong => 36
  | notEmpty => 39
  | tooManyLinks => 40
  | other number _ _ => number

def words : Reason → Text
  | missing => "No such file or directory"
  | denied => "Permission denied"
  | occupied => "File exists"
  | notDirectory => "Not a directory"
  | isDirectory => "Is a directory"
  | nameTooLong => "File name too long"
  | notEmpty => "Directory not empty"
  | tooManyLinks => "Too many levels of symbolic links"
  | other _ description _ => description

/-- Whether a reason says that nothing is there: nothing at all, nothing behind a file, nothing that
is open, nothing behind links that go round. -/
def isAbsence (reason : Reason) : Bool := [2, 9, 20, 40].contains reason.code

/-- Whether a reason is that something is not allowed. -/
def isForbidden (reason : Reason) : Bool := [1, 13].contains reason.code

end Reason

/-- A reason, and the path that was asked for if there is one. -/
structure Refusal where
  reason : Reason
  path : Option Text
deriving Repr, DecidableEq

/-- A refusal in one line: `[Errno 2] No such file or directory: 'x.txt'`. -/
def Refusal.message (refusal : Refusal) : Text :=
  let words : Text := "[Errno " ++ Text.ofNat refusal.reason.code ++ "] " ++ refusal.reason.words
  match refusal.path with
  | none => words
  | some path => words ++ ": " ++ Text.quoted path

end Agenda.Disk
