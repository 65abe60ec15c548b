import Agenda.Disk.Basic
import Agenda.Shell.Printing

/-!
# Deeds of tools

What a tool has done to the disk so far, and what it has said in which order: what it printed, what
it complained about and what it asked. What a tool cannot do with an operand it leaves undone, says
why, and goes on.
-/

namespace Agenda.Shell

/-- What a tool says. -/
inductive Remark
  | prints (t : Text)
  /-- Raw text for where complaints go. -/
  | mutters (t : Text)
  /-- A line in its own name. -/
  | complains (words : Text)
  /-- A question in its own name. -/
  | asks (words : Text)

/-- What a tool has done. -/
structure Deed where
  disk : Disk
  /-- What is left of the answers to its questions. -/
  input : ByteArray := .empty
  /-- What it has said. -/
  remarks : List Remark := []
  well : Bool := true

namespace Deed

def say (deed : Deed) (remark : Remark) : Deed := { deed with remarks := deed.remarks ++ [remark] }

def tell (deed : Deed) (t : Text) : Deed :=
  if t.isEmpty then deed else deed.say (.prints (raw t))

def warn (deed : Deed) (words : Text) : Deed := deed.say (.complains words)

/-- Says what is amiss. -/
def fail (deed : Deed) (words : Text) : Deed := { deed.warn words with well := false }

def lose (deed : Deed) : Deed := { deed with well := false }

def on (deed : Deed) (disk : Disk) : Deed := { deed with disk }

/-- Asks a question; a line of the input that starts with a certain letter says yes. -/
def ask (deed : Deed) (words : Text) : Bool × Deed :=
  let t := rawOf deed.input
  let line := t.takeWhile (· ≠ '\n')
  let yes := line.head? = some 'y' || line.head? = some 'Y'
  (yes, { deed.say (.asks words) with input := bytesOf (t.drop (line.length + 1)) })

end Deed

end Agenda.Shell
