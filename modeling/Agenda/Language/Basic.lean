import Agenda.Text.Basic
import Agenda.Text.LowerCase

/-!
# Languages of events

The language of an event is given by its code of two letters, which is looked up in a table. The
table is not part of the program: whatever runs the program brings one (`Languages`). A code that
the table does not know is no error: the event then has no language.
-/

namespace Agenda

structure Language where
  /-- The code of two letters, `fr`. -/
  alpha2 : Text
  /-- The code of three letters, `fra`. -/
  alpha3 : Text
  /-- The English name, `French`. -/
  name : Text
deriving Repr, DecidableEq

/-- A table of languages: the language that it holds for a code, if there is one. -/
class Languages where
  find? : Text → Option Language

namespace Language

def isLetter (c : Char) : Bool := ('a' ≤ c && c ≤ 'z') || ('A' ≤ c && c ≤ 'Z')

def isSmall (c : Char) : Bool := 'a' ≤ c && c ≤ 'z'

/-- Whether a text is a code as tables have them: two small letters. -/
def IsCode (code : Text) : Prop := code.length = 2 ∧ ∀ c ∈ code, isSmall c = true

instance (code : Text) : Decidable (IsCode code) :=
  decidable_of_iff (code.length = 2 ∧ code.all isSmall = true) (by rw [List.all_eq_true, IsCode])

/-- The language with a code, which may stand between blanks and in letters of either case. -/
def ofCode? [Languages] (code : Text) : Option Language :=
  let code := Text.trim code
  if code.length = 2 ∧ code.all isLetter then Languages.find? (Text.lower code) else none

/-- Whether the table holds a language for some code. -/
def IsHeld [Languages] (language : Language) : Prop :=
  ∃ code, IsCode code ∧ Languages.find? code = some language

end Language

/-- The law of tables: the language that is held for a code has that code. -/
def Languages.IsLawful (languages : Languages) : Prop :=
  ∀ code language, Language.IsCode code → languages.find? code = some language →
    language.alpha2 = code

end Agenda
