import Agenda.Shell.Enclosure
import Agenda.Shell.Escape
import Agenda.Shell.Syntax
import Agenda.Text.Basic
import Agenda.Text.Digit

/-!
# Tokens of scripts

A script is cut into words and operators. Quotes, parameters and inner scripts are found here, so
that the parts of a word are known from then on.
-/

namespace Agenda.Shell

def isNameChar (c : Char) : Bool := c.isAlphanum || c == '_'

/-- The change that the rest of a parameter in braces asks for, with its argument. -/
def changeOf : Text → Change × Text
  | ':' :: '-' :: rest => (.default true, rest)
  | '-' :: rest => (.default false, rest)
  | ':' :: '=' :: rest => (.assign true, rest)
  | '=' :: rest => (.assign false, rest)
  | ':' :: '+' :: rest => (.instead true, rest)
  | '+' :: rest => (.instead false, rest)
  | ':' :: '?' :: rest => (.demand true, rest)
  | '?' :: rest => (.demand false, rest)
  | '%' :: '%' :: rest => (.dropEnd true, rest)
  | '%' :: rest => (.dropEnd false, rest)
  | '#' :: '#' :: rest => (.dropStart true, rest)
  | '#' :: rest => (.dropStart false, rest)
  | ':' :: rest => (.slice, rest)
  | '^' :: '^' :: rest => (.recase true true, rest)
  | '^' :: rest => (.recase true false, rest)
  | ',' :: ',' :: rest => (.recase false true, rest)
  | ',' :: rest => (.recase false false, rest)
  | ['@', 'Q'] => (.quote, [])
  | ['@', 'E'] => (.unescape, [])
  | ['@', 'P'] => (.none, [])
  | ['@', 'A'] => (.describe, [])
  | ['@', 'a'] => (.letters, [])
  | ['@', 'U'] => (.recase true true, [])
  | ['@', 'u'] => (.recase true false, [])
  | ['@', 'L'] => (.recase false true, [])
  | '/' :: '/' :: rest => (.replace .everywhere, rest)
  | '/' :: '#' :: rest => (.replace .atStart, rest)
  | '/' :: '%' :: rest => (.replace .atEnd, rest)
  | '/' :: rest => (.replace .once, rest)
  | [] => (.none, [])
  | _ => (.malformed, [])

def specialNames : List Char := ['@', '*', '#', '?', '$', '!', '-']

/-- The name at the start of a text and what is behind it. -/
def cutName (t : Text) : Text × Text :=
  match t with
  | [] => ([], [])
  | c :: rest =>
    if specialNames.contains c || c.isDigit then ([c], rest)
    else (t.takeWhile isNameChar, t.dropWhile isNameChar)

/-- The name at the start of a text in braces, perhaps with an index in brackets, and what is behind
it. -/
def cutIndexedName (t : Text) : Text × Text :=
  let (name, rest) := if (t.headD ' ').isDigit then
      (t.takeWhile Char.isDigit, t.dropWhile Char.isDigit)
    else cutName t
  match rest with
  | '[' :: inside =>
    match Text.cutAt? ']' inside with
    | some (index, rest) => (name ++ '[' :: index ++ [']'], rest)
    | none => (name, rest)
  | rest => (name, rest)

def bracedParameter (quoted : Bool) (inside : Text) : Part :=
  match inside with
  | '#' :: c :: rest => .parameter quoted (c :: rest) .length []
  | '!' :: c :: rest =>
    let mark := rest.getLast?.filter fun mark => mark = '*' ∨ mark = '@'
    if (c :: rest).dropLast.all isNameChar ∧ mark.isSome then
      .parameter quoted (c :: rest).dropLast .names (rest.drop (rest.length - 1))
    else if isNameChar c then .parameter quoted (c :: rest) .indirect []
    else .parameter quoted ['!'] (changeOf (c :: rest)).1 (changeOf (c :: rest)).2
  | _ =>
    let (name, rest) := cutIndexedName inside
    let (change, argument) := changeOf rest
    .parameter quoted name change argument

/-- The part that starts with a dollar sign, which is left out here, and what is behind it. -/
def dollar (quoted : Bool) (t : Text) : Part × Text :=
  match t with
  | '(' :: '(' :: rest =>
    match Enclosure.sum? rest with
    | some (inside, behind) => (.sum quoted inside, behind)
    | none => (.unfinished .sum, [])
  | '(' :: rest =>
    match Enclosure.script? rest with
    | some (inside, behind) => (.output quoted inside, behind)
    | none => (.unfinished .script, [])
  | '\x7b' :: rest =>
    match Enclosure.brace? quoted rest with
    | some (inside, behind) => (bracedParameter quoted inside, behind)
    | none => (.unfinished .brace, [])
  | _ =>
    match cutName t with
    | ([], _) => (.plain quoted ['$'], t)
    | (name, rest) => (.parameter quoted name .none [], rest)

/-- The script between two backticks: a backslash before a backtick, a dollar sign, a backslash or,
between quotation marks, such a mark is dropped. -/
def tickedScript (quoted : Bool) : Text → Text
  | '\\' :: c :: rest =>
    if c = '\x60' ∨ c = '$' ∨ c = '\\' ∨ (quoted ∧ c = '\x22') then c :: tickedScript quoted rest
    else '\\' :: c :: tickedScript quoted rest
  | c :: rest => c :: tickedScript quoted rest
  | [] => []

/-- The part between two backticks, the first of which is left out here. -/
def ticked (quoted : Bool) (t : Text) : Part × Text :=
  match Enclosure.ticks? t with
  | some (inside, behind) => (.output quoted (tickedScript quoted inside), behind)
  | none => (.unfinished .ticks, [])

/-- The parts up to the closing quotation mark, and what is behind it; where no mark `closes` them,
the parts of the whole text. -/
def quotedParts (closes : Bool) : Nat → Text → Word × Text
  | 0, t => ([], t)
  | _ + 1, [] => (if closes then [.unfinished .quote] else [], [])
  | fuel + 1, c :: rest =>
    let more (part : Part) (rest : Text) : Word × Text :=
      let (parts, behind) := quotedParts closes fuel rest
      (part :: parts, behind)
    if c = '\x22' ∧ closes then ([.plain true []], rest)
    else if c = '$' then more (dollar true rest).1 (dollar true rest).2
    else if c = '\x60' then more (ticked true rest).1 (ticked true rest).2
    else match c, rest with
      | '\\', '\n' :: rest => quotedParts closes fuel rest
      | '\\', d :: rest =>
        if d = '$' ∨ d = '\x60' ∨ (d = '\x22' ∧ closes) ∨ d = '\\' then more (.plain true [d]) rest
        else more (.plain true ['\\', d]) rest
      | _, _ => more (.plain true [c]) rest

def endsWord (c : Char) : Bool :=
  c == ' ' || c == '\t' || c == '\n' || c == ';' || c == '&' || c == '|' || c == '<' ||
    c == '>' || c == '(' || c == ')'

def addChar (c : Char) : Word → Word
  | .plain false t :: parts => .plain false (c :: t) :: parts
  | parts => .plain false [c] :: parts

/-- A text with the escapes replaced that have a meaning between quotes behind a dollar sign. -/
def unescape (t : Text) : Text :=
  let replaced := (Escapes.largeFormat.replace (raw t)).1
  (Text.ofBytes? (bytesOf replaced)).getD replaced

/-- How words are cut out of a text. -/
structure WordStyle where
  /-- Whether it is written in the larger language, and whether patterns may have groups of choices
  there. -/
  large : Bool := false
  groups : Bool := false
  /-- Whether all of it is one word. -/
  whole : Bool := false

def groupSigns : List Char := ['?', '*', '+', '@', '!']

/-- The word at the start of a text and what is behind it. -/
def cutWord (style : WordStyle) : Nat → Text → Word × Text
  | 0, t => ([], t)
  | _ + 1, [] => ([], [])
  | fuel + 1, c :: rest =>
    let more (part : Part) (rest : Text) : Word × Text :=
      let (parts, behind) := cutWord style fuel rest
      (part :: parts, behind)
    if style.large ∧ c = '<' ∧ rest.head? = some '(' then
      match Enclosure.script? rest.tail with
      | some (inside, behind) => more (.reading inside) behind
      | none => ([.unfinished .script], [])
    else if style.groups ∧ groupSigns.contains c ∧ rest.head? = some '(' then
      match Enclosure.group? rest.tail with
      | some (inside, behind) =>
        let (choices, _) := cutWord { style with whole := true } fuel inside
        let (parts, behind) := cutWord style fuel behind
        (.plain false [c, '('] :: choices ++ .plain false [')'] :: parts, behind)
      | none => ([.unfinished .script], [])
    else if endsWord c ∧ !style.whole then ([], c :: rest)
    else if c = '\x27' then
      match Text.cutAt? '\x27' rest with
      | some (inside, behind) => more (.plain true inside) behind
      | none => ([.unfinished .quote], [])
    else if style.large ∧ c = '$' ∧ rest.head? = some '\x27' then
      match Enclosure.marked? '\x27' rest.tail with
      | some (inside, behind) => more (.plain true (unescape inside)) behind
      | none => ([.unfinished .quote], [])
    else if c = '\x22' ∨ (style.large ∧ c = '$' ∧ rest.head? = some '\x22') then
      let rest := if c = '$' then rest.tail else rest
      let (inside, behind) := quotedParts true (rest.length + 1) rest
      let (parts, behind) := cutWord style fuel behind
      ((if inside.any Part.isSeveral then inside.dropLast else inside) ++ parts, behind)
    else if c = '$' then more (dollar false rest).1 (dollar false rest).2
    else if c = '\x60' then more (ticked false rest).1 (ticked false rest).2
    else match c, rest with
      | '\\', '\n' :: rest => cutWord style fuel rest
      | '\\', d :: rest => more (.plain true [d]) rest
      | _, _ =>
        let (parts, behind) := cutWord style fuel rest
        (addChar c parts, behind)

/-- A text without quotation marks that have no backslash before them, and without backslashes
before closing braces. -/
def dropMarks : Text → Text
  | '\\' :: '\x7d' :: rest => '\x7d' :: dropMarks rest
  | '\\' :: c :: rest => '\\' :: c :: dropMarks rest
  | c :: rest => if c = '\x22' then dropMarks rest else c :: dropMarks rest
  | [] => []

def quotedWord (t : Text) : Word :=
  let t := dropMarks t
  (quotedParts false (t.length + 1) t).1

/-- A whole text as one word, with all that would end a word taken as it is. -/
def wholeWord (large : Bool) (t : Text) : Word :=
  (cutWord { large, whole := true } (t.length + 1) t).1

/-- An expression as one word. In the larger language quotation marks have a meaning in it. -/
def expressionWord (large : Bool) (t : Text) : Word :=
  if large then wholeWord true t else (quotedParts false (t.length + 1) t).1

/-- The lines of a document inside a script up to its last line, which is left out, and the lines
behind. -/
def cutDocument (dropTabs : Bool) (stop : Text) : List Text → List Text × List Text
  | [] => ([], [])
  | line :: rest =>
    let line := if dropTabs then line.dropWhile (· == '\t') else line
    if line = stop ∨ (line.isEmpty ∧ rest.isEmpty) then ([], rest)
    else
      let (inside, behind) := cutDocument dropTabs stop rest
      (line :: inside, behind)

/-- The document that an operator announces, as a word, and the script without it. The word behind
the operator is the last line of the document, which starts on the next line; nothing is found out
in a document if any part of that word is quoted. -/
def document (dropTabs : Bool) (t : Text) : Word × Text :=
  let t := t.dropWhile Text.isSpace
  let (stop, behind) := cutWord {} (t.length + 1) t
  let quoted := stop.any fun
    | .plain quoted _ => quoted
    | _ => false
  let stop := stop.flatMap fun
    | .plain _ t => t
    | _ => []
  let line := behind.takeWhile (· ≠ '\n')
  let (inside, behind) := cutDocument dropTabs stop (Text.lines (behind.drop (line.length + 1)))
  let inside := inside.flatMap (· ++ ['\n'])
  let word := if quoted then [.plain true inside]
    else (quotedParts false (inside.length + 1) inside).1
  (word, line ++ '\n' :: Text.unlines behind)

/-- The operators, longer ones before their beginnings. -/
def operators : List Text :=
  ["<<-", "<<", "&&", "||", ";;", ">>", ">&", "<&", "<>", ">|", "\n", ";", "&", "|", "<", ">", "(", ")"]

/-- The operators of the larger language that are tried before the others. -/
def largeOperators : List Text := ["<<<", "&>>", "&>", "|&", ";;&", ";&"]

/-- The name before a list of values, from the word before an opening parenthesis. -/
def listName? (word : Word) : Option Token :=
  (literal? word).bind fun t =>
    match t.reverse with
    | '=' :: '+' :: name => some (.list name.reverse true)
    | '=' :: name => some (.list name.reverse false)
    | _ => none

/-- A word that adds to the value of a variable, as one that gives it the whole value. -/
def withWholeValue : Word → Word
  | .plain false t :: parts =>
    match Text.cutAt? '=' t with
    | some (start, value) =>
      let name := start.dropLast
      if start.getLast? = some '+' ∧ !name.isEmpty ∧ name.all isNameChar then
        .plain false (name ++ ['=']) :: .parameter true name .base [] :: .plain true value :: parts
      else .plain false t :: parts
    | none => .plain false t :: parts
  | word => word

/-- The name with an index at the start of a text that gives such an element a value, whether that
is added to the value it has, and the text of the value. -/
def element? (t : Text) : Option (Text × Bool × Text) :=
  let name := t.takeWhile isNameChar
  match name, t.drop name.length with
  | _ :: _, '[' :: rest =>
    match Enclosure.index? rest with
    | some (index, '=' :: value) => some (name ++ '[' :: index ++ [']'], false, value)
    | some (index, '+' :: '=' :: value) => some (name ++ '[' :: index ++ [']'], true, value)
    | _ => none
  | _, _ => none

/-- Whether a text is a name with the start of a function's body behind it. -/
def opensFunction (t : Text) : Bool :=
  let behind := ((t.dropWhile Text.isSpace).dropWhile isNameChar).dropWhile Text.isBlank
  behind.head? == some '\x7b' || behind.head? == some '('

/-- Which language a script is written in at some place. -/
structure Stage where
  large : Bool := false
  /-- Whether patterns may have groups of choices, and whether they may on the next line. -/
  groups : Bool := false
  next : Bool := false
  /-- Whether the next word is what another one is compared with. -/
  compares : Bool := false

namespace Stage

def wordStyle (stage : Stage) : WordStyle :=
  { large := stage.large, groups := stage.large && (stage.groups || stage.compares) }

def behindOperator (stage : Stage) (operator : Text) : Stage :=
  { stage with
    compares := false
    groups := if operator = ['\n'] then stage.next else stage.groups }

def behindWord (stage : Stage) (word : Word) : Stage :=
  let is (t : Text) : Bool := literal? word = some t
  { stage with
    compares := is "==" || is "=" || is "!="
    next := stage.next || is "extglob" }

end Stage

def tokens : Nat → Stage → Text → List Token
  | 0, _, _ => []
  | _ + 1, _, [] => []
  | fuel + 1, stage, c :: rest =>
    let large := stage.large
    if Text.isSpace c then tokens fuel stage rest
    else if c = '#' then tokens fuel stage (rest.dropWhile (· ≠ '\n'))
    else if large ∧ c = '(' ∧ rest.head? = some '(' then
      match Enclosure.sum? rest.tail with
      | some (inside, behind) => .sum inside :: tokens fuel stage behind
      | none => [.word [.unfinished .sum]]
    else if large ∧ c = '<' ∧ rest.head? = some '(' then
      let (word, behind) := cutWord stage.wordStyle (rest.length + 1) (c :: rest)
      .word word :: tokens fuel stage behind
    else match c, rest with
      | '\\', '\n' :: rest => tokens fuel stage rest
      | _, _ =>
        let known := if large then largeOperators ++ operators else operators
        let found? := known.find? (Text.startsWith · (c :: rest))
        let isGroup := stage.wordStyle.groups && groupSigns.contains c && rest.head? == some '('
        match if isGroup then none else found? with
        | some operator =>
          let behind := (c :: rest).drop operator.length
          let next := behind.dropWhile Text.isSpace
          let after := stage.behindOperator operator
          if operator = "<<<".toList then
            let (word, behind) := cutWord stage.wordStyle (next.length + 1) next
            .operator "<<" :: .word (word.map Part.whole ++ [.plain true ['\n']]) ::
              tokens fuel after behind
          else if Text.startsWith "<<" operator ∧ next.head?.all endsWord then
            .operator "<<" :: tokens fuel after behind
          else if Text.startsWith "<<" operator then
            let (word, behind) := document (operator = "<<-".toList) behind
            .operator "<<" :: .word word :: tokens fuel after behind
          else if Text.startsWith "&>" operator then
            let (word, behind) := cutWord stage.wordStyle (next.length + 1) next
            .operator operator.tail :: .word word :: .stream 2 :: .operator ">&" ::
              .word [.plain false ['1']] :: tokens fuel after behind
          else if large ∧ operator = ">&".toList ∧
              !(next.headD '-').isDigit ∧ !"-$".toList.contains (next.headD '-') then
            let (word, behind) := cutWord stage.wordStyle (next.length + 1) next
            .operator ['>'] :: .word word :: .stream 2 :: .operator ">&" ::
              .word [.plain false ['1']] :: tokens fuel after behind
          else if operator = "|&".toList then
            .stream 2 :: .operator ">&" :: .word [.plain false ['1']] :: .operator "|" ::
              tokens fuel after behind
          else .operator operator :: tokens fuel after behind
        | none =>
          match if large then element? (c :: rest) else none with
          | some (name, adds, value) =>
            let (word, behind) := cutWord stage.wordStyle (value.length + 1) value
            .list name adds :: .word word :: .operator ")" :: tokens fuel stage behind
          | none =>
            let (written, behind) := cutWord stage.wordStyle (rest.length + 1) (c :: rest)
            let word := if large then withWholeValue written else written
            let isStream := (literal? word).any fun t => t.all Char.isDigit
            let after := stage.behindWord word
            if large ∧ literal? word = some ['[', '['] then
              .operator "[[" :: tokens fuel after behind
            else if large ∧ literal? word = some "function".toList ∧ opensFunction behind then
              .operator "fun" :: tokens fuel after behind
            else match if large then listName? written else none, behind with
            | some list, '(' :: behind => list :: tokens fuel after behind
            | _, d :: _ =>
              if (d = '<' ∨ d = '>') ∧ isStream then
                .stream (Text.natOfDigits ((literal? word).getD [])) :: tokens fuel after behind
              else .word word :: tokens fuel after behind
            | _, [] => .word word :: tokens fuel after behind

/-- The tokens of a whole script. In the larger language patterns may have `groups` of choices. -/
def tokensOf (large groups : Bool) (script : Text) : List Token :=
  tokens (script.length + 1) { large, groups, next := groups } script

/-- What in a token was opened and not closed. -/
def Token.gap? : Token → Option Gap
  | word w => w.findSome? fun
    | .unfinished gap => some gap
    | _ => none
  | _ => none

def Token.endsLine : Token → Bool
  | operator t => t == ['\n']
  | _ => false

end Agenda.Shell
