import Agenda.Text.Basic

/-!
# Enclosed text in scripts

Where something ends that was opened in a script: a pair of quotation marks, backticks, braces or
parentheses. Inside it, other things may be opened and closed, quoted characters close nothing, and
in a script the parentheses behind the patterns of a choice, and those in comments and documents,
close nothing either. Every function gives the text behind the end, if there is one.
-/

namespace Agenda.Shell.Enclosure

/-- What has been opened in a script and not been closed yet. -/
inductive Mark
  | parenthesis
  | choice
deriving Repr, DecidableEq

/-- The words behind which a command may start. -/
def openers : List Text :=
  ["if", "then", "else", "elif", "while", "until", "do", "!", "\x7b"]

def isBare (c : Char) : Bool :=
  !" \t\n;&|<>()\x27\x22\x60$\\".toList.contains c

/-- What is behind the backtick that closes a script. -/
def behindTicks : Text → Option Text
  | [] => none
  | '\\' :: _ :: rest => behindTicks rest
  | c :: rest => if c = '\x60' then some rest else behindTicks rest

/-- What is behind a mark that no backslash stands before. -/
def behindMark (mark : Char) : Text → Option Text
  | [] => none
  | '\\' :: _ :: rest => behindMark mark rest
  | c :: rest => if c = mark then some rest else behindMark mark rest

/-- What is behind a document that ends with a line, which may have tabs before it. -/
def behindDocument (dropsTabs : Bool) (stop : Text) : List Text → Text
  | [] => []
  | line :: rest =>
    if (if dropsTabs then line.dropWhile (· == '\t') else line) = stop then
      Text.join "\n" rest
    else behindDocument dropsTabs stop rest

/-- What is behind the documents whose last lines are known, in a text that starts with a line. -/
def behindDocuments (stops : List (Bool × Text)) (t : Text) : Text :=
  stops.foldl (fun t (dropsTabs, stop) => behindDocument dropsTabs stop (t.splitOn '\n')) t

/-- The last line of a document, and the text behind the word that announces it. -/
def announced (t : Text) : (Bool × Text) × Text :=
  let (dropsTabs, t) := if t.head? = some '-' then (true, t.tail) else (false, t)
  let t := t.dropWhile fun c => c == ' ' || c == '\t'
  let word := t.takeWhile fun c => !" \t\n;&|<>()".toList.contains c
  ((dropsTabs, word.filter fun c => !"\x27\x22\\".toList.contains c), t.drop word.length)

/-- What is left open behind a bare word where a command may start or not, and whether one may start
behind it. -/
def behindWord (marks : List Mark) (starts : Bool) (word : Text) : List Mark × Bool :=
  if starts ∧ word = "case".toList then (.choice :: marks, false)
  else if starts ∧ word = "esac".toList ∧ marks.head? = some .choice then (marks.tail, false)
  else if starts ∧ openers.contains word then (marks, true)
  else (marks, word = "in".toList && marks.head? == some .choice)

/-- What is behind the bracket that closes an index on its line, in which so many other brackets are
open. -/
def behindBracket : (depth : Nat) → Text → Option Text
  | _, [] => none
  | depth, '\\' :: _ :: rest => behindBracket depth rest
  | depth, c :: rest =>
    if c = '\n' then none
    else if c = '[' then behindBracket (depth + 1) rest
    else if c = ']' then if depth = 0 then some rest else behindBracket (depth - 1) rest
    else behindBracket depth rest

mutual

def behindQuoted : Nat → Text → Option Text
  | 0, _ => none
  | _ + 1, [] => none
  | _ + 1, '\x22' :: rest => some rest
  | fuel + 1, '\\' :: rest => behindQuoted fuel rest.tail
  | fuel + 1, '\x60' :: rest => (behindTicks rest).bind (behindQuoted fuel)
  | fuel + 1, '$' :: rest => (behindDollar fuel true rest).bind (behindQuoted fuel)
  | fuel + 1, _ :: rest => behindQuoted fuel rest

/-- What is behind a parameter, a script or an expression that starts with a dollar sign. -/
def behindDollar : Nat → (quoted : Bool) → Text → Option Text
  | 0, _, _ => none
  | fuel + 1, quoted, t =>
    match t with
    | '(' :: '(' :: rest => behindSum fuel 1 rest
    | '(' :: rest => behindScript fuel [] [] true true rest
    | '\x7b' :: rest => behindBrace fuel quoted rest
    | t => some t

/-- What is behind the brace that closes a parameter. Between quotation marks a single quote has no
meaning. -/
def behindBrace : Nat → (quoted : Bool) → Text → Option Text
  | 0, _, _ => none
  | _ + 1, _, [] => none
  | _ + 1, _, '\x7d' :: rest => some rest
  | fuel + 1, quoted, '\\' :: rest => behindBrace fuel quoted rest.tail
  | fuel + 1, quoted, '\x60' :: rest => (behindTicks rest).bind (behindBrace fuel quoted)
  | fuel + 1, quoted, '$' :: rest =>
    (behindDollar fuel quoted rest).bind (behindBrace fuel quoted)
  | fuel + 1, quoted, '\x22' :: rest => (behindQuoted fuel rest).bind (behindBrace fuel quoted)
  | fuel + 1, quoted, '\x27' :: rest =>
    if quoted then behindBrace fuel quoted rest
    else (Text.cutAt? '\x27' rest).bind fun (_, rest) => behindBrace fuel quoted rest
  | fuel + 1, quoted, _ :: rest => behindBrace fuel quoted rest

/-- What is behind the parentheses that close an expression, of which so many are open. -/
def behindSum : Nat → (depth : Nat) → Text → Option Text
  | 0, _, _ => none
  | _ + 1, _, [] => none
  | fuel + 1, depth, '(' :: rest => behindSum fuel (depth + 1) rest
  | fuel + 1, depth, ')' :: rest => if depth = 0 then some rest else behindSum fuel (depth - 1) rest
  | fuel + 1, depth, '\\' :: rest => behindSum fuel depth rest.tail
  | fuel + 1, depth, '\x60' :: rest => (behindTicks rest).bind (behindSum fuel depth)
  | fuel + 1, depth, '$' :: rest => (behindDollar fuel true rest).bind (behindSum fuel depth)
  | fuel + 1, depth, _ :: rest => behindSum fuel depth rest

/-- What is behind the parenthesis that closes a script. `starts` says whether a command may start
here, `fresh` whether a word may, and `stops` are the last lines of the documents that start on the
next line. -/
def behindScript :
    Nat → List Mark → (stops : List (Bool × Text)) → (starts fresh : Bool) → Text → Option Text
  | 0, _, _, _, _, _ => none
  | _ + 1, _, _, _, _, [] => none
  | fuel + 1, marks, stops, starts, fresh, c :: rest =>
    if c = '\n' then behindScript fuel marks [] true true (behindDocuments stops rest)
    else if c = ' ' ∨ c = '\t' then behindScript fuel marks stops starts true rest
    else if c = '#' ∧ fresh then
      behindScript fuel marks stops starts true (rest.dropWhile (· ≠ '\n'))
    else if c = ';' ∨ c = '&' ∨ c = '|' then behindScript fuel marks stops true true rest
    else if c = '(' then behindScript fuel (.parenthesis :: marks) stops true true rest
    else if c = ')' then
      match marks with
      | [] => some rest
      | .parenthesis :: marks => behindScript fuel marks stops true true rest
      | marks => behindScript fuel marks stops true true rest
    else if c = '<' ∧ rest.head? = some '<' ∧ rest.tail.head? ≠ some '<' then
      let (stop, rest) := announced rest.tail
      behindScript fuel marks (stops ++ [stop]) false true rest
    else if c = '<' ∨ c = '>' then
      behindScript fuel marks stops starts true (rest.dropWhile (· == c))
    else if c = '\\' then behindScript fuel marks stops false false rest.tail
    else if c = '\x27' then
      (Text.cutAt? '\x27' rest).bind fun (_, rest) =>
        behindScript fuel marks stops false false rest
    else if c = '\x22' then
      (behindQuoted fuel rest).bind (behindScript fuel marks stops false false)
    else if c = '\x60' then
      (behindTicks rest).bind (behindScript fuel marks stops false false)
    else if c = '$' then
      (behindDollar fuel false rest).bind (behindScript fuel marks stops false false)
    else
      let word := c :: rest.takeWhile isBare
      let rest := rest.dropWhile isBare
      let isWhole := fresh && (rest.headD ' ' != '\x22' && rest.headD ' ' != '\x27')
      let (marks, starts) := behindWord marks (starts && isWhole) word
      behindScript fuel marks stops starts false rest

end

/-- The text before an end that was found, and the text behind it. -/
def parted (t : Text) (behind? : Option Text) : Option (Text × Text) :=
  behind?.map fun behind => (t.take (t.length - behind.length - 1), behind)

/-- A script up to the parenthesis that closes it, and what is behind that. -/
def script? (t : Text) : Option (Text × Text) :=
  parted t (behindScript (t.length + 1) [] [] true true t)

/-- An expression up to the two parentheses that close it, and what is behind them. -/
def sum? (t : Text) : Option (Text × Text) :=
  (parted t (behindSum (t.length + 1) 1 t)).map fun (inside, behind) => (inside.dropLast, behind)

/-- The inside of a pair of braces up to the end, and what is behind it. -/
def brace? (quoted : Bool) (t : Text) : Option (Text × Text) :=
  parted t (behindBrace (t.length + 1) quoted t)

/-- The inside of a pair of backticks up to the end, and what is behind it. -/
def ticks? (t : Text) : Option (Text × Text) := parted t (behindTicks t)

/-- A group of choices up to the parenthesis that closes it, and what is behind that. -/
def group? (t : Text) : Option (Text × Text) := parted t (behindSum (t.length + 1) 0 t)

/-- An index up to the bracket that closes it, and what is behind that. -/
def index? (t : Text) : Option (Text × Text) := parted t (behindBracket 0 t)

/-- A text up to a mark that no backslash stands before, and what is behind it. -/
def marked? (mark : Char) (t : Text) : Option (Text × Text) := parted t (behindMark mark t)

example : script? "case a in a) b;; esac) c".toList =
    some ("case a in a) b;; esac".toList, " c".toList) := by decide +kernel

example : brace? false "x:-\x7ba\\\x7d\x7d b".toList =
    some ("x:-\x7ba\\\x7d".toList, " b".toList) := by decide +kernel

end Agenda.Shell.Enclosure
