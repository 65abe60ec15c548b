import Agenda.Shell.Filter

/-!
# Filled lines

How `fmt` joins the lines of a paragraph and breaks them anew. A paragraph is broken where its lines
come closest to a goal: every way to break it has costs, for lines that are short, for neighbours of
different lengths, and for breaks at bad places in a sentence, and the way with the least costs is
taken.
-/

namespace Agenda.Shell.Filter

structure Filling.Word where
  text : Text
  /-- The number of spaces behind it. -/
  space : Nat
  /-- Whether it starts with an opening bracket or quotation mark. -/
  opens : Bool
  /-- Whether it ends with a punctuation mark. -/
  punct : Bool
  /-- Whether it ends with a mark that can end a sentence, and whether it ends one. -/
  period : Bool
  final : Bool

/-- A line: the columns before what has to stand in front of it, and before its first word, and the
text from that on. -/
structure Filling.Line where
  outer : Nat
  column : Nat
  rest : Text
  /-- How much of what has to stand in front of it is there. -/
  matched : Nat

/-- What the lines of a paragraph have in common. -/
inductive Filling.Shape
  | plain
  | crown
  | tagged
  | split
deriving DecidableEq

structure Filling where
  width : Nat
  goal : Nat
  shape : Filling.Shape
  uniform : Bool
  /-- What has to stand in front of a line that is filled, the spaces before it, and its length
  with spaces behind it. -/
  front : Text
  frontIndent : Nat
  frontLength : Nat

namespace Filling

/-- The column behind some spaces and tabs, and what is behind them. -/
def blanks (column : Nat) : Text → Nat × Text
  | ' ' :: rest => blanks (column + 1) rest
  | '\t' :: rest => blanks ((column / 8 + 1) * 8) rest
  | t => (column, t)

/-- The number of characters that two texts start with in common. -/
def common : Text → Text → Nat
  | c :: s, d :: t => if c = d then common s t + 1 else 0
  | _, _ => 0

/-- A line without what stands in front of its words. -/
def lineOf (filling : Filling) (t : Text) : Line :=
  let (column, rest) := blanks 0 t
  if filling.front.isEmpty then ⟨min filling.frontIndent column, column, rest, 0⟩
  else
    let matched := common filling.front rest
    if matched = filling.front.length then
      let (behind, rest) := blanks (column + matched) (rest.drop matched)
      ⟨column, behind, rest, matched⟩
    else ⟨column, column + matched, rest.drop matched, matched⟩

def takes (filling : Filling) (line : Line) : Bool :=
  !line.rest.isEmpty && filling.frontIndent ≤ line.outer &&
    line.outer + filling.frontLength ≤ line.column

/-- The words of a line, which stand at a column; `count` is a bound on their number. -/
def wordsOf (uniform : Bool) : (count : Nat) → (column : Nat) → Text → List Word
  | 0, _, _ => []
  | _, _, [] => []
  | count + 1, column, c :: rest =>
    let text := c :: rest.takeWhile fun d => !isGap d
    let (behind, rest) := blanks (column + text.length) ((c :: rest).drop text.length)
    let body := text.reverse
    let inner := (body.dropLast.dropWhile ")]\x27\x22".toList.contains) ++ body.getLast?.toList
    let period := inner.head?.any ".?!".toList.contains
    let space := behind - (column + text.length)
    let last := rest.isEmpty
    let final := period && (last || 1 < space)
    let isPunct (d : Char) : Bool := '!' ≤ d && d ≤ '~' && !d.isAlphanum
    { text
      space := if last || uniform then (if final then 2 else 1) else space
      opens := "([\x27\x60\x22".toList.contains c
      punct := body.head?.any isPunct
      period, final } :: wordsOf uniform count behind rest

def square (n : Int) : Int := n * n

/-- A way to break the words from one on: its costs, the words of its first line and their length,
and whether that is the last line. -/
structure Way where
  cost : Int
  count : Nat
  length : Nat
  ends : Bool

/-- The costs of starting a line with a word, by the words before it, the nearest first. -/
def startCost (word : Word) (before : List Word) : Int :=
  let byEnd : Int := match before with
    | [] => 0
    | last :: others =>
      if last.period then if last.final then -square 50 else square 600
      else if last.punct then -square 40
      else if others.head?.any (·.final) && 1 < before.length then
        square 200 / (last.text.length + 2)
      else 0
  let byStart : Int :=
    if word.opens then -square 40
    else if word.final then square 150 / (word.text.length + 2)
    else 0
  square 70 + byEnd + byStart

/-- The costs of a line of a length, given the way to break what is behind it. -/
def lineCost (filling : Filling) (length : Nat) : Option Way → Int
  | none => 0
  | some next =>
    let short := square (((filling.goal : Int) - length) * 10)
    short + if next.ends then 0
      else square (((length : Int) - next.length) * 10) / 2

/-- A new way if it costs less than the one before. -/
def Way.orBetter (old : Option Way) (new : Way) : Way :=
  match old with
  | some old => if new.cost < old.cost then new else old
  | none => new

/-- The best of some ways to end a line that starts with a word: the line may hold `count` words, of
a length together, and more of those behind. -/
def bestEnd (filling : Filling) (count length : Nat) (last : Word) (old : Option Way) :
    List Word → List Way → Way
  | words, ways =>
    let cost := filling.lineCost length ways.head? + (ways.head?.elim 0 (·.cost))
    let best := Way.orBetter old ⟨cost, count, length, ways.isEmpty⟩
    match words, ways with
    | word :: words, _ :: ways =>
      let length := length + last.space + word.text.length
      if length < filling.width then bestEnd filling (count + 1) length word (some best) words ways
      else best
    | _, _ => best

/-- The best ways to break the words from each of some words on; `before` are the words before them,
the nearest first, and `indent` and `others` the columns of the first line and of others. -/
def ways (filling : Filling) (indent others : Nat) : List Word → List Word → List Way
  | _, [] => []
  | before, word :: rest =>
    let behind := filling.ways indent others (word :: before) rest
    let start := if before.isEmpty then indent else others
    let way := filling.bestEnd 1 (start + word.text.length) word none rest behind
    { way with cost := way.cost + startCost word before } :: behind

/-- Spaces up to a column, with tabs if there are tabs in the text. -/
def gap (tabs : Bool) (column goal : Nat) : Text :=
  let stop := goal / 8 * 8
  if tabs ∧ column + 1 < stop then
    List.replicate (stop / 8 - column / 8) '\t' ++ List.replicate (goal - stop) ' '
  else List.replicate (goal - column) ' '

def written (filling : Filling) (tabs : Bool) (outer indent : Nat) (words : List Word) : Text :=
  let front := gap tabs 0 outer ++ filling.front
  let column := outer + filling.front.length
  let body := (words.zipIdx 1).foldl (fun (t, column) (word, n) =>
    let behind := column + word.text.length
    if n = words.length then (t ++ word.text, behind)
    else (t ++ word.text ++ gap tabs behind (behind + word.space), behind + word.space))
    (front ++ gap tabs column indent, max column indent)
  body.1 ++ ['\n']

/-- The lines that words are broken into, given the best ways to do so. -/
def brokenLines (filling : Filling) (tabs : Bool) (outer others : Nat) :
    Nat → Nat → List Word → List Way → Text
  | 0, _, _, _ => []
  | _, _, [], _ => []
  | fuel + 1, indent, words, ways =>
    let count := max 1 ((ways.head?.map Way.count).getD words.length)
    filling.written tabs outer indent (words.take count) ++
      filling.brokenLines tabs outer others fuel others (words.drop count) (ways.drop count)

def paragraph (filling : Filling) (tabs : Bool) (outer indent others : Nat) (words : List Word) :
    Text :=
  let words := match words.reverse with
    | last :: before => ({ last with period := true, final := true } :: before).reverse
    | [] => []
  filling.brokenLines tabs outer others (words.length + 1) indent words
    (filling.ways indent others [] words)

def copied (filling : Filling) (tabs ended : Bool) (line : Line) : Text :=
  let front :=
    if line.outer < line.column ∨ !line.rest.isEmpty then
      let column := line.outer + line.matched
      gap tabs 0 line.outer ++ filling.front.take line.matched ++
        (if line.rest.isEmpty then [] else gap tabs column line.column)
    else []
  front ++ line.rest ++
    if ended ∨ (line.rest.isEmpty ∧ line.outer + filling.front.length ≤ line.column ∧
      line.outer < line.column) then ['\n'] else []

/-- The lines behind the first one of a paragraph that belong to it, the column of its second line,
and the lines behind it. -/
def members (filling : Filling) (first : Line) (otherIndent : Nat) (rest : List Line) :
    List Line × Nat × List Line :=
  let belongs (line : Line) : Bool := filling.takes line && line.outer == first.outer
  let next := rest.head?.filter belongs
  let within (column : Nat) (rest : List Line) : List Line × List Line :=
    rest.span fun line => belongs line && line.column == column
  match filling.shape, next with
  | .split, _ => ([], first.column, rest)
  | .plain, _ =>
    let (own, behind) := within first.column rest
    (own, first.column, behind)
  | .crown, some second =>
    let (own, behind) := within second.column rest
    (own, second.column, behind)
  | .crown, none => ([], first.column, rest)
  | .tagged, next =>
    let second := next.filter (·.column ≠ first.column)
    match second with
    | some second =>
      let (own, behind) := within second.column rest
      (own, second.column, behind)
    | none =>
      let column := if otherIndent ≠ first.column then otherIndent
        else if first.column = 0 then 3 else 0
      ([], column, rest)

/-- Lines with their paragraphs filled; `ended` says whether the last line has an end. -/
def filled (filling : Filling) (tabs ended : Bool) : Nat → (otherIndent : Nat) → List Line → Text
  | 0, _, _ => []
  | _, _, [] => []
  | fuel + 1, otherIndent, line :: rest =>
    if !filling.takes line then
      filling.copied tabs (ended || !rest.isEmpty) line ++
        filling.filled tabs ended fuel otherIndent rest
    else
      let (own, others, behind) := filling.members line otherIndent rest
      let words := (line :: own).flatMap fun line =>
        wordsOf filling.uniform (line.rest.length + 1) line.column line.rest
      filling.paragraph tabs line.outer line.column others words ++
        filling.filled tabs ended fuel others behind

def of (filling : Filling) (t : Text) : Text :=
  let lines := (linesOf t).map filling.lineOf
  filling.filled (t.contains '\t') (Text.endsWith "\n" t) (lines.length + 1) 0 lines

def ofOptions (options : Options) : Except Misuse Filling := do
  let number (letter : Char) (what : Text) : Except Misuse (Option Nat) :=
    (options.value? letter).mapM fun value =>
      match whole? value with
      | some n => if n ≤ 2500 then .ok n
        else refuse ((Misuse.badValue what value).words ++ ": Numerical result out of range")
      | none => .error (.badValue what value)
  let given ← number 'w' "width"
  let obsolete ← number 'n' "width"
  let goal ← number 'g' "goal width"
  let width := (given.or obsolete).getD ((goal.map (· + 10)).getD 75)
  if goal.any (width < ·) then
    .error (.other [(Misuse.badValue "goal width" (valueOr options 'g' [])).words ++
      ": Numerical result out of range"] false)
  let front := valueOr options 'p' []
  let own := front.dropWhile (· = ' ')
  return {
    width
    goal := goal.getD (width * 187 / 200)
    shape := if options.has 's' then .split else if options.has 'c' then .crown
      else if options.has 't' then .tagged else .plain
    uniform := options.has 'u'
    front := raw (own.reverse.dropWhile (· = ' ')).reverse
    frontIndent := front.length - own.length
    frontLength := (raw own).length }

end Filling

end Agenda.Shell.Filter
