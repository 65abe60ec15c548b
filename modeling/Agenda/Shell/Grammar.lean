import Agenda.Shell.Token

/-!
# Reading scripts

The grammar of scripts: lists of pipelines, and the compound commands. Words that open or close a
compound command are such only where a command may start. Where the tokens do not fit, the token at
hand is named, and the one that would have fitted if there is only one.
-/

namespace Agenda.Shell

/-- The words that close a part of a compound command. -/
def closers : List Text :=
  ["then", "else", "elif", "fi", "do", "done", "esac", "\x7d"]

/-- The words with a meaning of their own where a command may start. -/
def keywords : List Text :=
  closers ++ ([("!" : Text), "case", "for", "if", "in", "until", "while", "\x7b"])

def redirections : List Text := ["<", ">", ">>", "<<", ">&", "<&", "<>", ">|"]

def inMarks (t : Text) : Text := '\x22' :: t ++ ['\x22']

def tokenName : List Token → Text
  | [] => "end of file"
  | .operator t :: _ =>
    if t = ['\n'] then "newline"
    else if redirections.contains t then "redirection"
    else inMarks t
  | .word w :: _ =>
    match literal? w with
    | some t => if keywords.contains t then inMarks t else "word"
    | none => "word"
  | .stream _ :: _ => "redirection"
  | .sum _ :: _ => inMarks "("
  | .list _ _ :: _ => "word"

/-- What is said about tokens that do not fit, and the number of line ends behind them. -/
structure Misfit where
  words : Text
  linesLeft : Nat

/-- Something is wrong with the first of some tokens. -/
def Misfit.at (words : Text) (tokens : List Token) : Misfit :=
  let behind := if (tokens.headD (.stream 0)).endsLine then tokens.tail else tokens
  ⟨words, behind.countP Token.endsLine⟩

/-- A reading of some tokens, or what is said about those that do not fit. -/
abbrev Reading (α : Type) := Except Misfit α

/-- The tokens behind a redirection that lacks its word, if they start with one. -/
def behindBareRedirect (tokens : List Token) : List Token :=
  let behind := match tokens with
    | .stream _ :: rest => rest
    | tokens => tokens
  match behind with
  | .operator o :: rest =>
    match rest with
    | .word _ :: _ => tokens
    | rest => if redirections.contains o then rest else tokens
  | _ => tokens

/-- The first of some tokens does not fit. -/
def unexpected {α : Type} (tokens : List Token) : Reading α :=
  let tokens := behindBareRedirect tokens
  .error (.at (tokenName tokens ++ " unexpected") tokens)

/-- The first of some tokens does not fit, and some other one would. -/
def expecting {α : Type} (expected : Text) (tokens : List Token) : Reading α :=
  .error (.at (tokenName tokens ++ " unexpected (expecting " ++ inMarks expected ++ ")") tokens)

def bareWord? : List Token → Option Text
  | .word w :: _ => literal? w
  | _ => none

/-- Tokens behind a bare word, if they start with it. -/
def afterWord? (t : Text) : List Token → Option (List Token)
  | .word w :: rest => if literal? w = some t then some rest else none
  | _ => none

def afterOperator? (t : Text) : List Token → Option (List Token)
  | .operator o :: rest => if o = t then some rest else none
  | _ => none

/-- Tokens behind a bare word that they have to start with. -/
def demandWord (t : Text) (tokens : List Token) : Reading (List Token) :=
  match afterWord? t tokens with
  | some rest => .ok rest
  | none => expecting t tokens

def demandOperator (t : Text) (tokens : List Token) : Reading (List Token) :=
  match afterOperator? t tokens with
  | some rest => .ok rest
  | none => expecting t tokens

/-- Tokens behind the line feeds that they start with. -/
def skipLines (tokens : List Token) : List Token := tokens.dropWhile Token.endsLine

/-- The operators behind an arm of a choice. -/
def armEnds : List (Text × ArmEnd) := [(";;", .stop), (";&", .fallThrough), (";;&", .goOn)]

def endsList (tokens : List Token) : Bool :=
  match tokens with
  | [] => true
  | .operator o :: _ => o == [')'] || (armEnds.lookup o).isSome
  | tokens => (bareWord? tokens).any closers.contains

/-- The direction that an operator stands for, with the stream that it is about by default. -/
def direction? (operator : Text) : Option (Direction × Nat) :=
  if operator = "<".toList then some (.read, 0)
  else if operator = ">".toList then some (.write, 1)
  else if operator = ">|".toList then some (.renew, 1)
  else if operator = ">>".toList then some (.append, 1)
  else if operator = "<>".toList then some (.update, 0)
  else if operator = ">&".toList then some (.same, 1)
  else if operator = "<&".toList then some (.same, 0)
  else if operator = "<<".toList then some (.inner, 0)
  else none

def redirect? : List Token → Option (Redirect × List Token)
  | .stream n :: .operator o :: .word target :: rest =>
    (direction? o).map fun (direction, _) => (⟨n, direction, target⟩, rest)
  | .operator o :: .word target :: rest =>
    (direction? o).map fun (direction, stream) => (⟨stream, direction, target⟩, rest)
  | _ => none

def redirects : Nat → List Token → List Redirect × List Token
  | 0, tokens => ([], tokens)
  | fuel + 1, tokens =>
    match redirect? tokens with
    | none => ([], tokens)
    | some (redirect, rest) =>
      let (others, rest) := redirects fuel rest
      (redirect :: others, rest)

def withRedirects (body : Command) : List Redirect → Command
  | [] => body
  | redirects => .redirected body redirects

/-- The assignment that a word makes: a name, an equals sign and a value. -/
def assignment? (word : Word) : Option (Text × Word) :=
  match word with
  | .plain false t :: parts =>
    match Text.cutAt? '=' t with
    | some (name, value) =>
      if name ≠ [] ∧ name.all isNameChar ∧ !(name.headD '0').isDigit then
        some (name, if value.isEmpty then parts else .plain false value :: parts)
      else none
    | none => none
  | _ => none

/-- The words, assignments and redirections of a simple command, and the lists of values in it with
whether these are added to others. -/
structure SimpleParts where
  assignments : List (Text × Word) := []
  words : List Word := []
  redirects : List Redirect := []
  lists : List (Text × Bool × List Word) := []

/-- The words of a list of values up to its end; it may go on for several lines. -/
def listWords : List Token → List Word × List Token
  | .word word :: rest =>
    let (words, rest) := listWords rest
    (word :: words, rest)
  | .operator ['\n'] :: rest => listWords rest
  | .operator [')'] :: rest => ([], rest)
  | tokens => ([], tokens)

/-- Reads the words of a simple command behind its first one. -/
def simpleWords : Nat → List Token → SimpleParts × List Token
  | 0, tokens => ({}, tokens)
  | fuel + 1, tokens =>
    match redirect? tokens with
    | some (redirect, rest) =>
      let (parts, rest) := simpleWords fuel rest
      ({ parts with redirects := redirect :: parts.redirects }, rest)
    | none =>
      match tokens with
      | .word word :: rest =>
        let (parts, rest) := simpleWords fuel rest
        ({ parts with words := word :: parts.words }, rest)
      | .list name adds :: rest =>
        let (values, rest) := listWords rest
        let (parts, rest) := simpleWords fuel rest
        ({ parts with
          words := [.plain false name] :: parts.words
          lists := (name, adds, values) :: parts.lists }, rest)
      | tokens => ({}, tokens)

/-- Reads a simple command. Assignments stand before the first word. -/
def simpleParts : Nat → List Token → SimpleParts × List Token
  | 0, tokens => ({}, tokens)
  | fuel + 1, tokens =>
    match redirect? tokens with
    | some (redirect, rest) =>
      let (parts, rest) := simpleParts fuel rest
      ({ parts with redirects := redirect :: parts.redirects }, rest)
    | none =>
      match tokens with
      | .word word :: rest =>
        match assignment? word with
        | some assignment =>
          let (parts, rest) := simpleParts fuel rest
          ({ parts with assignments := assignment :: parts.assignments }, rest)
        | none =>
          let (parts, rest) := simpleWords fuel rest
          ({ parts with words := word :: parts.words }, rest)
      | .list name adds :: rest =>
        let (values, rest) := listWords rest
        let (parts, rest) := simpleParts fuel rest
        ({ parts with lists := (name, adds, values) :: parts.lists }, rest)
      | tokens => ({}, tokens)

/-- The words up to the next operator. -/
def wordList : List Token → List Word × List Token
  | .word word :: rest =>
    let (words, rest) := wordList rest
    (word :: words, rest)
  | tokens => ([], tokens)

def plainToken : Token → Word
  | .word word => word
  | .operator t => [.plain false t]
  | _ => []

/-- The patterns of an arm, which bars part, up to the closing parenthesis. -/
def armPatterns : List Token → Reading (List Word × List Token)
  | token :: .operator o :: rest =>
    if o = [')'] then .ok ([plainToken token], rest)
    else if o = ['|'] then
      (armPatterns rest).map fun (words, rest) => (plainToken token :: words, rest)
    else expecting ")" (.operator o :: rest)
  | tokens =>
    expecting ")" (match tokens.tail with
      | .word _ :: rest => .word [] :: rest
      | rest => rest)

/-- Reads a simple command; there has to be something. -/
def readSimple (tokens : List Token) : Reading (Command × List Token) :=
  let (parts, rest) := simpleParts tokens.length tokens
  let linesLeft := tokens.countP Token.endsLine
  let command :=
    withRedirects (.simple linesLeft parts.assignments parts.words) parts.redirects
  let lists := parts.lists.map fun (name, adds, values) => Command.setList name adds values
  match parts.words.isEmpty && parts.assignments.isEmpty && parts.redirects.isEmpty, lists with
  | true, [] => unexpected tokens
  | true, first :: others => .ok (others.foldl .sequence first, rest)
  | false, lists => .ok (lists.foldl .sequence command, rest)

/-- The words up to the next part of a question, joined to one. -/
def joinedWords : List Token → Word × List Token
  | [] => ([], [])
  | token :: rest =>
    let ends : Bool := match token with
      | .operator o => o == ['&', '&'] || o == ['|', '|'] || o == ['\n']
      | .word w => literal? w == some [']', ']']
      | _ => true
    if ends then ([], token :: rest)
    else
      let (word, rest) := joinedWords rest
      (plainToken token ++ word, rest)

mutual

/-- Reads a question, or some of which one has to be answered with yes. -/
def readQuestion : Nat → List Token → Reading (Question × List Token)
  | 0, tokens => unexpected tokens
  | fuel + 1, tokens => do
    let (first, rest) ← readQuestions fuel tokens
    match afterOperator? "||" rest with
    | some rest =>
      let (second, rest) ← readQuestion fuel (skipLines rest)
      return (.either first second, rest)
    | none => return (first, rest)

def readQuestions : Nat → List Token → Reading (Question × List Token)
  | 0, tokens => unexpected tokens
  | fuel + 1, tokens => do
    let (first, rest) ← readAnswer fuel tokens
    match afterOperator? "&&" rest with
    | some rest =>
      let (second, rest) ← readQuestions fuel (skipLines rest)
      return (.both first second, rest)
    | none => return (first, rest)

def readAnswer : Nat → List Token → Reading (Question × List Token)
  | 0, tokens => unexpected tokens
  | fuel + 1, tokens =>
    match tokens with
    | .operator ['('] :: rest => do
      let (question, rest) ← readQuestion fuel rest
      return (question, ← demandOperator ")" rest)
    | .word first :: rest =>
      if literal? first = some ['!'] then do
        let (question, rest) ← readAnswer fuel rest
        return (.not question, rest)
      else match literal? first, rest with
        | some ['-', letter], .word operand :: rest =>
          if literal? operand = some [']', ']'] then .ok (.isFilled first, .word operand :: rest)
          else .ok (.one letter operand, rest)
        | _, .word sign :: .word second :: rest =>
          match literal? sign with
          | some sign =>
            if sign = [']', ']'] then .ok (.isFilled first, .word [.plain false sign] ::
              .word second :: rest)
            else if sign = ['=', '~'] then
              let (word, rest) := joinedWords (.word second :: rest)
              .ok (.two sign first word, rest)
            else .ok (.two sign first second, rest)
          | none => unexpected rest
        | _, .word sign :: rest =>
          if literal? sign = some ['=', '~'] then
            let (word, rest) := joinedWords rest
            .ok (.two ['=', '~'] first word, rest)
          else .ok (.isFilled first, .word sign :: rest)
        | _, .operator sign :: .word second :: rest =>
          if sign = ['<'] ∨ sign = ['>'] then .ok (.two sign first second, rest)
          else .ok (.isFilled first, .operator sign :: .word second :: rest)
        | _, rest => .ok (.isFilled first, rest)
    | tokens => unexpected tokens

end

mutual

def readList : Nat → List Token → Reading (Command × List Token)
  | 0, tokens => unexpected tokens
  | fuel + 1, tokens =>
    let tokens := skipLines tokens
    if endsList tokens then .ok (.nothing, tokens)
    else do
      let (first, rest) ← readChain fuel tokens
      match rest with
      | .operator o :: others =>
        if o = [';'] ∨ o = ['\n'] ∨ o = ['&'] then do
          let first := if o = ['&'] then .background first else first
          let (second, rest) ← readList fuel others
          return (.sequence first second, rest)
        else if endsList rest then return (first, rest)
        else unexpected rest
      | rest => if endsList rest then return (first, rest) else unexpected rest

/-- Reads commands up to the end of the list; there has to be one unless the script ends. -/
def readFilled : Nat → List Token → Reading (Command × List Token)
  | 0, tokens => unexpected tokens
  | fuel + 1, tokens =>
    let tokens := skipLines tokens
    if endsList tokens && !tokens.isEmpty then unexpected tokens else readList fuel tokens

/-- Reads pipelines of which each is run only if the one before has ended well, or badly. -/
def readChain : Nat → List Token → Reading (Command × List Token)
  | 0, tokens => unexpected tokens
  | fuel + 1, tokens => do
    let (first, rest) ← readPipeline fuel tokens
    readChainFrom fuel first rest

/-- Goes on with a chain of pipelines behind its first part. -/
def readChainFrom : Nat → Command → List Token → Reading (Command × List Token)
  | 0, _, tokens => unexpected tokens
  | fuel + 1, first, tokens =>
    match afterOperator? "&&" tokens, afterOperator? "||" tokens with
    | some rest, _ => do
      let (second, rest) ← readPipeline fuel (skipLines rest)
      readChainFrom fuel (.both first second) rest
    | _, some rest => do
      let (second, rest) ← readPipeline fuel (skipLines rest)
      readChainFrom fuel (.either first second) rest
    | none, none => .ok (first, tokens)

def readPipeline : Nat → List Token → Reading (Command × List Token)
  | 0, tokens => unexpected tokens
  | fuel + 1, tokens =>
    match afterWord? "!" tokens with
    | some rest =>
      if (afterWord? "!" rest).isSome then unexpected rest
      else do
        let (body, rest) ← readPipeline fuel rest
        return (.negated body, rest)
    | none => do
      let (first, rest) ← readCommand fuel tokens
      match afterOperator? "|" rest with
      | some others => do
        let (second, rest) ← readPipeline fuel (skipLines others)
        return (.pipe first second, rest)
      | none => return (first, rest)

def readCommand : Nat → List Token → Reading (Command × List Token)
  | 0, tokens => unexpected tokens
  | fuel + 1, tokens =>
    let redirected (found : Command × List Token) : Command × List Token :=
      let (all, rest) := redirects found.2.length found.2
      (withRedirects found.1 all, rest)
    match tokens with
    | .sum expression :: rest => .ok (redirected (.sum expression, rest))
    | .operator ['[', '['] :: rest => do
      let (question, rest) ← readQuestion fuel rest
      return redirected (.ask question, ← demandWord "]]" rest)
    | .operator ['f', 'u', 'n'] :: .word name :: rest => do
      let rest := ((afterOperator? "(" rest).bind (afterOperator? ")")).getD rest
      let (body, rest) ← readCommand fuel (skipLines rest)
      return (.define ((literal? name).getD []) body, rest)
    | _ =>
      match afterOperator? "(" tokens with
      | some rest => do
        let (body, rest) ← readFilled fuel rest
        let rest ← demandOperator ")" rest
        return redirected (.subshell body, rest)
      | none =>
        match bareWord? tokens, tokens.drop 1 with
        | some word, rest =>
          if word = "\x7b".toList then do
            let (body, rest) ← readFilled fuel rest
            let rest ← demandWord "\x7d" rest
            return redirected (body, rest)
          else if word = "if".toList then (readBranch fuel rest).map redirected
          else if word = "while".toList ∨ word = "until".toList then do
            let (condition, rest) ← readFilled fuel rest
            let (body, rest) ← readBody fuel rest
            return redirected (.loop (word = "until".toList) condition body, rest)
          else if word = "for".toList then (readEach fuel rest).map redirected
          else if word = "case".toList then (readChoice fuel rest).map redirected
          else if closers.contains word then unexpected tokens
          else readNamed fuel word tokens
        | none, _ => readNamed fuel [] tokens

def readNamed : Nat → (name : Text) → List Token → Reading (Command × List Token)
  | 0, _, tokens => unexpected tokens
  | fuel + 1, name, tokens =>
    match tokens with
    | .word word :: .operator ['('] :: rest =>
      if (assignment? word).isSome then readSimple tokens
      else do
        let rest ← demandOperator ")" rest
        let (body, rest) ← readCommand fuel (skipLines rest)
        return (.define name body, rest)
    | tokens => readSimple tokens

def readBody : Nat → List Token → Reading (Command × List Token)
  | 0, tokens => unexpected tokens
  | fuel + 1, tokens => do
    let rest ← demandWord "do" tokens
    let (body, rest) ← readFilled fuel rest
    let rest ← demandWord "done" rest
    return (body, rest)

def readBranch : Nat → List Token → Reading (Command × List Token)
  | 0, tokens => unexpected tokens
  | fuel + 1, tokens => do
    let (condition, rest) ← readFilled fuel tokens
    let rest ← demandWord "then" rest
    let (yes, rest) ← readFilled fuel rest
    match afterWord? "elif" rest, afterWord? "else" rest with
    | some others, _ => do
      let (no, rest) ← readBranch fuel others
      return (.branch condition yes no, rest)
    | none, some others => do
      let (no, rest) ← readFilled fuel others
      let rest ← demandWord "fi" rest
      return (.branch condition yes no, rest)
    | none, none => do
      let rest ← demandWord "fi" rest
      return (.branch condition yes .nothing, rest)

/-- Reads a loop over words, or one with expressions, behind its opening word. -/
def readEach : Nat → List Token → Reading (Command × List Token)
  | 0, tokens => unexpected tokens
  | fuel + 1, tokens =>
    match tokens with
    | .sum expression :: rest => do
      let rest := skipLines ((afterOperator? ";" rest).getD rest)
      let (body, rest) ← match afterWord? "\x7b" rest with
        | some rest => do
          let (body, rest) ← readFilled fuel rest
          pure (body, ← demandWord "\x7d" rest)
        | none => readBody fuel rest
      match expression.splitOn ';' with
      | [start, condition, step] => return (.count start condition step body, rest)
      | _ => unexpected tokens
    | tokens =>
      match bareWord? tokens with
      | none => .error (.at "Bad for loop variable" tokens)
      | some name =>
        if !(name.all isNameChar) ∨ (name.headD '0').isDigit then
          .error (.at "Bad for loop variable" tokens)
        else do
          let rest := skipLines (tokens.drop 1)
          let (words, rest) ← match afterWord? "in" rest with
            | some rest =>
              let (words, rest) := wordList rest
              if (afterOperator? ";" rest).isSome ∨ (rest.headD (.stream 0)).endsLine then
                pure (some words, rest)
              else unexpected rest
            | none => pure (none, rest)
          let rest := skipLines ((afterOperator? ";" rest).getD rest)
          let (body, rest) ← readBody fuel rest
          return (.each name words body, rest)

def readChoice : Nat → List Token → Reading (Command × List Token)
  | 0, tokens => unexpected tokens
  | fuel + 1, tokens =>
    match tokens with
    | .word word :: rest => do
      let rest ← demandWord "in" (skipLines rest)
      let (arms, rest) ← readArms fuel (skipLines rest)
      return (.choose word arms, rest)
    | tokens => .error (.at (tokenName tokens ++ " unexpected (expecting word)") tokens)

/-- Reads the arms of a choice up to its closing word. -/
def readArms :
    Nat → List Token → Reading (List (List Word × Command × ArmEnd) × List Token)
  | 0, tokens => unexpected tokens
  | fuel + 1, tokens =>
    match afterWord? "esac" tokens with
    | some rest => .ok ([], rest)
    | none => do
      let (patterns, rest) ← armPatterns ((afterOperator? "(" tokens).getD tokens)
      let (body, rest) ← readList fuel rest
      let ending? := armEnds.findSome? fun (operator, ending) =>
        (afterOperator? operator rest).map (ending, ·)
      if ending?.isNone ∧ (afterWord? "esac" rest).isNone then expecting ";;" rest
      else
        let (ending, rest) := ending?.getD (.stop, rest)
        let (arms, rest) ← readArms fuel (skipLines rest)
        return ((patterns, body, ending) :: arms, rest)

end

/-- Reads the commands of one line; a compound command may go on for several lines. Every chain of
pipelines takes at least one of the `fuel` tokens. -/
def readLine : Nat → List Token → Reading (Command × List Token)
  | 0, tokens => unexpected tokens
  | fuel + 1, tokens => do
    let (first, rest) ← readChain (10 * tokens.length + 10) tokens
    match rest with
    | [] => return (first, [])
    | .operator o :: others =>
      if o = ['\n'] then return (first, others)
      else if o = [';'] ∨ o = ['&'] then
        let first := if o = ['&'] then .background first else first
        match others with
        | [] => return (first, [])
        | .operator ['\n'] :: others => return (first, others)
        | others =>
          let (second, rest) ← readLine fuel others
          return (.sequence first second, rest)
      else unexpected rest
    | _ => unexpected rest

/-- What is said about something that was opened and not closed. -/
def Gap.message : Gap → Text
  | quote => "Unterminated quoted string"
  | ticks => "EOF in backquote substitution"
  | script => "end of file unexpected (expecting \x22)\x22)"
  | brace => "Missing '\x7d'"
  | sum => "Missing '))'"

/-- Tokens with the words replaced that stand for others at the start of a command, which `starts`
says to be here. A word is not replaced within what it stands for. -/
def withoutAliases (large : Bool) :
    Nat → List (Text × Text) → (starts : Bool) → List Token → List Token
  | 0, _, _, tokens => tokens
  | _ + 1, _, _, [] => []
  | fuel + 1, aliases, starts, token :: rest =>
    let keep (starts : Bool) : List Token :=
      token :: withoutAliases large fuel aliases starts rest
    match token with
    | .operator o => keep (!redirections.contains o && o != [')'])
    | .word word =>
      match starts, literal? word with
      | true, some t =>
        match aliases.lookup t with
        | some value =>
          let others := aliases.filter fun (name, _) => name ≠ t
          withoutAliases large fuel others true (tokensOf large false value) ++
            withoutAliases large fuel aliases (Text.endsWith " " value) rest
        | none => keep (Enclosure.openers.contains t)
      | true, none => keep (assignment? word).isSome
      | false, _ => keep false
    | _ => keep starts

/-- Lines until fewer line ends are left than given, one after the other, and what is left. A word
that stands for several lines makes more than one necessary. -/
def readLines (lines : Nat) : Nat → List Token → Reading (Command × List Token)
  | 0, tokens => return (.nothing, tokens)
  | fuel + 1, tokens => do
    let (first, rest) ← readLine tokens.length tokens
    if rest.isEmpty || rest.countP Token.endsLine < lines then return (first, rest)
    else
      let (second, rest) ← readLines lines fuel rest
      return (.sequence first second, rest)

/-- The next line of a script, and what is left of it. -/
def nextLine (large : Bool) (aliases : List (Text × Text)) (tokens : List Token) :
    Reading (Command × List Token) := do
  let replaced := if aliases.isEmpty then tokens
    else withoutAliases large (tokens.length * 4 + 16) aliases true tokens
  let found := if aliases.isEmpty then readLine replaced.length replaced
    else readLines (tokens.countP Token.endsLine) replaced.length replaced
  let taken := match found with
    | .ok (_, rest) => replaced.take (replaced.length - rest.length)
    | .error _ => replaced
  match taken.findSome? Token.gap?, found with
  | some gap, _ =>
    let open? := taken.findIdx? fun token => token.gap?.isSome
    throw (.at gap.message (replaced.drop (open?.getD 0)))
  | none, .error misfit => throw misfit
  | none, .ok (command, rest) =>
    let linesLeft := rest.countP Token.endsLine
    let taken := tokens.length - rest.length
    let rest := if aliases.isEmpty then tokens.drop taken
      else if rest.isEmpty then []
      else ((List.range (tokens.length + 1)).map tokens.drop).find? (fun rest =>
        rest.countP Token.endsLine = linesLeft) |>.getD []
    return (command, rest)

end Agenda.Shell
