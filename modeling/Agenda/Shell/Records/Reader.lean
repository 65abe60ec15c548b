import Agenda.Shell.Records.Syntax

/-!
# Reading record scripts

The grammar of record scripts. Two formulas side by side are joined; a greater sign in what is
printed leads to a file unless it stands in parentheses.
-/

namespace Agenda.Shell.Records

def afterSign? (t : Text) : List Token → Option (List Token)
  | .sign s :: rest => if s = t then some rest else none
  | _ => none

def behindWord? (t : Text) : List Token → Option (List Token)
  | .word w :: rest => if w = t then some rest else none
  | _ => none

def dropLines (tokens : List Token) : List Token := tokens.dropWhile (· = .lineEnd)

def dropEnds (tokens : List Token) : List Token :=
  tokens.dropWhile fun token => token = .lineEnd ∨ token = .sign [';']

/-- Whether a formula is one that a value can be given to. -/
def Formula.isPlace : Formula → Bool
  | .name _ | .element _ _ | .field _ => true
  | _ => false

/-- The signs of calculations that bind with some strength, from those that bind least. -/
def signsOf (greater : Bool) : Nat → List Text
  | 0 => ["||"]
  | 1 => ["&&"]
  | 2 => ["in"]
  | 3 => ["~", "!~"]
  | 4 => (["<", "<=", "==", "!=", ">="] : List Text) ++ if greater then [[ '>' ]] else []
  | 5 => []
  | 6 => ["+", "-"]
  | _ => ["*", "/", "%"]

def joined (sign : Text) (first second : Formula) : Formula :=
  if sign = "||".toList then .either first second
  else if sign = "&&".toList then .both first second
  else if sign = "in".toList then
    match second with
    | .name list => .holds [first] list
    | _ => .binary sign first second
  else if sign = "~".toList then .fits false first second
  else if sign = "!~".toList then .fits true first second
  else .binary sign first second

/-- Whether some tokens start a formula that is joined to the one before it. -/
def startsJoined : List Token → Bool
  | .number _ :: _ | .text _ :: _ | .pattern _ :: _ | .name _ :: _ | .caller _ :: _ => true
  | .word t :: _ => builtins.contains t
  | .sign t :: _ => t == ['$'] || t == ['('] || t == ['!'] || t == "++".toList || t == "--".toList
  | _ => false

mutual

def formula? : Nat → Bool → List Token → Option (Formula × List Token)
  | 0, _, _ => none
  | fuel + 1, greater, tokens => do
    let (first, rest) ← level? fuel 0 greater tokens
    match rest with
    | .sign sign :: more =>
      if sign = ['?'] then
        let (yes, rest) ← formula? fuel greater (dropLines more)
        let rest ← afterSign? ":" (dropLines rest)
        let (no, rest) ← formula? fuel greater (dropLines rest)
        return (.choice first yes no, rest)
      else if first.isPlace ∧ Text.endsWith "=" sign ∧
          (sign = ['='] ∨ "+-*/%^".toList.contains (sign.headD '=')) then
        let (value, rest) ← formula? fuel greater (dropLines more)
        return (.assign sign.dropLast first value, rest)
      else return (first, rest)
    | rest => return (first, rest)

/-- Reads a formula whose signs bind with some strength at least. -/
def level? : Nat → (level : Nat) → Bool → List Token → Option (Formula × List Token)
  | 0, _, _, _ => none
  | fuel + 1, level, greater, tokens =>
    if level ≤ 7 then do
      let (first, rest) ← level? fuel (level + 1) greater tokens
      more? fuel level greater first rest
    else unary? fuel tokens

/-- Goes on with a formula as long as there are signs of a strength behind it. -/
def more? : Nat → (level : Nat) → Bool → Formula → List Token → Option (Formula × List Token)
  | 0, _, _, _, _ => none
  | fuel + 1, level, greater, first, tokens =>
    let sign? : Option (Text × List Token) := match tokens with
      | .sign t :: rest | .word t :: rest => some (t, rest)
      | _ => none
    match sign? with
    | some (sign, rest) =>
      if level = 5 ∧ sign = ['|'] ∧ (behindWord? "getline" rest).isSome then
        let (place, rest) := place? fuel rest.tail
        more? fuel level greater (.readLine place (.command first)) rest
      else if (signsOf greater level).contains sign then do
        let (second, rest) ← level? fuel (level + 1) greater (dropLines rest)
        more? fuel level greater (joined sign first second) rest
      else if level = 5 ∧ startsJoined tokens then do
        let (second, rest) ← level? fuel 6 greater tokens
        more? fuel level greater (.binary [] first second) rest
      else some (first, tokens)
    | none =>
      if level = 5 ∧ startsJoined tokens then do
        let (second, rest) ← level? fuel 6 greater tokens
        more? fuel level greater (.binary [] first second) rest
      else some (first, tokens)

/-- Reads a formula with a sign before it. -/
def unary? : Nat → List Token → Option (Formula × List Token)
  | 0, _ => none
  | fuel + 1, tokens =>
    match afterSign? "!" tokens, afterSign? "-" tokens, afterSign? "+" tokens with
    | some rest, _, _ => (unary? fuel rest).map fun (inside, rest) => (.not inside, rest)
    | _, some rest, _ => (unary? fuel rest).map fun (inside, rest) => (.negative inside, rest)
    | _, _, some rest => (unary? fuel rest).map fun (inside, rest) => (.plain inside, rest)
    | none, none, none => do
      let (base, rest) ← counted? fuel tokens
      match afterSign? "^" rest with
      | some rest =>
        let (exponent, rest) ← unary? fuel rest
        return (.binary ['^'] base exponent, rest)
      | none => return (base, rest)

/-- Reads an operand that may be counted up or down. -/
def counted? : Nat → List Token → Option (Formula × List Token)
  | 0, _ => none
  | fuel + 1, tokens =>
    match afterSign? "++" tokens, afterSign? "--" tokens with
    | some rest, _ => (operand? fuel rest).map fun (place, rest) => (.count true true place, rest)
    | _, some rest => (operand? fuel rest).map fun (place, rest) => (.count true false place, rest)
    | none, none => do
      let (first, rest) ← operand? fuel tokens
      if first.isPlace then
        match afterSign? "++" rest, afterSign? "--" rest with
        | some rest, _ => return (.count false true first, rest)
        | _, some rest => return (.count false false first, rest)
        | none, none => return (first, rest)
      else return (first, rest)

/-- Reads the place that a line is read to, if there is one. -/
def place? : Nat → List Token → Option Formula × List Token
  | 0, tokens => (none, tokens)
  | fuel + 1, tokens =>
    match operand? fuel tokens with
    | some (place, rest) => if place.isPlace then (some place, rest) else (none, tokens)
    | none => (none, tokens)

def operand? : Nat → List Token → Option (Formula × List Token)
  | 0, _ => none
  | fuel + 1, tokens =>
    match tokens with
    | .number digits :: rest => some (.number (((decimalAt? digits).map (·.1)).getD 0), rest)
    | .text t :: rest => some (.text t, rest)
    | .pattern t :: rest => some (.pattern t, rest)
    | .name name :: rest =>
      match afterSign? "[" rest with
      | some rest => do
        let (index, rest) ← formulas? fuel true rest
        return (.element name index, ← afterSign? "]" rest)
      | none => some (.name name, rest)
    | .caller name :: rest => do
      let (arguments, rest) ← arguments? fuel rest
      return (.call name arguments, rest)
    | .word name :: rest =>
      if name = "getline".toList then do
        let (place, rest) := place? fuel rest
        match afterSign? "<" rest with
        | some rest =>
          let (path, rest) ← operand? fuel rest
          return (.readLine place (.file path), rest)
        | none => return (.readLine place .records, rest)
      else if !builtins.contains name then none
      else if (afterSign? "(" rest).isSome then do
        let (arguments, rest) ← arguments? fuel rest
        return (.call name arguments, rest)
      else if name = "length".toList then some (.call name [], rest)
      else none
    | .sign ['$'] :: rest =>
      let isCounted := (afterSign? "++" rest).isSome || (afterSign? "--" rest).isSome
      (if isCounted then counted? fuel rest else operand? fuel rest).map fun (index, rest) =>
        (.field index, rest)
    | .sign ['('] :: rest => do
      let (inside, rest) ← formulas? fuel true rest
      let rest ← afterSign? ")" rest
      match inside, behindWord? "in" rest with
      | index, some (.name list :: rest) => return (.holds index list, rest)
      | [inside], _ => return (.group inside, rest)
      | _, _ => none
    | _ => none

/-- Reads formulas with commas between them. -/
def formulas? : Nat → Bool → List Token → Option (List Formula × List Token)
  | 0, _, _ => none
  | fuel + 1, greater, tokens => do
    let (first, rest) ← formula? fuel greater tokens
    match afterSign? "," rest with
    | some rest =>
      let (others, rest) ← formulas? fuel greater (dropLines rest)
      return (first :: others, rest)
    | none => return ([first], rest)

def arguments? : Nat → List Token → Option (List Formula × List Token)
  | 0, _ => none
  | fuel + 1, tokens => do
    let rest ← afterSign? "(" tokens
    match afterSign? ")" rest with
    | some rest => return ([], rest)
    | none =>
      let (arguments, rest) ← formulas? fuel true rest
      return (arguments, ← afterSign? ")" rest)

end

def endsStep : List Token → Bool
  | [] | .lineEnd :: _ => true
  | .sign t :: _ => t == [';'] || t == ['\x7d']
  | _ => false

/-- Where what is printed goes. -/
def goal? (fuel : Nat) (tokens : List Token) : Option (Goal × List Token) :=
  match tokens with
  | .sign ['>'] :: rest =>
    (level? fuel 5 false rest).map fun (path, rest) => (.file false path, rest)
  | .sign ['>', '>'] :: rest =>
    (level? fuel 5 false rest).map fun (path, rest) => (.file true path, rest)
  | .sign ['|'] :: rest =>
    (level? fuel 5 false rest).map fun (script, rest) => (.command script, rest)
  | rest => if endsStep rest then some (.output, rest) else none

def printed? (fuel : Nat) (tokens : List Token) : Option (List Formula × Goal × List Token) :=
  let bare : Option (List Formula × Goal × List Token) := do
    let (values, rest) ← formulas? fuel false tokens
    let (goal, rest) ← goal? fuel rest
    return (values, goal, rest)
  let inside : Option (List Formula × Goal × List Token) := do
    let (values, rest) ← arguments? fuel tokens
    let (goal, rest) ← goal? fuel rest
    return (values, goal, rest)
  match goal? fuel tokens with
  | some (goal, rest) => some ([], goal, rest)
  | none => inside.or bare

/-- Reads an index in brackets, if there is one. -/
def index? (fuel : Nat) (tokens : List Token) : Option (Option (List Formula) × List Token) :=
  match afterSign? "[" tokens with
  | some rest => do
    let (index, rest) ← formulas? fuel true rest
    return (some index, ← afterSign? "]" rest)
  | none => some (none, tokens)

def simple? (fuel : Nat) (tokens : List Token) : Option (Step × List Token) :=
  let optional (rest : List Token) : Option (Option Formula × List Token) :=
    if endsStep rest then some (none, rest)
    else (formula? fuel true rest).map fun (value, rest) => (some value, rest)
  match tokens with
  | .word word :: rest =>
    if word = "print".toList then
      (printed? fuel rest).map fun (values, goal, rest) => (.print values goal, rest)
    else if word = "printf".toList then
      (printed? fuel rest).map fun (values, goal, rest) => (.format values goal, rest)
    else if word = "next".toList then some (.next, rest)
    else if word = "nextfile".toList then some (.nextFile, rest)
    else if word = "break".toList then some (.breaks, rest)
    else if word = "continue".toList then some (.continues, rest)
    else if word = "exit".toList then
      (optional rest).map fun (status, rest) => (.exit status, rest)
    else if word = "return".toList then
      (optional rest).map fun (value, rest) => (.gives value, rest)
    else if word = "delete".toList then
      match rest with
      | .name list :: rest => (index? fuel rest).map fun (index, rest) => (.delete list index, rest)
      | _ => none
    else (formula? fuel true tokens).map fun (formula, rest) => (.evaluate formula, rest)
  | tokens => (formula? fuel true tokens).map fun (formula, rest) => (.evaluate formula, rest)

mutual

def step? : Nat → List Token → Option (Step × List Token)
  | 0, _ => none
  | fuel + 1, tokens =>
    match tokens with
    | .sign ['\x7b'] :: rest => block? fuel rest
    | .sign [';'] :: rest => some (.nothing, rest)
    | .word word :: rest =>
      if word = "if".toList then do
        let (condition, rest) ← condition? fuel rest
        let (yes, rest) ← step? fuel (dropLines rest)
        match behindWord? "else" (dropEnds rest) with
        | some rest =>
          let (no, rest) ← step? fuel (dropLines rest)
          return (.branch condition yes no, rest)
        | none => return (.branch condition yes .nothing, rest)
      else if word = "while".toList then do
        let (condition, rest) ← condition? fuel rest
        let (body, rest) ← step? fuel (dropLines rest)
        return (.loop condition body .nothing, rest)
      else if word = "do".toList then do
        let (body, rest) ← step? fuel (dropLines rest)
        let rest ← behindWord? "while" (dropEnds rest)
        let (condition, rest) ← condition? fuel rest
        return (.sequence body (.loop condition body .nothing), rest)
      else if word = "for".toList then do
        let rest ← afterSign? "(" rest
        match rest with
        | .name name :: .word ['i', 'n'] :: .name list :: .sign [')'] :: rest =>
          let (body, rest) ← step? fuel (dropLines rest)
          return (.each name list body, rest)
        | rest =>
          let (start, rest) ← if (afterSign? ";" rest).isSome then some (.nothing, rest)
            else simple? fuel rest
          let rest ← afterSign? ";" rest
          let (condition, rest) ← if (afterSign? ";" rest).isSome then some (.number 1, rest)
            else formula? fuel true rest
          let rest ← afterSign? ";" rest
          let (behind, rest) ← if (afterSign? ")" rest).isSome then some (.nothing, rest)
            else simple? fuel rest
          let rest ← afterSign? ")" rest
          let (body, rest) ← step? fuel (dropLines rest)
          return (.sequence start (.loop condition body behind), rest)
      else ended? fuel tokens
    | tokens => ended? fuel tokens

def ended? : Nat → List Token → Option (Step × List Token)
  | 0, _ => none
  | fuel + 1, tokens => do
    let (step, rest) ← simple? fuel tokens
    match rest with
    | .sign [';'] :: rest | .lineEnd :: rest => return (step, rest)
    | rest => if endsStep rest then return (step, rest) else none

def condition? : Nat → List Token → Option (Formula × List Token)
  | 0, _ => none
  | fuel + 1, tokens => do
    let rest ← afterSign? "(" tokens
    let (condition, rest) ← formula? fuel true rest
    return (condition, ← afterSign? ")" rest)

/-- Reads steps up to behind the brace that closes them. -/
def block? : Nat → List Token → Option (Step × List Token)
  | 0, _ => none
  | fuel + 1, tokens => do
    let rest := dropEnds tokens
    match afterSign? "\x7d" rest with
    | some rest => return (.nothing, rest)
    | none =>
      let (first, rest) ← step? fuel rest
      let (others, rest) ← block? fuel rest
      return (.sequence first others, rest)

end

def parameters? : List Token → Option (List Text × List Token)
  | .sign [')'] :: rest => some ([], rest)
  | .name name :: .sign [','] :: rest =>
    (parameters? (dropLines rest)).map fun (others, rest) => (name :: others, rest)
  | .name name :: .sign [')'] :: rest => some ([name], rest)
  | _ => none
termination_by tokens => tokens.length
decreasing_by
  have : (dropLines rest).length ≤ rest.length := (List.dropWhile_sublist _).length_le
  simp only [List.length_cons]
  omega

/-- When a rule applies, up to its body. -/
def scope? (fuel : Nat) (tokens : List Token) : Option (Scope × List Token) :=
  match tokens with
  | .sign ['\x7b'] :: _ => some (.always, tokens)
  | tokens =>
    match behindWord? "BEGIN" tokens, behindWord? "END" tokens with
    | some rest, _ => some (.start, rest)
    | _, some rest => some (.stop, rest)
    | none, none => do
      let (first, rest) ← formula? fuel true tokens
      match afterSign? "," rest with
      | some rest =>
        let (last, rest) ← formula? fuel true (dropLines rest)
        return (.between first last, rest)
      | none => return (.on first, rest)

/-- Reads the rules and functions of a script. -/
def script? : Nat → List Token → Option Script
  | 0, _ => none
  | fuel + 1, tokens =>
    match dropEnds tokens with
    | [] => some ⟨[], []⟩
    | tokens =>
      match (behindWord? "function" tokens).or (behindWord? "func" tokens) with
      | some (.caller name :: .sign ['('] :: rest) | some (.name name :: .sign ['('] :: rest) => do
        let (parameters, rest) ← parameters? rest
        let rest ← afterSign? "\x7b" (dropLines rest)
        let (body, rest) ← block? fuel rest
        let script ← script? fuel rest
        return { script with functions := (name, ⟨parameters, body⟩) :: script.functions }
      | some _ => none
      | none => do
        let (scope, rest) ← scope? fuel tokens
        let (body, rest) ← match rest with
          | .sign ['\x7b'] :: rest => block? fuel rest
          | rest =>
            if endsStep rest then some (.print [] .output, rest) else none
        let script ← script? fuel rest
        return { script with rules := ⟨scope, body⟩ :: script.rules }

def read? (t : Text) : Option Script :=
  (tokens? t).bind fun tokens => script? (40 * tokens.length + 40) tokens

end Agenda.Shell.Records
