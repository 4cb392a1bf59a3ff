import ApiScreens.Override.Token

/-! What an override may say: outputs, loops, branches and assignments over expressions. Operators bind
as in arithmetic; filters and tests bind tightest, after attributes and indices. -/
namespace ApiScreens.Override
open Json (Numeral)

inductive Operator where
  | add | sub | mul | div | floorDiv | rem | pow | join
  | eq | ne | lt | le | gt | ge | member | both | either
  deriving DecidableEq, Repr

inductive Expr where
  | variable (name : String)
  | constant (v : Json.Value)
  | list (items : List Expr)
  | attribute (e : Expr) (name : String)
  | index (e key : Expr)
  | negate (e : Expr)
  | not (e : Expr)
  | binary (op : Operator) (left right : Expr)
  | filter (e : Expr) (name : String) (arguments : List Expr)
  | test (e : Expr) (name : String) (arguments : List Expr)
  | choice (condition yes : Expr) (no : Option Expr)
  deriving Repr

inductive Node where
  | plain (s : String)
  | output (e : Expr)
  | each (targets : List String) (source : Expr) (only : Option Expr) (body otherwise : List Node)
  | branch (condition : Expr) (yes no : List Node)
  | assign (name : String) (e : Expr)
  deriving Repr

def expect (t : Token) : List Token → Option (List Token)
  | [] => none
  | s :: rest => if s = t then some rest else none

def sums : List (Token × Operator) := [(.symbol "+", .add), (.symbol "-", .sub)]
def joins : List (Token × Operator) := [(.symbol "~", .join)]
def products : List (Token × Operator) :=
  [(.symbol "*", .mul), (.symbol "/", .div), (.symbol "//", .floorDiv), (.symbol "%", .rem)]
def powers : List (Token × Operator) := [(.symbol "**", .pow)]
def comparisons : List (Token × Operator) :=
  [(.symbol "==", .eq), (.symbol "!=", .ne), (.symbol "<", .lt), (.symbol "<=", .le),
   (.symbol ">", .gt), (.symbol ">=", .ge), (.name "in", .member)]
def conjunctions : List (Token × Operator) := [(.name "and", .both)]
def disjunctions : List (Token × Operator) := [(.name "or", .either)]

def constantOf : String → Option Json.Value
  | "true" | "True" => some (.bool true)
  | "false" | "False" => some (.bool false)
  | "none" | "None" => some .null
  | _ => none

def reserved : List String := ["and", "or", "not", "in", "if", "else", "is"]

mutual
def readExpr : Nat → List Token → Option (Expr × List Token)
  | 0, _ => none
  | fuel + 1, ts => do
      let (e, rest) ← readChain disjunctions fuel ts
      match rest with
      | .name "if" :: more => do
          let (condition, rest) ← readChain disjunctions fuel more
          match rest with
          | .name "else" :: more => do
              let (no, rest) ← readExpr fuel more
              some (.choice condition e (some no), rest)
          | rest => some (.choice condition e none, rest)
      | rest => some (e, rest)
def readChain (ops : List (Token × Operator)) : Nat → List Token → Option (Expr × List Token)
  | 0, _ => none
  | fuel + 1, ts => do
      let (e, rest) ← readOperand ops fuel ts
      readMore ops e fuel rest
def readMore (ops : List (Token × Operator)) (left : Expr) : Nat → List Token → Option (Expr × List Token)
  | 0, _ => none
  | fuel + 1, ts =>
      match ts with
      | .name "not" :: .name "in" :: more =>
          if ops = comparisons then do
            let (right, rest) ← readOperand ops fuel more
            readMore ops (.not (.binary .member left right)) fuel rest
          else some (left, ts)
      | t :: more =>
          match ops.lookup t with
          | some op => do
              let (right, rest) ← readOperand ops fuel more
              readMore ops (.binary op left right) fuel rest
          | none => some (left, ts)
      | [] => some (left, [])
def readOperand (ops : List (Token × Operator)) : Nat → List Token → Option (Expr × List Token)
  | 0, _ => none
  | fuel + 1, ts =>
      if ops = disjunctions then readChain conjunctions fuel ts
      else if ops = conjunctions then readNot fuel ts
      else if ops = comparisons then readChain sums fuel ts
      else if ops = sums then readChain joins fuel ts
      else if ops = joins then readChain products fuel ts
      else if ops = products then readChain powers fuel ts
      else readUnary fuel ts
def readNot : Nat → List Token → Option (Expr × List Token)
  | 0, _ => none
  | fuel + 1, ts =>
      match ts with
      | .name "not" :: more => (readNot fuel more).map fun (e, rest) => (.not e, rest)
      | _ => readChain comparisons fuel ts
def readUnary : Nat → List Token → Option (Expr × List Token)
  | 0, _ => none
  | fuel + 1, ts => do
      let (e, rest) ← readSigned fuel ts
      let (e, rest) ← readAccess e fuel rest
      readFilters e fuel rest
def readSigned : Nat → List Token → Option (Expr × List Token)
  | 0, _ => none
  | fuel + 1, ts =>
      match ts with
      | .symbol "-" :: more => (readSigned fuel more).map fun (e, rest) => (.negate e, rest)
      | _ => readPrimary fuel ts
def readPrimary : Nat → List Token → Option (Expr × List Token)
  | 0, _ => none
  | fuel + 1, ts =>
      match ts with
      | .text s :: rest => some (.constant (.string s), rest)
      | .number n :: rest => some (.constant (.number n), rest)
      | .name s :: rest =>
          match constantOf s with
          | some v => some (.constant v, rest)
          | none => if s ∈ reserved then none else some (.variable s, rest)
      | .symbol "(" :: more => do
          let (e, rest) ← readExpr fuel more
          some (e, ← expect (.symbol ")") rest)
      | .symbol "[" :: more => do
          let (items, rest) ← readItems (.symbol "]") fuel more
          some (.list items, rest)
      | _ => none
def readItems (close : Token) : Nat → List Token → Option (List Expr × List Token)
  | 0, _ => none
  | fuel + 1, ts =>
      match expect close ts with
      | some rest => some ([], rest)
      | none => do
          let (e, rest) ← readExpr fuel ts
          match rest with
          | .symbol "," :: more =>
              (readItems close fuel more).map fun (es, rest) => (e :: es, rest)
          | rest => some ([e], ← expect close rest)
def readAccess (e : Expr) : Nat → List Token → Option (Expr × List Token)
  | 0, _ => none
  | fuel + 1, ts =>
      match ts with
      | .symbol "." :: .name s :: more => readAccess (.attribute e s) fuel more
      | .symbol "." :: .number (.integer n) :: more =>
          readAccess (.index e (.constant (.number (.integer n)))) fuel more
      | .symbol "." :: _ => none
      | .symbol "[" :: more => do
          let (key, rest) ← readExpr fuel more
          readAccess (.index e key) fuel (← expect (.symbol "]") rest)
      | _ => some (e, ts)
def readFilters (e : Expr) : Nat → List Token → Option (Expr × List Token)
  | 0, _ => none
  | fuel + 1, ts =>
      match ts with
      | .symbol "|" :: .name s :: .symbol "(" :: more => do
          let (arguments, rest) ← readItems (.symbol ")") fuel more
          readFilters (.filter e s arguments) fuel rest
      | .symbol "|" :: .name s :: more => readFilters (.filter e s []) fuel more
      | .symbol "|" :: _ => none
      | .name "is" :: .name "not" :: more => do
          let (t, rest) ← readTest e fuel more
          readFilters (.not t) fuel rest
      | .name "is" :: more => do
          let (t, rest) ← readTest e fuel more
          readFilters t fuel rest
      | _ => some (e, ts)
def readTest (e : Expr) : Nat → List Token → Option (Expr × List Token)
  | 0, _ => none
  | fuel + 1, ts =>
      match ts with
      | .name s :: .symbol "(" :: more => do
          let (arguments, rest) ← readItems (.symbol ")") fuel more
          some (.test e s arguments, rest)
      | .name s :: more => some (.test e s [], more)
      | _ => none
end

def wholeExpr (ts : List Token) : Option Expr :=
  match readExpr (32 * ts.length + 32) ts with
  | some (e, []) => some e
  | _ => none

def readTargets (ts : List Token) : Option (List String × List Token) :=
  let names := ts.takeWhile (· != .name "in")
  let inner := match names with
    | .symbol "(" :: more => more.dropLast
    | more => more
  let rec plain : List Token → Option (List String)
    | [.name s] => some [s]
    | .name s :: .symbol "," :: more => if more = [] then some [s] else (plain more).map (s :: ·)
    | _ => none
  (plain inner).bind fun targets =>
    (expect (.name "in") (ts.dropWhile (· != .name "in"))).map (targets, ·)

def readLoop (ts : List Token) : Option (List String × Expr × Option Expr) := do
  let (targets, rest) ← readTargets ts
  let fuel := 32 * rest.length + 32
  let (source, rest) ← readChain disjunctions fuel rest
  match rest with
  | [] => some (targets, source, none)
  | .name "if" :: more => some (targets, source, some (← wholeExpr more))
  | _ => none

mutual
def readNodes : Nat → List Piece → Option (List Node × Option (String × List Token) × List Piece)
  | 0, _ => none
  | fuel + 1, pieces =>
      match pieces with
      | [] => some ([], none, [])
      | .statement (.name "endfor" :: ts) :: more => some ([], some ("endfor", ts), more)
      | .statement (.name "endif" :: ts) :: more => some ([], some ("endif", ts), more)
      | .statement (.name "else" :: ts) :: more => some ([], some ("else", ts), more)
      | .statement (.name "elif" :: ts) :: more => some ([], some ("elif", ts), more)
      | piece :: more => do
          let (node, rest) ← readNode fuel piece more
          let (nodes, last, rest) ← readNodes fuel rest
          some (node :: nodes, last, rest)
def readNode : Nat → Piece → List Piece → Option (Node × List Piece)
  | 0, _, _ => none
  | fuel + 1, piece, more =>
      match piece with
      | .plain cs => some (.plain (String.ofList cs), more)
      | .output ts => (wholeExpr ts).map fun e => (.output e, more)
      | .statement (.name "for" :: ts) => do
          let (targets, source, only) ← readLoop ts
          let (body, last, rest) ← readNodes fuel more
          let (otherwise, last, rest) ←
            if last = some ("else", []) then readNodes fuel rest else some ([], last, rest)
          if last = some ("endfor", []) then some (.each targets source only body otherwise, rest)
          else none
      | .statement (.name "if" :: ts) => do readBranch fuel (← wholeExpr ts) more
      | .statement (.name "set" :: .name s :: .symbol "=" :: ts) =>
          (wholeExpr ts).map fun e => (.assign s e, more)
      | .statement _ => none
def readBranch : Nat → Expr → List Piece → Option (Node × List Piece)
  | 0, _, _ => none
  | fuel + 1, condition, pieces => do
      let (yes, last, rest) ← readNodes fuel pieces
      match last with
      | some ("endif", []) => some (.branch condition yes [], rest)
      | some ("else", []) =>
          let (no, last, rest) ← readNodes fuel rest
          if last = some ("endif", []) then some (.branch condition yes no, rest) else none
      | some ("elif", ts) =>
          let (next, rest) ← readBranch fuel (← wholeExpr ts) rest
          some (.branch condition yes [next], rest)
      | _ => none
end

def parse (source : String) : Option (List Node) := do
  let pieces ← pieces source
  match ← readNodes (3 * pieces.length + 3) pieces with
  | (nodes, none, []) => some nodes
  | _ => none

end ApiScreens.Override
