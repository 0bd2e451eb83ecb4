/-
# Paths

Names joined by `::` with their arguments.
-/
import QueryChain.Syntax.Attribute

namespace QueryChain

/-! ## Arguments -/

/-- An argument between angle brackets. -/
inductive GenericArg where
  | lifetime (code : Code)
  | type (ty : Ty)
  | other (code : Code)

/-- The words of an argument. -/
def GenericArg.code : GenericArg → Code
  | lifetime code => code
  | type ty => ty.code
  | other code => code

/-- Whether the argument is a lifetime. -/
def GenericArg.isLifetime : GenericArg → Bool
  | lifetime _ => true
  | _ => false

/-- Written arguments or parameters: lifetimes come first, and a comma is added where moving them
calls for one. -/
def lifetimesFirst {α : Type} (isLifetime : α → Bool) (args : List (α × Bool)) :
    List (α × Bool) :=
  let lifetimes := args.filter (isLifetime ·.1)
  let others := args.filter (!isLifetime ·.1)
  if others.isEmpty then lifetimes else lifetimes.map (fun (arg, _) => (arg, true)) ++ others

/-- Arguments of a name: none, in angle brackets, perhaps behind `::`, or the inputs and the
output of a function. -/
inductive PathArgs where
  | none
  | angled (colons : Bool) (args : List (GenericArg × Bool))
  | function (code : Code)

/-- A name with its arguments. -/
structure Segment where
  name : String
  args : PathArgs

/-- A path; `qualified` tells whether it starts with a type in angle brackets, and `front` holds
all words before the segments. -/
structure Path where
  qualified : Bool
  front : Code
  segments : List Segment

/-- The words of a name's arguments. -/
def PathArgs.code : PathArgs → Code
  | none => []
  | angled colons args =>
      (if colons then Code.name "::" else [])
        ++ Code.angles (withCommas
          ((lifetimesFirst GenericArg.isLifetime args).map fun (arg, comma) => (arg.code, comma)))
  | function code => code

/-- The words of a segment. -/
def Segment.code (s : Segment) : Code :=
  .plain s.name :: s.args.code

/-- The words of a path. -/
def Path.code (p : Path) : Code :=
  p.front ++ ((p.segments.map Segment.code).intersperse (Code.name "::")).flatten

/-- The type that a path names. -/
def Path.type (p : Path) : Ty :=
  match p.segments.getLast? with
  | none => .other p.front
  | some last =>
      let earlier := p.segments.dropLast.flatMap fun s => s.code ++ Code.name "::"
      match last.args with
      | .angled colons ((.type arg, comma) :: rest) =>
          let lifetimes := rest.filter (·.1.isLifetime)
          let others := rest.filter (!·.1.isLifetime)
          let before := (if colons then Code.name "::" else []) ++ Code.name "<"
            ++ withCommas (lifetimes.map fun (arg, _) => (arg.code, true))
          let after := (if comma then Code.name "," else [])
            ++ withCommas (others.map fun (arg, comma) => (arg.code, comma)) ++ Code.name ">"
          .applied (p.front ++ earlier) last.name before arg after
      | args => .path (p.front ++ earlier) last.name args.code

/-- Whether the path is made of names alone. -/
def Path.isPlain (p : Path) : Bool :=
  !p.qualified && p.segments.all fun s => s.args matches .none

section

variable (below : Grammar)

/-! ## Reading arguments -/

/-- A value among types: a literal, a name or a block. -/
def readConstArg : Reader Code := do
  let tokens ← get
  if startsLiteral tokens then return (← readLiteral).code
  else if startsName tokens then return Code.name (← Reader.name)
  else if startsGroup .brace tokens then readBody below
  else if atEnd tokens then Reader.complain "unexpected end of input"
  else Reader.complain "unexpected token"

/-- The name and arguments of a type that is a single segment, which can be the name of an
associated item. -/
def singleSegment? : Ty → Option Code
  | .path [] name args => some (.plain name :: args)
  | .applied [] name before arg after => some (Ty.applied [] name before arg after).code
  | _ => none

/-- An argument between angle brackets. -/
def readGenericArg : Reader GenericArg := do
  let startsValue (tokens : List Token) : Bool :=
    startsLiteral tokens || startsGroup .brace tokens
  let tokens ← get
  if startsLifetime tokens && !starts "+" (tokens.drop 2) then
    return .lifetime (← Reader.lifetime)
  else if startsValue tokens then
    return .other (← readConstArg below)
  else
    let ty ← below.type true
    match singleSegment? ty with
    | none => return .type ty
    | some item =>
        if ← Reader.take? "=" then
          let value ←
            if startsValue (← get) then readConstArg below else do pure (← below.type true).code
          return .other (item ++ Code.name "=" ++ value)
        else if ← Reader.take? ":" then
          let bounds ← Reader.joined (startsAny [",", ">"]) "+" do
            return (← below.bound { constant := true }).code
          return .other (item ++ Code.name ":" ++ bounds)
        else return .type ty

/-- Arguments in angle brackets. -/
def readAngled : Reader (List (GenericArg × Bool)) := do
  Reader.take "<"
  let args ← Reader.commas (starts ">") (readGenericArg below)
  Reader.take ">"
  return args

/-! ## Reading paths -/

/-- A name with arguments in angle brackets.  In an expression they stand behind `::`. -/
def readSegment (inExpr : Bool) : Reader Segment := do
  let tokens ← get
  if startsAny ["super", "self", "crate", "try"] tokens then
    return ⟨← Reader.anyName, .none⟩
  let name ← if starts "Self" tokens then Reader.anyName else Reader.name
  let tokens ← get
  if !inExpr && starts "<" tokens && !starts "<=" tokens then
    return ⟨name, .angled false (← readAngled below)⟩
  else if starts "::" tokens && starts "<" (tokens.drop 2) then
    Reader.take "::"
    return ⟨name, .angled true (← readAngled below)⟩
  else return ⟨name, .none⟩

/-- Further segments, each behind `::`, as long as more is to come. -/
def readSegments (inExpr : Bool) (more : List Token → Bool) : Reader (List Segment) :=
  Reader.repeatWhile (fun tokens => starts "::" tokens && more (tokens.drop 2)) do
    Reader.take "::"
    readSegment below inExpr

/-- A path without a type in front.  It ends before `::` with parentheses behind it. -/
def readPlainPath (inExpr : Bool) : Reader Path := do
  let front ← Reader.code? "::"
  let first ← readSegment below inExpr
  let further ← readSegments below inExpr fun tokens => !startsGroup .paren tokens
  return ⟨false, front, first :: further⟩

/-- A path, perhaps with a type in angle brackets in front. -/
def readPath (inExpr : Bool) : Reader Path := do
  unless ← Reader.take? "<" do return ← readPlainPath below inExpr
  let self ← below.type true
  let role ←
    if ← Reader.take? "as" then do
      pure (Code.name "as" ++ (← readPlainPath below false).code)
    else pure []
  Reader.take ">"
  Reader.take "::"
  let first ← readSegment below inExpr
  let further ← readSegments below inExpr fun _ => true
  return ⟨true, Code.angles (self.code ++ role) ++ Code.name "::", first :: further⟩

/-! ## Macros -/

/-- Whether the exclamation mark of a macro comes next. -/
def startsMacroMark (tokens : List Token) : Bool :=
  starts "!" tokens && !starts "!=" tokens

/-- The mark of a macro and its tokens. -/
def readMacroBody : Reader Code := do
  return (← Reader.code "!") ++ (← Reader.anyGroup)

end

end QueryChain
