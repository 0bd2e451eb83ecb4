/-
# Reading declarations

Items can be declared inside blocks: functions, modules, types, traits and their implementations.
A declaration of a shape that only macros make sense of is kept as it stands.
-/
import QueryChain.Syntax.ExprPhrase
import QueryChain.Syntax.FieldPhrase
import QueryChain.Syntax.SignaturePhrase

namespace QueryChain

/-! ## Kept as it stands -/

/-- Reads a declaration; nothing means that its tokens are kept as they stand, since an earlier
point. -/
def Reader.orVerbatim (before : List Token) (inner : Reader (Option Code)) : Reader Code := do
  match ← inner with
  | some code => return code
  | none => Reader.verbatimSince before

/-- Whether a path to a macro can start here. -/
def startsMacroPath (tokens : List Token) : Bool :=
  startsName tokens || startsAny ["self", "super", "crate", "::"] tokens

/-- What a path to a macro can start with. -/
def macroStarts : List String :=
  ["identifier", ticked "self", ticked "super", ticked "crate", ticked "::"]

section

variable (below : Grammar)

/-! ## Uses -/

/-- What is brought in by a path; nothing if a path in it is kept as it stands.  `root` tells
whether a path may start with `::` here; the words it starts with are counted out then. -/
def readUseTree : (depth : Nat) → (root : Bool) → Reader (Option Code)
  | 0, _ => Reader.complain "nested too deeply"
  | depth + 1, root => do
      let tokens ← get
      if startsName tokens || startsAny ["self", "super", "crate", "try"] tokens then
        let start := Code.name (← Reader.anyName)
        if ← Reader.take? "::" then
          return (← readUseTree depth false).map (start ++ Code.name "::" ++ ·)
        else if ← Reader.take? "as" then
          unless startsName (← get) || starts "_" (← get) do
            Reader.expected "expected identifier or underscore"
          return some (start ++ Code.name "as" ++ Code.name (← Reader.anyName))
        else return some start
      else if starts "*" tokens then return some (← Reader.code "*")
      else if startsGroup .brace tokens then
        let trees ← Reader.group .brace <| Reader.commas atEnd do
          let absolute ← if root then Reader.take? "::" else pure false
          let tree ← readUseTree depth (root && !absolute)
          return if absolute then none else tree
        if trees.any (·.1.isNone) then return none
        return some (Code.braces (withCommas (trees.map fun (tree, comma) =>
          (tree.getD [], comma))))
      else
        Reader.expectedOneOf
          (["identifier", ticked "self", ticked "super", ticked "crate", ticked "try",
            ticked "*", "curly braces"])

/-- What is brought in under its own name or another. -/
def readUse : Reader (Option Code) := do
  let vis ← readVisibility
  let start ← Reader.code "use"
  let front ← Reader.code? "::"
  let tree ← readUseTree ((← get).length + 1) front.isEmpty
  let stop ← Reader.code ";"
  return tree.map (vis ++ start ++ front ++ · ++ stop)

/-! ## Functions -/

/-- A function with its body; without one it is kept as it stands. -/
def readFunction : Reader (Option Code) := do
  let vis ← readVisibility
  let default ← Reader.code? "default"
  let (signature, _) ← readSignature below false
  if ← Reader.take? ";" then return none
  return some (vis ++ default ++ signature ++ (← readBody below))

/-! ## Values -/

/-- A value that lives as long as the program. -/
def readStatic : Reader (Option Code) := do
  let vis ← readVisibility
  let start := (← Reader.code "static") ++ (← Reader.code? "mut")
  let name ← Reader.name
  if ← Reader.take? "=" then
    let _ ← below.expr true
    Reader.take ";"
    return none
  let colon ← Reader.code ":"
  let ty ← below.type true
  if ← Reader.take? ";" then return none
  let equals ← Reader.code "="
  let value ← below.expr true
  return some (vis ++ start ++ Code.name name ++ colon ++ ty.code ++ equals ++ value.code
    ++ (← Reader.code ";"))

/-- A constant, and whether it has a value and neither parameters nor conditions. -/
def readConstant : Reader (Code × Bool × Bool) := do
  let start ← Reader.code "const"
  let tokens ← get
  unless startsName tokens || starts "_" tokens do
    Reader.expectedOneOf ["identifier", ticked "_"]
  let name ← Reader.anyName
  let (angled, _) ← readGenerics below
  let colon ← Reader.code ":"
  let ty ← below.type true
  let value ←
    if ← Reader.take? "=" then do pure (Code.name "=" ++ (← below.expr true).code)
    else pure []
  let conditions ← readWhere below
  let stop ← Reader.code ";"
  return (start ++ Code.name name ++ colon ++ ty.code ++ value ++ stop, !value.isEmpty,
    !angled && conditions.isNone)

/-! ## Types -/

/-- Bounds joined by `+` until the end shows. -/
def readBoundsUpTo (isEnd : List Token → Bool) : Reader Code :=
  Reader.many (!isEnd ·) do
    let bound ← below.bound { constant := true }
    let plus ← if isEnd (← get) then pure [] else Reader.code "+"
    return bound.code ++ plus

/-- Where conditions on the parameters of a type can stand. -/
inductive ConditionsPlace where
  | beforeEquals
  | afterEquals
  | both
  deriving DecidableEq

/-- A named type.  `bounds` tells whether a colon with bounds is given, and `definition` holds
what it stands for. -/
structure NamedType where
  start : Code
  bounds : Option Code
  definition : Code
  conditions : Code

/-- A named type, with bounds, conditions and a definition if they are given. -/
def readNamedType (place : ConditionsPlace) : Reader NamedType := do
  let start ← Reader.code "type"
  let name ← Reader.name
  let (_, generics) ← readGenerics below
  let bounds ←
    if ← Reader.take? ":" then some <$> readBoundsUpTo below (startsAny ["where", "=", ";"])
    else pure none
  let before ← if place = .afterEquals then pure none else readWhere below
  let definition ←
    if ← Reader.take? "=" then do pure (Code.name "=" ++ (← below.type true).code)
    else pure []
  let after ← if place = .beforeEquals || before.isSome then pure none else readWhere below
  Reader.take ";"
  return ⟨start ++ Code.name name ++ generics, bounds, definition, (before.or after).getD []⟩

/-- Another name for a type. -/
def readTypeAlias : Reader (Option Code) := do
  let vis ← readVisibility
  let t ← readNamedType below .beforeEquals
  if t.bounds.isSome || t.definition.isEmpty then return none
  return some (vis ++ t.start ++ t.conditions ++ t.definition ++ Code.name ";")

/-- What a structure consists of, from behind its parameters. -/
def readStructBody : Reader Code := do
  let conditions ← readWhere below
  let tokens ← get
  let before := conditions.getD []
  let tried := if conditions.isNone then [ticked "where", "parentheses"] else []
  if conditions.isNone && startsGroup .paren tokens then
    let fields ← readUnnamedFieldsCode below
    let after ← readWhere below
    unless starts ";" (← get) do
      Reader.expectedOneOf (if after.isNone then [ticked "where", ticked ";"] else [ticked ";"])
    return fields ++ after.getD [] ++ (← Reader.code ";")
  else if startsGroup .brace tokens then return before ++ (← readNamedFieldsCode below)
  else if starts ";" tokens then return before ++ (← Reader.code ";")
  else Reader.expectedOneOf (tried ++ ["curly braces", ticked ";"])

/-- A structure, an enumeration or a union. -/
def readDataType : Reader Code := do
  let vis ← readVisibility
  let keyword ← Reader.anyName
  let name ← Reader.name
  let (_, generics) ← readGenerics below
  let start := vis ++ Code.name keyword ++ Code.name name ++ generics
  if keyword == "struct" then return start ++ (← readStructBody below)
  let conditions ← readWhereCode below
  let body ← if keyword == "enum" then readVariants below else readNamedFieldsCode below
  return start ++ conditions ++ body

/-! ## Macros -/

/-- The call of a macro in the place of a declaration; in the place of an item it may be given a
name to define. -/
def readMacroCall (named : Bool) : Reader Code := do
  let path ← readNames
  let mark ← Reader.code "!"
  let tokens ← get
  let name ←
    if named && (starts "try" tokens || startsName tokens) then
      do pure (Code.name (← Reader.anyName))
    else pure []
  let tokens ← get
  let body ← Reader.anyGroup
  let stop ← if startsGroup .brace tokens then pure [] else Reader.code ";"
  return path.code ++ mark ++ name ++ body ++ stop

/-- The definition of a macro by a keyword, which is kept as it stands. -/
def readMacroDefinition : Reader Unit := do
  let _ ← readVisibility
  Reader.take "macro"
  let _ ← Reader.name
  let inputs := startsGroup .paren (← get)
  if inputs then
    let _ ← Reader.anyGroup
  unless startsGroup .brace (← get) do
    Reader.expectedOneOf (if inputs then ["curly braces"] else ["parentheses", "curly braces"])
  let _ ← Reader.anyGroup

/-! ## Foreign items -/

/-- What can start a declaration inside of another one. -/
def memberStarts (first : List String) (isMacro : Bool) : List String :=
  first.map ticked ++ if isMacro then macroStarts else []

/-- A foreign function. -/
def readForeignFunction : Reader (Option Code) := do
  let vis ← readVisibility
  let (signature, marked) ← readSignature below true
  if startsGroup .brace (← get) then
    let _ ← readBody below
    return none
  let stop ← Reader.code ";"
  return if marked then none else some (vis ++ signature ++ stop)

/-- A foreign value. -/
def readForeignStatic : Reader (Option Code) := do
  let vis ← readVisibility
  let unmarked := starts "static" (← get)
  unless unmarked do Reader.skip 1
  let start := (← Reader.code "static") ++ (← Reader.code? "mut")
  let name ← Reader.name
  let colon ← Reader.code ":"
  let ty ← below.type true
  let hasValue ← Reader.take? "="
  if hasValue then
    let _ ← below.expr true
  let stop ← Reader.code ";"
  return if unmarked && !hasValue then
    some (vis ++ start ++ Code.name name ++ colon ++ ty.code ++ stop) else none

/-- A foreign type. -/
def readForeignType : Reader (Option Code) := do
  let vis ← readVisibility
  let t ← readNamedType below .both
  if t.bounds.isSome || !t.definition.isEmpty then return none
  return some (vis ++ t.start ++ t.conditions ++ Code.name ";")

/-- The tokens behind what tells who can see an item. -/
def behindVisibility : Reader (List Token) := do
  let before ← get
  let _ ← readVisibility
  let behind ← get
  set before
  return behind

/-- One foreign item. -/
def readForeignItem : Reader Code := do
  let before ← get
  let attrs ← readOuter below
  let tokens ← get
  let ahead ← behindVisibility
  let hidden := ahead.length == tokens.length
  Reader.orVerbatim before do
    let code ←
      if startsSignature true ahead then readForeignFunction below
      else if starts "static" ahead
          || startsAny ["unsafe", "safe"] ahead && starts "static" (ahead.drop 1) then
        readForeignStatic below
      else if starts "type" ahead then readForeignType below
      else if hidden && startsMacroPath ahead then some <$> readMacroCall false
      else do
        set ahead
        Reader.expectedOneOf (memberStarts ["fn", "static", "type"] hidden)
    return code.map (attrs ++ ·)

/-- Foreign items with their calling convention. -/
def readForeignItems : Reader Code := do
  let start := (← Reader.code? "unsafe")
  unless starts "extern" (← get) do Reader.take "extern"
  let abi ← readAbi
  let items ← Reader.enclosed .brace do
    let inner ← readInner below
    return inner ++ (← Reader.many (!atEnd ·) (readForeignItem below))
  return start ++ abi ++ items

/-- A foreign library. -/
def readForeignLibrary : Reader Code := do
  let vis ← readVisibility
  let start := (← Reader.code "extern") ++ (← Reader.code "crate")
  let name ← if starts "self" (← get) then Reader.anyName else Reader.name
  let rename ←
    if ← Reader.take? "as" then do
      let name ← if starts "_" (← get) then Reader.anyName else Reader.name
      pure (words "as" ++ Code.name name)
    else pure []
  return vis ++ start ++ Code.name name ++ rename ++ (← Reader.code ";")

/-! ## Modules -/

/-- A module with its items, or without them. -/
def readModule : Reader Code := do
  let vis ← readVisibility
  let start := (← Reader.code? "unsafe") ++ (← Reader.code "mod")
  let name ← if starts "try" (← get) then Reader.anyName else Reader.name
  let tokens ← get
  let body ←
    if starts ";" tokens then Reader.code ";"
    else if startsGroup .brace tokens then
      Reader.enclosed .brace do
        let inner ← readInner below
        return inner ++ (← Reader.many (!atEnd ·) below.item)
    else Reader.expectedOneOf [ticked ";", "curly braces"]
  return vis ++ start ++ Code.name name ++ body

/-! ## Traits -/

/-- Words in front of a function that can follow the word for constants. -/
def functionMarks : List String := ["async", "unsafe", "extern", "fn"]

/-- A function of a trait, with a body or without one. -/
def readTraitFunction : Reader Code := do
  let (signature, _) ← readSignature below false
  let tokens ← get
  if startsGroup .brace tokens then return signature ++ (← readBody below)
  else if starts ";" tokens then return signature ++ (← Reader.code ";")
  else Reader.expectedOneOf ["curly braces", ticked ";"]

/-- A constant of a trait. -/
def readTraitConstant : Reader (Option Code) := do
  let tokens := (← get).drop 1
  unless startsName tokens || starts "_" tokens do
    Reader.skip 1
    Reader.expectedOneOf (["identifier", ticked "_"] ++ functionMarks.map ticked)
  let (code, _, plain) ← readConstant below
  return if plain then some code else none

/-- A type of a trait. -/
def readTraitType : Reader Code := do
  let t ← readNamedType below .afterEquals
  let bounds := t.bounds.getD []
  let colon := if bounds.isEmpty then [] else Code.name ":"
  return t.start ++ colon ++ bounds ++ t.definition ++ t.conditions ++ Code.name ";"

/-- One item of a trait.  It is kept as it stands if it says who can see it or that it can be
replaced. -/
def readTraitItem : Reader Code := do
  let before ← get
  let attrs ← readOuter below
  let vis ← readVisibility
  let default ← Reader.code? "default"
  let plain := vis.isEmpty && default.isEmpty
  let tokens ← get
  let second := tokens.drop 1
  Reader.orVerbatim before do
    let code ←
      if startsSignature false tokens
          || starts "const" tokens && startsAny functionMarks second then
        some <$> readTraitFunction below
      else if starts "const" tokens then readTraitConstant below
      else if starts "type" tokens then some <$> readTraitType below
      else if plain && startsMacroPath tokens then some <$> readMacroCall false
      else Reader.expectedOneOf (memberStarts ["fn", "const", "type"] plain)
    return if plain then code.map (attrs ++ ·) else none

/-- The items of a trait or an implementation, with attributes in front of them. -/
def readMembers (member : Reader Code) : Reader Code :=
  Reader.enclosed .brace do
    let inner ← readInner below
    return inner ++ (← Reader.many (!atEnd ·) member)

/-- A trait; an unmarked one can be another name for others. -/
def readTraitOrAlias (unmarked : Bool) : Reader Code := do
  let vis ← readVisibility
  let marks := (← Reader.code? "unsafe") ++ (← Reader.code? "auto")
  let start := vis ++ marks ++ (← Reader.code "trait")
  let name ← Reader.name
  let (_, generics) ← readGenerics below
  let start := start ++ Code.name name ++ generics
  let tokens ← get
  if unmarked && starts "=" tokens then
    let equals ← Reader.code "="
    let bounds ← readBoundsUpTo below (startsAny ["where", ";"])
    let conditions ← readWhereCode below
    return start ++ equals ++ bounds ++ conditions ++ (← Reader.code ";")
  let goesOn := startsGroup .brace tokens || startsAny [":", "where"] tokens
  unless !unmarked || goesOn do
    Reader.expectedOneOf ["curly braces", ticked ":", ticked "where", ticked "="]
  let supertraits ← readColonBounds
    (readBoundsUpTo below fun tokens => starts "where" tokens || startsGroup .brace tokens)
  let conditions ← readWhereCode below
  return start ++ supertraits ++ conditions ++ (← readMembers below (readTraitItem below))

/-! ## Implementations -/

/-- A constant with its value; with parameters or without a value it is kept as it stands. -/
def readConstantItem : Reader (Option Code) := do
  let start := (← readVisibility) ++ (← Reader.code? "default")
  let (code, hasValue, plain) ← readConstant below
  return if hasValue && plain then some (start ++ code) else none

/-- A type that belongs to an implementation. -/
def readAssociatedType : Reader (Option Code) := do
  let start := (← readVisibility) ++ (← Reader.code? "default")
  let t ← readNamedType below .afterEquals
  if t.bounds.isSome || t.definition.isEmpty then return none
  return some (start ++ t.start ++ t.definition ++ t.conditions ++ Code.name ";")

/-- One item of an implementation. -/
def readImplItem : Reader Code := do
  let before ← get
  let attrs ← readOuter below
  let tokens ← get
  let ahead ← behindVisibility
  let hidden := ahead.length == tokens.length
  let replaceable := starts "default" ahead && !starts "!" (ahead.drop 1)
  let inside := if replaceable then ahead.drop 1 else ahead
  let plain := hidden && !replaceable
  Reader.orVerbatim before do
    let code ←
      if startsSignature false inside then readFunction below
      else if starts "const" inside then readConstantItem below
      else if starts "type" inside then readAssociatedType below
      else if plain && startsMacroPath inside then some <$> readMacroCall false
      else do
        set inside
        let first := if replaceable then [] else ["default"]
        Reader.expectedOneOf (memberStarts (first ++ ["fn", "const", "type"]) plain)
    return code.map (attrs ++ ·)

/-- An implementation for a type, of a trait or by itself.  One that says who can see it, is for
constant use or is of something else than a trait is kept as it stands. -/
def readImplementation : Reader (Option Code) := do
  let vis ← readVisibility
  let default ← Reader.code? "default"
  let safety ← Reader.code? "unsafe"
  let mark ← Reader.code "impl"
  let (_, generics) ←
    if startsParameters (← get) then readGenerics below else pure (false, [])
  let tokens ← get
  let constant := starts "const" tokens || starts "?" tokens && starts "const" (tokens.drop 1)
  if constant then
    let _ ← Reader.take? "?"
    Reader.take "const"
  let before ← get
  let negative ←
    if startsGroup .brace (before.drop 1) then pure [] else Reader.code? "!"
  let first ← below.type true
  let start := default ++ safety ++ mark ++ generics
  let (head, ofType) ←
    if ← Reader.take? "for" then do
      let self ← below.type true
      pure (negative ++ first.code ++ Code.name "for" ++ self.code, !first.isUnqualified)
    else if negative.isEmpty then pure (first.code, false)
    else do pure (← Reader.verbatimSince before, false)
  let conditions ← readWhereCode below
  let members ← readMembers below (readImplItem below)
  return if constant || ofType || !vis.isEmpty then none
    else some (start ++ head ++ conditions ++ members)

/-! ## Items by their first token -/

/-- A foreign library, or foreign items, from what stands behind the first word. -/
def readForeign (behind : List Token) : Reader Code := do
  let named := startsText behind
  if starts "crate" behind then readForeignLibrary
  else if startsGroup .brace (if named then behind.drop 1 else behind) then
    readForeignItems below
  else
    set (if named then behind.drop 1 else behind)
    Reader.expectedOneOf
      (if named then ["curly braces"] else [ticked "crate", "curly braces", "string literal"])

/-- An unsafe item that is no function, from what stands behind the first word. -/
def readUnsafe (behind : List Token) : Reader (Option Code) := do
  if starts "trait" behind || starts "auto" behind && starts "trait" (behind.drop 1) then
    some <$> readTraitOrAlias below false
  else if starts "impl" behind then readImplementation below
  else if starts "extern" behind then some <$> readForeignItems below
  else if starts "mod" behind then some <$> readModule below
  else
    set behind
    Reader.expectedOneOf (["trait", "auto", "impl", "extern", "mod"].map ticked)

/-- Words that an item can start with. -/
def itemWords : List String :=
  ["fn", "extern", "use", "static", "const", "unsafe", "mod", "type", "struct", "enum", "union",
   "trait", "auto", "impl", "default", "macro"]

/-- An item behind its attributes; nothing if it is kept as it stands. -/
def readItemBody : Reader (Option Code) := do
  let tokens ← get
  let ahead ← behindVisibility
  let hidden := ahead.length == tokens.length
  let second := behindTree ahead
  if startsSignature false ahead then readFunction below
  else if starts "extern" ahead then some <$> readForeign below second
  else if starts "use" ahead then readUse
  else if starts "static" ahead then readStatic below
  else if starts "const" ahead then readConstantItem below
  else if starts "unsafe" ahead then readUnsafe below second
  else if starts "mod" ahead then some <$> readModule below
  else if starts "type" ahead then readTypeAlias below
  else if startsAny ["struct", "enum"] ahead || starts "union" ahead && startsName second then
    some <$> readDataType below
  else if starts "trait" ahead then some <$> readTraitOrAlias below true
  else if starts "auto" ahead && starts "trait" second then
    some <$> readTraitOrAlias below false
  else if starts "impl" ahead || starts "default" ahead && !starts "!" second then
    readImplementation below
  else if starts "macro" ahead then
    readMacroDefinition
    return none
  else if hidden && startsMacroPath ahead then some <$> readMacroCall true
  else
    set ahead
    Reader.expectedOneOf (memberStarts itemWords hidden)

/-- An item. -/
def readItemCode : Reader Code := do
  let before ← get
  let attrs ← readOuter below
  Reader.orVerbatim before do return (← readItemBody below).map (attrs ++ ·)

end

end QueryChain
