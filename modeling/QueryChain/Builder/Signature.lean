/-
# Declarations of methods
-/
import QueryChain.Code

namespace QueryChain

/-- The executor of a generated type.  Its name is unlikely to be that of a field's type. -/
def executorParam : Code := words "__QsExecutor"

/-- A path into the library that generated code calls. -/
def libraryPath (path : String) : Code := words ":: queryset_core ::" ++ words path

/-- The handle that a generated type wraps. -/
def handleType : Code := libraryPath "Db" ++ Code.angles executorParam

/-- Documentation of what follows. -/
def docAttr (text : String) : Code :=
  words "#" ++ Code.brackets (words "doc =" ++ Code.literal text)

/-- The result of a query. -/
def resultOf (type : Code) : Code :=
  libraryPath "QueryResult"
    ++ Code.angles (type ++ words "," ++ executorParam ++ words ":: Error")

/-- A call of one of the handle's methods. -/
def handleCall (method : String) (args : List Code) : Code :=
  words "self . db ." ++ words method ++ Code.parens (Code.commaSeparated args)

/-- A call that runs a query, which may name the type of its rows. -/
def awaitedCall (method : String) (rows : Option Code) (args : List Code) : Code :=
  let typeArg := match rows with
    | some type => words "::" ++ Code.angles type
    | none => []
  words "self . db ." ++ words method ++ typeArg ++ Code.parens (Code.commaSeparated args)
    ++ words ". await"

/-- Runs a query for its effect alone. -/
def discarding (call : Code) : Code :=
  call ++ words "? ; :: core :: result :: Result :: Ok" ++ Code.parens (Code.parens [])

/-- The builder around another handle. -/
def wrapped (handle : Code) : Code :=
  words "Self" ++ Code.braces (words "db :" ++ handle)

/-- A method as it is declared. -/
structure Signature where
  doc : String
  name : String
  args : List Code
  output : Code
  body : Code
  conditions : Code := []
  isAsync : Bool := false

/-- The declaration of a method.  One that only goes on with the chain must be used. -/
def Signature.code (s : Signature) : Code :=
  let start := if s.isAsync then words "pub async fn" else words "# [ must_use ] pub fn"
  docAttr s.doc ++ start ++ Code.name s.name
    ++ Code.parens (Code.commaSeparated (words "self" :: s.args)) ++ words "->" ++ s.output
    ++ s.conditions ++ Code.braces s.body

end QueryChain
