/-
# Types of fields

Of a type it matters what its last name is, whether that name is applied to another type first,
and whether it stands in parentheses; all else is kept as code.
-/
import QueryChain.Code

namespace QueryChain

/-- A type.  `path` and `applied` are paths that end in a name with its arguments; `applied` has
a type as its first argument.  A group has no delimiters of its own.  A trait can stand for a type
by itself if it holds for all of some lifetimes. -/
inductive Ty where
  | path (front : Code) (name : String) (args : Code)
  | applied (front : Code) (name : String) (before : Code) (arg : Ty) (after : Code)
  | paren (inner : Ty)
  | group (inner : Ty)
  | trait (code : Code)
  | other (code : Code)
  deriving DecidableEq, Repr

namespace Ty

/-- The words of a type. -/
def code : Ty → Code
  | path front name args => front ++ .plain name :: args
  | applied front name before arg after => front ++ .plain name :: before ++ arg.code ++ after
  | paren inner => Code.parens inner.code
  | group inner => inner.code
  | trait code | other code => code

/-- Whether the type is a path that no other type stands in front of. -/
def isUnqualified : Ty → Bool
  | path front .. | applied front .. => front.head? != some (.plain "<")
  | _ => false

/-- A type that is one name. -/
def named (name : String) : Ty := path [] name []

end Ty

end QueryChain
