import VarDecl.Primitive

/-!
# Names and type names

* `isIdentifier` is the grammar of variable names: an ASCII letter or underscore, then letters,
  digits and underscores;
* `isGenericType` allows one bracketed suffix after the name, as in a list type;
* `isTypeName` is what the grammar stage accepts as a type: a primitive type, a text that starts
  like a primitive type with a bracketed suffix, or a generic type.

A last newline is not part of a name and is passed over, as by `Text.atEnd`.
-/

namespace VarDecl.Name

open Text

/-- A letter or underscore followed by word characters. -/
def isIdentifier : Text → Bool
  | [] => false
  | c :: r => isNameStart c && atEnd (r.dropWhile isWordChar)

@[simp] theorem isIdentifier_nil : isIdentifier [] = false := rfl

/-- The end of a type name, or one suffix from `<` to the first `>` and then the end. -/
def isGenericSuffix : Text → Bool
  | '<' :: r =>
    match r.dropWhile (· != '>') with
    | _ :: rest => atEnd rest
    | [] => false
  | r => atEnd r

/-- An identifier with at most one bracketed suffix. -/
def isGenericType : Text → Bool
  | [] => false
  | c :: r => isNameStart c && isGenericSuffix (r.dropWhile isWordChar)

/-- A text that starts with a primitive type and an opening bracket. -/
def startsLikeGeneric (t : Text) : Bool :=
  Primitive.names.any fun n => (after? (n ++ ['<']) t).isSome

/-- What may stand where a declaration names its type. -/
def isTypeName (t : Text) : Bool :=
  (Primitive.ofName? t).isSome || startsLikeGeneric t || isGenericType t

end VarDecl.Name
