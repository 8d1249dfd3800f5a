import Lexis.Classification

/-!
# Fields by name

Tokens and options never change once they are made. A field may be named when a value is made, and
then it has to be one of the value's fields; naming a field of a value that exists, to give it
another content or to take it away, is refused whatever the field.
-/

namespace Lexis

/-- Why the naming of a field is refused. -/
inductive FieldError where
  /-- The field would get another content. -/
  | assigned (field : String)
  /-- The field would be taken away. -/
  | deleted (field : String)
  /-- Values of the type have no such field. -/
  | unknown (typeName field : String)
  /-- The name stands for the value that is made, which is there already. -/
  | taken (typeName field : String)
deriving DecidableEq, Repr

/-- The refusal of a name that is no field of a type: one name stands for the value itself. -/
def FieldError.notField (typeName field : String) : FieldError :=
  if field = "self" then .taken typeName field else .unknown typeName field

/-- The wording of a refusal: a field of a value that exists is quoted, so that every character of
its name is seen, and an unknown one stands as it was written. -/
def FieldError.message : FieldError → String
  | .assigned field => "cannot assign to field " ++ Text.quote field
  | .deleted field => "cannot delete field " ++ Text.quote field
  | .unknown typeName field =>
    typeName ++ ".__init__() got an unexpected keyword argument '" ++ field ++ "'"
  | .taken typeName field =>
    typeName ++ ".__init__() got multiple values for argument '" ++ field ++ "'"

/-- Change one named field of some options on the way to making them. -/
def Options.withField (options : Options) (field : String) (value : Bool) :
    Except FieldError Options :=
  if field = "empty_as_illegal" then .ok { options with emptyIsIllegal := value }
  else if field = "append_eof" then .ok { options with appendEof := value }
  else .error (.notField "ClassifierOptions" field)

/-- The options with the named fields, the others being off. The first name that is no field is
refused. -/
def Options.ofFields (fields : List (String × Bool)) : Except FieldError Options :=
  fields.foldlM (fun options field => options.withField field.1 field.2) {}

end Lexis
