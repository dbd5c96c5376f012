/-!
# Declarations

The kinds of declarations that a check can be registered for, and the declarations themselves.
-/
namespace JavadocTags

inductive DeclarationKind where
  | interfaceType
  | classType
  | enumType
  | annotationType
  | method
  | constructor
  | enumConstant
  | annotationField
deriving DecidableEq, Repr, Inhabited

namespace DeclarationKind

/-- All kinds, in the order in which messages list them. -/
def all : List DeclarationKind :=
  [interfaceType, classType, enumType, annotationType, method, constructor, enumConstant,
    annotationField]

def name : DeclarationKind → String
  | interfaceType => "interface"
  | classType => "class"
  | enumType => "enum"
  | annotationType => "annotation"
  | method => "method"
  | constructor => "constructor"
  | enumConstant => "enum-constant"
  | annotationField => "annotation-field"

/-- The name of the grammar token, accepted as another spelling of the kind. -/
def tokenName : DeclarationKind → String
  | interfaceType => "INTERFACE_DEF"
  | classType => "CLASS_DEF"
  | enumType => "ENUM_DEF"
  | annotationType => "ANNOTATION_DEF"
  | method => "METHOD_DEF"
  | constructor => "CTOR_DEF"
  | enumConstant => "ENUM_CONSTANT_DEF"
  | annotationField => "ANNOTATION_FIELD_DEF"

def ofName? (text : String) : Option DeclarationKind :=
  all.find? (·.name == text)

def ofTokenName? (text : String) : Option DeclarationKind :=
  all.find? (·.tokenName == text)

/-- The kinds that a check runs on unless it names its own: the kinds of types. -/
def types : List DeclarationKind :=
  [interfaceType, classType, enumType, annotationType]

end DeclarationKind

/-- A declaration stands where its first token stands, annotations and modifiers included. Lines
count from one, columns from zero. -/
structure Declaration where
  kind : DeclarationKind
  name : String
  line : Int
  column : Int
deriving DecidableEq, Repr

end JavadocTags
