/-!
# Kinds of token

The vocabulary is closed: a lexeme is always of one of twenty-seven kinds. Twenty-five of them
have one spelling each, so a token of such a kind is its mark and nothing else; the other two,
identifiers and integers, carry the text they were read from. The families (sentinels, operators,
delimiters, keywords) partition the marks, so they are the constructors of `Mark`, and a kind
belongs to a family by its shape. Numbers are positions in `Kind.all`, counted from one.
-/

namespace Lexis

/-- The marks that stand for no text of a program. -/
inductive Sentinel where
  /-- A symbol the vocabulary does not know. -/
  | illegal
  /-- The end of the input. -/
  | eof
deriving DecidableEq, Repr

/-- The ten operators. -/
inductive Operator where
  | assign
  | plus
  | minus
  | bang
  | asterisk
  | slash
  | lessThan
  | greaterThan
  | equal
  | notEqual
deriving DecidableEq, Repr

/-- The six delimiters. -/
inductive Delimiter where
  | comma
  | semicolon
  | leftParen
  | rightParen
  | leftBrace
  | rightBrace
deriving DecidableEq, Repr

/-- The seven reserved words. -/
inductive Keyword where
  | function
  | letBinding
  | trueLiteral
  | falseLiteral
  | ifBranch
  | elseBranch
  | returnValue
deriving DecidableEq, Repr

/-- A kind that has exactly one spelling. -/
inductive Mark where
  | sentinel (member : Sentinel)
  | operator (member : Operator)
  | delimiter (member : Delimiter)
  | keyword (member : Keyword)
deriving DecidableEq, Repr

/-- A kind of token. -/
inductive Kind where
  /-- A kind with one spelling. -/
  | fixed (mark : Mark)
  | identifier
  /-- An unsigned decimal integer, kept as its digits. -/
  | integer
deriving DecidableEq, Repr

namespace Sentinel

def all : List Sentinel := [.illegal, .eof]

/-- The capital-letter name of a sentinel. -/
def name : Sentinel → String
  | .illegal => "ILLEGAL"
  | .eof => "EOF"

/-- The type name that rendered tokens show. -/
def typeName : Sentinel → String
  | .illegal => "Illegal"
  | .eof => "Eof"

end Sentinel

namespace Operator

def all : List Operator :=
  [.assign, .plus, .minus, .bang, .asterisk, .slash, .lessThan, .greaterThan, .equal, .notEqual]

def name : Operator → String
  | .assign => "ASSIGN"
  | .plus => "PLUS"
  | .minus => "MINUS"
  | .bang => "BANG"
  | .asterisk => "ASTERISK"
  | .slash => "SLASH"
  | .lessThan => "LESS_THAN"
  | .greaterThan => "GREATER_THAN"
  | .equal => "EQUAL"
  | .notEqual => "NOT_EQUAL"

def typeName : Operator → String
  | .assign => "Assign"
  | .plus => "Plus"
  | .minus => "Minus"
  | .bang => "Bang"
  | .asterisk => "Asterisk"
  | .slash => "Slash"
  | .lessThan => "LessThan"
  | .greaterThan => "GreaterThan"
  | .equal => "Equal"
  | .notEqual => "NotEqual"

end Operator

namespace Delimiter

def all : List Delimiter :=
  [.comma, .semicolon, .leftParen, .rightParen, .leftBrace, .rightBrace]

def name : Delimiter → String
  | .comma => "COMMA"
  | .semicolon => "SEMICOLON"
  | .leftParen => "LPAREN"
  | .rightParen => "RPAREN"
  | .leftBrace => "LBRACE"
  | .rightBrace => "RBRACE"

def typeName : Delimiter → String
  | .comma => "Comma"
  | .semicolon => "Semicolon"
  | .leftParen => "LeftParen"
  | .rightParen => "RightParen"
  | .leftBrace => "LeftBrace"
  | .rightBrace => "RightBrace"

end Delimiter

namespace Keyword

def all : List Keyword :=
  [.function, .letBinding, .trueLiteral, .falseLiteral, .ifBranch, .elseBranch, .returnValue]

def name : Keyword → String
  | .function => "FUNCTION"
  | .letBinding => "LET"
  | .trueLiteral => "TRUE"
  | .falseLiteral => "FALSE"
  | .ifBranch => "IF"
  | .elseBranch => "ELSE"
  | .returnValue => "RETURN"

def typeName : Keyword → String
  | .function => "Function"
  | .letBinding => "Let"
  | .trueLiteral => "True"
  | .falseLiteral => "False"
  | .ifBranch => "If"
  | .elseBranch => "Else"
  | .returnValue => "Return"

end Keyword

namespace Mark

/-- Every mark, family by family. -/
def all : List Mark :=
  Sentinel.all.map .sentinel ++ Operator.all.map .operator ++
    Delimiter.all.map .delimiter ++ Keyword.all.map .keyword

/-- The capital-letter name of a mark. -/
def name : Mark → String
  | .sentinel member => member.name
  | .operator member => member.name
  | .delimiter member => member.name
  | .keyword member => member.name

/-- The type name that rendered tokens show. -/
def typeName : Mark → String
  | .sentinel member => member.typeName
  | .operator member => member.typeName
  | .delimiter member => member.typeName
  | .keyword member => member.typeName

/-- No mark is missing from the list. -/
theorem mem_all (mark : Mark) : mark ∈ all := by
  rcases mark with (_ | _) | operator | delimiter | keyword
  · decide
  · decide
  · cases operator <;> decide
  · cases delimiter <;> decide
  · cases keyword <;> decide

/-- A statement about every mark is checked on the list of marks. -/
theorem forall_iff_all {property : Mark → Prop} :
    (∀ mark, property mark) ↔ ∀ mark ∈ all, property mark :=
  ⟨fun holds mark _ => holds mark, fun holds mark => holds mark mark.mem_all⟩

end Mark

namespace Kind

/-- Every kind, in the order of their numbers: the sentinels, the two kinds that carry text, then
the operators, the delimiters and the reserved words. -/
def all : List Kind :=
  Sentinel.all.map (fun member => .fixed (.sentinel member)) ++ [.identifier, .integer] ++
    Operator.all.map (fun member => .fixed (.operator member)) ++
    Delimiter.all.map (fun member => .fixed (.delimiter member)) ++
    Keyword.all.map (fun member => .fixed (.keyword member))

/-- The capital-letter name of a kind. -/
def name : Kind → String
  | .fixed mark => mark.name
  | .identifier => "IDENT"
  | .integer => "INT"

/-- The type name that rendered tokens show. -/
def typeName : Kind → String
  | .fixed mark => mark.typeName
  | .identifier => "Identifier"
  | .integer => "Integer"

/-- The number of a kind: its position in the list of kinds, counted from one. -/
def number (kind : Kind) : Nat := all.idxOf kind + 1

/-- The kind with a name, if there is one. -/
def ofName? (name : String) : Option Kind := all.find? (fun kind => kind.name == name)

/-- The kind with a number, if there is one. -/
def ofNumber? (number : Int) : Option Kind :=
  all.find? (fun kind => (kind.number : Int) == number)

/-- A sentinel stands for no text of a program. -/
def isSentinel : Kind → Bool
  | .fixed (.sentinel _) => true
  | _ => false

/-- Identifiers and integers carry a payload. -/
def carriesText : Kind → Bool
  | .identifier | .integer => true
  | .fixed _ => false

def isOperator : Kind → Bool
  | .fixed (.operator _) => true
  | _ => false

def isDelimiter : Kind → Bool
  | .fixed (.delimiter _) => true
  | _ => false

def isKeyword : Kind → Bool
  | .fixed (.keyword _) => true
  | _ => false

/-- No kind is missing from the list. -/
theorem mem_all (kind : Kind) : kind ∈ all := by
  rcases kind with ((_ | _) | operator | delimiter | keyword) | _ | _
  · decide
  · decide
  · cases operator <;> decide
  · cases delimiter <;> decide
  · cases keyword <;> decide
  · decide
  · decide

/-- A statement about every kind is checked on the list of kinds. -/
theorem forall_iff_all {property : Kind → Prop} :
    (∀ kind, property kind) ↔ ∀ kind ∈ all, property kind :=
  ⟨fun holds kind _ => holds kind, fun holds kind => holds kind kind.mem_all⟩

/-- A kind is found again by its name. -/
theorem ofName?_name (kind : Kind) : ofName? kind.name = some kind := by
  revert kind
  exact forall_iff_all.2 (by decide)

/-- A kind is found again by its number. -/
theorem ofNumber?_number (kind : Kind) : ofNumber? kind.number = some kind := by
  revert kind
  exact forall_iff_all.2 (by decide)

end Kind

end Lexis
