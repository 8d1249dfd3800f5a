/-!
# Log records

What a run notes about its own work, for the reader who asks for it: where lexemes are read from,
and how many there were. A record is one line.
-/

namespace Lexis

/-- One note. -/
inductive LogRecord where
  /-- Lexemes are read from the file of a path. -/
  | readingFile (path : String)
  /-- Lexemes are read from standard input. -/
  | readingStandardInput
  /-- So many lexemes were classified, and so many tokens are illegal. -/
  | classified (units illegal : Nat)
deriving DecidableEq, Repr

namespace LogRecord

/-- The wording of a record. -/
def message : LogRecord → String
  | .readingFile path => "Reading lexemes from " ++ path
  | .readingStandardInput => "Reading lexemes from stdin"
  | .classified units illegal =>
    "Classified " ++ toString units ++ " lexemes (" ++ toString illegal ++ " illegal)"

/-- The line of a record, without its end. -/
def line (record : LogRecord) : String := "DEBUG: " ++ record.message

end LogRecord

end Lexis
