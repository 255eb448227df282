/-!
# Lexemes

The text of a filter clause is a sequence of lexemes: punctuation, strings, names, numbers,
operators and keywords.  A `Lexeme` carries the text it was read from and the bytes it spans.
-/

namespace Crosstab.Clause

/-- A reserved word; it is recognised in any mixture of upper and lower case. -/
inductive Keyword where
  | and
  | or
  | not
  | in
  | between
  | is
  | null
  | true
  | false
  | like
  | ilike
  deriving DecidableEq, Repr

namespace Keyword

/-- All reserved words. -/
def all : List Keyword := [.and, .or, .not, .in, .between, .is, .null, .true, .false, .like, .ilike]

/-- The word in upper case. -/
def word : Keyword → String
  | .and => "AND"
  | .or => "OR"
  | .not => "NOT"
  | .in => "IN"
  | .between => "BETWEEN"
  | .is => "IS"
  | .null => "NULL"
  | .true => "TRUE"
  | .false => "FALSE"
  | .like => "LIKE"
  | .ilike => "ILIKE"

/-- The reserved word that a word spells. -/
def ofWord? (s : String) : Option Keyword :=
  all.find? fun k => k.word.toList == s.toList.map Char.toUpper

end Keyword

/-- An operator as it is written; two operators may mean the same. -/
inductive Sign where
  | equal
  | doubleEqual
  | lessGreater
  | bangEqual
  | greater
  | greaterEqual
  | less
  | lessEqual
  | plus
  | minus
  | star
  | slash
  deriving DecidableEq, Repr

/-- The characters of an operator. -/
def Sign.symbol : Sign → String
  | .equal => "="
  | .doubleEqual => "=="
  | .lessGreater => "<>"
  | .bangEqual => "!="
  | .greater => ">"
  | .greaterEqual => ">="
  | .less => "<"
  | .lessEqual => "<="
  | .plus => "+"
  | .minus => "-"
  | .star => "*"
  | .slash => "/"

/-- What a lexeme stands for. -/
inductive LexemeKind where
  | leftParen
  | rightParen
  | comma
  /-- A string, without its quotes and with each doubled quote made one. -/
  | string (s : String)
  /-- A name, of one or more parts joined by dots, quoted parts without their quotes. -/
  | name (s : String)
  /-- A number as it is written. -/
  | number (numeral : String)
  | sign (s : Sign)
  | keyword (k : Keyword)
  deriving DecidableEq, Repr

/-- A piece of clause text. -/
structure Lexeme where
  /-- What it stands for. -/
  kind : LexemeKind
  /-- The offset of its first byte. -/
  start : Nat
  /-- The offset after its last byte. -/
  stop : Nat
  /-- The text between the two offsets. -/
  source : String
  deriving DecidableEq, Repr

end Crosstab.Clause
