import Crosstab.Binary64.Shortest
import Crosstab.Sql.Dialect

/-!
# Tokens of statements

Statements are built as lists of tokens.  Only `Token.text` knows how a dialect quotes names and
writes literals, so nothing else has to.
-/

namespace Crosstab.Sql

/-- A keyword of a statement. -/
inductive Word where
  | select
  | from
  | where
  | and
  | or
  | not
  | as
  | groupBy
  | having
  | case
  | when
  | then
  | else
  | end
  | in
  | like
  | ilike
  | isNull
  | distinct
  deriving DecidableEq, Repr

namespace Word

/-- All keywords. -/
def all : List Word :=
  [.select, .from, .where, .and, .or, .not, .as, .groupBy, .having, .case, .when, .then, .else,
   .end, .in, .like, .ilike, .isNull, .distinct]

/-- The keyword as it is written. -/
def text : Word → String
  | .select => "SELECT"
  | .from => "FROM"
  | .where => "WHERE"
  | .and => "AND"
  | .or => "OR"
  | .not => "NOT"
  | .as => "AS"
  | .groupBy => "GROUP BY"
  | .having => "HAVING"
  | .case => "CASE"
  | .when => "WHEN"
  | .then => "THEN"
  | .else => "ELSE"
  | .end => "END"
  | .in => "IN"
  | .like => "LIKE"
  | .ilike => "ILIKE"
  | .isNull => "IS NULL"
  | .distinct => "DISTINCT"

end Word

/-- Punctuation and operators. -/
inductive Mark where
  | comma
  | star
  | leftParen
  | rightParen
  | equal
  | notEqual
  | less
  | greater
  | lessEqual
  | greaterEqual
  | plus
  | minus
  deriving DecidableEq, Repr

namespace Mark

/-- All marks. -/
def all : List Mark :=
  [.comma, .star, .leftParen, .rightParen, .equal, .notEqual, .less, .greater, .lessEqual,
   .greaterEqual, .plus, .minus]

/-- The mark as it is written. -/
def text : Mark → String
  | .comma => ","
  | .star => "*"
  | .leftParen => "("
  | .rightParen => ")"
  | .equal => "="
  | .notEqual => "<>"
  | .less => "<"
  | .greater => ">"
  | .lessEqual => "<="
  | .greaterEqual => ">="
  | .plus => "+"
  | .minus => "-"

end Mark

/-- A token of a statement. -/
inductive Token where
  | word (w : Word)
  | mark (m : Mark)
  | space
  | newline
  /-- Two spaces for every level. -/
  | indent (levels : Nat)
  /-- A name, quoted as one. -/
  | name (s : String)
  /-- A name with parts, each quoted, joined by dots. -/
  | path (parts : List String)
  | int (n : Int64)
  | float (x : Binary64)
  | string (s : String)
  | bool (b : Bool)
  | null
  /-- A date in its written form. -/
  | date (s : String)
  /-- A timestamp in its written form. -/
  | timestamp (s : String)
  /-- The name of a function. -/
  | function (s : String)
  /-- Text that stands as it is. -/
  | raw (s : String)
  deriving DecidableEq, Repr

end Sql

/-! ## Quoting -/

/-- A text between quotes, with each quote inside doubled. -/
def quote (mark : Char) (s : String) : String :=
  String.ofList (mark :: s.toList.flatMap (fun c => if c = mark then [c, c] else [c]) ++ [mark])

namespace Dialect

/-- The character that quotes names. -/
def nameQuote : Dialect → Char
  | .bigquery => '\x60'
  | _ => '"'

/-- A quoted name. -/
def quoteName (d : Dialect) (s : String) : String := quote d.nameQuote s

/-- A quoted string. -/
def quoteString (_ : Dialect) (s : String) : String := quote '\'' s

/-- A truth value. -/
def boolText (_ : Dialect) (b : Bool) : String := if b then "TRUE" else "FALSE"

/-- A date literal. -/
def dateLiteral (d : Dialect) (s : String) : String := "DATE " ++ d.quoteString s

/-- A timestamp literal. -/
def timestampLiteral (d : Dialect) (s : String) : String := "TIMESTAMP " ++ d.quoteString s

end Dialect

namespace Sql

/-! ## Text -/

/-- The text of a token in a dialect. -/
def Token.text (d : Dialect) : Token → String
  | .word w => w.text
  | .mark m => m.text
  | .space => " "
  | .newline => "\n"
  | .indent levels => String.ofList (List.replicate (2 * levels) ' ')
  | .name s => d.quoteName s
  | .path parts => String.intercalate "." (parts.map d.quoteName)
  | .int n => String.ofList (Binary64.intChars n.toInt)
  | .float x => x.text
  | .string s => d.quoteString s
  | .bool b => d.boolText b
  | .null => "NULL"
  | .date s => d.dateLiteral s
  | .timestamp s => d.timestampLiteral s
  | .function s => Text.upper s
  | .raw s => s

/-- The text of a list of tokens in a dialect. -/
def render (d : Dialect) (ts : List Token) : String := String.join (ts.map (Token.text d))

/-- The text of a token stands in front of that of the tokens after it. -/
theorem render_cons (d : Dialect) (t : Token) (ts : List Token) :
    render d (t :: ts) = t.text d ++ render d ts := by
  simp [render]

/-- Texts of parts of a statement are put together as the parts are. -/
theorem render_append (d : Dialect) (ts us : List Token) :
    render d (ts ++ us) = render d ts ++ render d us := by
  simp [render]

end Sql

end Crosstab
