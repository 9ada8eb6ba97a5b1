import BotScript.Syntax.Position

/-!
Tokens: the smallest parts of a program that mean something, each with the position of its first
character. Blanks and comments leave no token; the end of the text is kept as a position behind the
last token.
-/

namespace BotScript

inductive TokenKind
  | keyword
  | name
  /-- A name with a dollar sign in front. -/
  | dollarName
  | string
  /-- A text between triple quotes, which may run over several lines. -/
  | block
  | number
  | operator
  | leftBrace
  | rightBrace
  | leftBracket
  | rightBracket
  | leftParen
  | rightParen
  | colon
  | comma
deriving DecidableEq, Repr

namespace TokenKind

/-- The name of a kind of tokens in token listings. -/
def label : TokenKind → String
  | keyword => "KEYWORD"
  | name => "IDENT"
  | dollarName => "VARIABLE"
  | string => "STRING"
  | block => "MULTILINE_STRING"
  | number => "NUMBER"
  | operator => "OP"
  | leftBrace => "LBRACE"
  | rightBrace => "RBRACE"
  | leftBracket => "LBRACKET"
  | rightBracket => "RBRACKET"
  | leftParen => "LPAREN"
  | rightParen => "RPAREN"
  | colon => "COLON"
  | comma => "COMMA"

/-- The name of the end of the text in token listings. -/
def endLabel : String := "EOF"

end TokenKind

/-- A token. The text of a variable lacks its dollar sign; that of a string lacks its quotes and has
its simple escapes resolved. -/
structure Token where
  kind : TokenKind
  text : String
  position : Position
deriving DecidableEq, Repr

namespace Token

/-- The token is the given keyword, name or symbol. -/
def is (token : Token) (kind : TokenKind) (text : String) : Bool :=
  token.kind = kind && token.text = text

def isKeyword (token : Token) (word : String) : Bool :=
  token.is .keyword word

theorem isKeyword_iff {token : Token} {word : String} :
    token.isKeyword word ↔ token.kind = .keyword ∧ token.text = word := by
  simp [isKeyword, is]

/-- The token is a text in quotes. -/
def isString (token : Token) : Bool :=
  token.kind = .string || token.kind = .block

/-- The text of the token has a dot in it. -/
def isDotted (token : Token) : Bool :=
  token.text.toList.contains '.'

/-- A token as error messages name it. -/
def describe (token : Token) : String :=
  if token.isString then "string literal" else s!"'{token.text}'"

end Token

/-- The tokens of a text and the position behind its last character. -/
structure TokenStream where
  tokens : List Token
  finish : Position
deriving DecidableEq, Repr

end BotScript
