import NodeDesk.Text.Blank
import NodeDesk.Token.Guard
/-!
# Cookie — the second copy of a token

A browser sends all its cookies in one header, as names and values with equals signs between them and semicolons
after them.  The token is the value of the first cookie that has its name.
-/
namespace NodeDesk
namespace Token
namespace Cookie

def name : List Char := "csrftoken".toList

/-- The name and value of a cookie, without the blanks around both; nothing without an equals sign. -/
def pair? (part : List Char) : Option (List Char × List Char) := Text.cut? '=' (Text.trim part)

def pairs (header : List Char) : List (List Char × List Char) := (Text.parts ';' header).filterMap pair?

/-- The token in a header, if there is one. -/
def token? (header : String) : Option String :=
  ((pairs header.toList).find? (·.1 == name)).map fun p => String.ofList p.2

/-- The header that hands a token to a browser, for the pages below a path. -/
def header (g : Guard) (token path : String) : String :=
  String.ofList name ++ "=" ++ token ++ "; Path=" ++ path ++ "; Max-Age=" ++ Decimal.signedText g.maxAge
    ++ "; HttpOnly; SameSite=Strict"

end Cookie
end Token
end NodeDesk
