import FacetSearch.Json.Basic
import FacetSearch.Number.Shortest
import FacetSearch.Text.Ascii

namespace FacetSearch

/-!
# Writing JSON

Values are written compactly, or with two spaces of indentation for a level.
Members are written in the order they have.  Strings escape the quote, the
backslash and the control characters, and nothing else.
-/

/-- An integer as its digits, a double as its shortest text. -/
def Number.render : Number → String
  | .integer value => toString value
  | .float value => value.render

namespace Json

/-- The escaped form of one character of a string. -/
def escapeChar (c : Char) : List Char :=
  if c = '"' then ['\\', '"']
  else if c = '\\' then ['\\', '\\']
  else if c = '\n' then ['\\', 'n']
  else if c = '\r' then ['\\', 'r']
  else if c = '\t' then ['\\', 't']
  else if c = '\x08' then ['\\', 'b']
  else if c = '\x0c' then ['\\', 'f']
  else if c.toNat < 32 then
    ['\\', 'u', '0', '0', Text.hexChar (c.toNat / 16), Text.hexChar (c.toNat % 16)]
  else [c]

/-- A string between quotes. -/
def quote (text : String) : String :=
  String.ofList ('"' :: text.toList.flatMap escapeChar ++ ['"'])

mutual
/-- The compact text of a value. -/
def render : Json → String
  | .null => "null"
  | .bool true => "true"
  | .bool false => "false"
  | .number value => value.render
  | .string value => quote value
  | .array [] => "[]"
  | .array (first :: rest) => "[" ++ first.render ++ renderItems rest ++ "]"
  | .object [] => "\x7b\x7d"
  | .object ((name, first) :: rest) =>
      "\x7b" ++ quote name ++ ":" ++ first.render ++ renderMembers rest ++ "\x7d"

/-- The items after the first, each after a comma. -/
def renderItems : List Json → String
  | [] => ""
  | value :: rest => "," ++ value.render ++ renderItems rest

/-- The members after the first, each after a comma. -/
def renderMembers : List (String × Json) → String
  | [] => ""
  | (name, value) :: rest => "," ++ quote name ++ ":" ++ value.render ++ renderMembers rest
end

/-- A line break and the indentation of a level. -/
def lineBreak (level : Nat) : String :=
  String.ofList ('\n' :: List.replicate (2 * level) ' ')

mutual
/-- The indented text of a value that starts at a level. -/
def renderPretty (level : Nat) : Json → String
  | .array (first :: rest) =>
      "[" ++ lineBreak (level + 1) ++ first.renderPretty (level + 1) ++
        renderPrettyItems (level + 1) rest ++ lineBreak level ++ "]"
  | .object ((name, first) :: rest) =>
      "\x7b" ++ lineBreak (level + 1) ++ quote name ++ ": " ++
        first.renderPretty (level + 1) ++
        renderPrettyMembers (level + 1) rest ++ lineBreak level ++ "\x7d"
  | .null => "null"
  | .bool true => "true"
  | .bool false => "false"
  | .number value => value.render
  | .string value => quote value
  | .array [] => "[]"
  | .object [] => "\x7b\x7d"

/-- The items after the first, each on a line of its own. -/
def renderPrettyItems (level : Nat) : List Json → String
  | [] => ""
  | value :: rest =>
      "," ++ lineBreak level ++ value.renderPretty level ++ renderPrettyItems level rest

/-- The members after the first, each on a line of its own. -/
def renderPrettyMembers (level : Nat) : List (String × Json) → String
  | [] => ""
  | (name, value) :: rest =>
      "," ++ lineBreak level ++ quote name ++ ": " ++ value.renderPretty level ++
        renderPrettyMembers level rest
end

/-- The indented text of a value. -/
def pretty (value : Json) : String :=
  value.renderPretty 0

end Json

end FacetSearch
