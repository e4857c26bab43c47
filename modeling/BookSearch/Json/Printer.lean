import BookSearch.Json.Token

/-!
JSON values as text: on one line without blanks, or indented by two spaces with one item a line. An
empty container stays on its line in both.
-/
namespace BookSearch
namespace Json

def stringChars (text : Option String) : List Char := (Token.string (text.map String.toList)).chars

mutual

def compact : Json → List Char
  | null => Token.null.chars
  | bool value => (Token.bool value).chars
  | number value => value.chars
  | string text => stringChars text
  | array items => '[' :: compactItems items ++ [']']
  | object members => '\x7b' :: compactMembers members ++ ['\x7d']

def compactItems : List Json → List Char
  | [] => []
  | [item] => compact item
  | item :: next :: rest => compact item ++ ',' :: compactItems (next :: rest)

def compactMembers : List (Option String × Json) → List Char
  | [] => []
  | [(name, value)] => stringChars name ++ ':' :: compact value
  | (name, value) :: next :: rest =>
    stringChars name ++ ':' :: compact value ++ ',' :: compactMembers (next :: rest)

end

def newline (depth : Nat) : List Char := '\n' :: List.replicate (2 * depth) ' '

mutual

/-- `depth` is the number of containers around the value. -/
def indented (depth : Nat) : Json → List Char
  | null => Token.null.chars
  | bool value => (Token.bool value).chars
  | number value => value.chars
  | string text => stringChars text
  | array [] => ['[', ']']
  | array (item :: rest) =>
    '[' :: newline (depth + 1) ++ indentedItems (depth + 1) (item :: rest) ++ newline depth ++ [']']
  | object [] => ['\x7b', '\x7d']
  | object (member :: rest) =>
    '\x7b' :: newline (depth + 1) ++ indentedMembers (depth + 1) (member :: rest) ++ newline depth ++
      ['\x7d']

def indentedItems (depth : Nat) : List Json → List Char
  | [] => []
  | [item] => indented depth item
  | item :: next :: rest =>
    indented depth item ++ ',' :: newline depth ++ indentedItems depth (next :: rest)

def indentedMembers (depth : Nat) : List (Option String × Json) → List Char
  | [] => []
  | [(name, value)] => stringChars name ++ ':' :: ' ' :: indented depth value
  | (name, value) :: next :: rest =>
    stringChars name ++ ':' :: ' ' :: indented depth value ++ ',' :: newline depth ++
      indentedMembers depth (next :: rest)

end

def toCompactText (value : Json) : String := String.ofList (compact value)

def toIndentedText (value : Json) : String := String.ofList (indented 0 value)

end Json
end BookSearch
