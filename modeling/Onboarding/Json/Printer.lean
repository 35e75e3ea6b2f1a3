import Onboarding.Json.Number
import Onboarding.Json.Text

/-!
# Writing JSON texts

`compact` writes a value without blanks, `pretty` with one entry per line, each level indented by
two more spaces; empty arrays and objects stay on their line.
-/

namespace Onboarding.Json

/-- The texts, with the separator between each two of them. -/
def joined (separator : List Char) : List (List Char) → List Char
  | [] => []
  | [t] => t
  | t :: ts => t ++ separator ++ joined separator ts

/-- The words of the values without parts. -/
def boolText (b : Bool) : List Char :=
  if b then "true".toList else "false".toList

mutual

/-- A value without blanks. -/
def compact : Json → List Char
  | null => "null".toList
  | bool b => boolText b
  | number x => x.text
  | text s => JsonText.write s
  | array items => '[' :: joined [','] (compactItems items) ++ [']']
  | object members => '\x7b' :: joined [','] (compactMembers members) ++ ['\x7d']

def compactItems : List Json → List (List Char)
  | [] => []
  | v :: r => compact v :: compactItems r

def compactMembers : List (String × Json) → List (List Char)
  | [] => []
  | (k, v) :: r => (JsonText.write k ++ ':' :: compact v) :: compactMembers r

end

/-- A line break and the indentation of a level. -/
def newLine (level : Nat) : List Char :=
  '\n' :: List.replicate (2 * level) ' '

mutual

/-- A value with one entry per line, at the given level. -/
def prettyAt (level : Nat) : Json → List Char
  | null => "null".toList
  | bool b => boolText b
  | number x => x.text
  | text s => JsonText.write s
  | array [] => ['[', ']']
  | array (v :: r) =>
    '[' :: newLine (level + 1)
      ++ joined (',' :: newLine (level + 1)) (prettyItems (level + 1) (v :: r))
      ++ newLine level ++ [']']
  | object [] => ['\x7b', '\x7d']
  | object (m :: r) =>
    '\x7b' :: newLine (level + 1)
      ++ joined (',' :: newLine (level + 1)) (prettyMembers (level + 1) (m :: r))
      ++ newLine level ++ ['\x7d']

def prettyItems (level : Nat) : List Json → List (List Char)
  | [] => []
  | v :: r => prettyAt level v :: prettyItems level r

def prettyMembers (level : Nat) : List (String × Json) → List (List Char)
  | [] => []
  | (k, v) :: r => (JsonText.write k ++ ':' :: ' ' :: prettyAt level v) :: prettyMembers level r

end

/-- A value with one entry per line. -/
def pretty (v : Json) : String :=
  String.ofList (prettyAt 0 v)

end Onboarding.Json
