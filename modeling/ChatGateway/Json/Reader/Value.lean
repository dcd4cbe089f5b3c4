import ChatGateway.Json.Reader.Text
import ChatGateway.Json.Reader.Number
import ChatGateway.Json.Value

/-!
# Reading values

Lists and objects are read through `listOf` and `objectOf`, which take a reader
for what stands inside.  `value` reads a value of any kind; it is the one reader
that nests, and a depth bounds it.
-/

namespace ChatGateway.Json.Reader

/-! ## Lists -/

/-- Goes on to the next item of a list, or says that there is none; `first` is
whether no item has been read. -/
def nextItem (first : Bool) : Reader Bool := fun text =>
  match skipBlanks text with
  | [] => refuse .endInList []
  | b :: rest =>
    if b = closeBracket then .ok (false, b :: rest)
    else if first then .ok (true, b :: rest)
    else if b = comma then
      match skipBlanks rest with
      | [] => refuse .endInValue []
      | b :: rest =>
        if b = closeBracket then refuse .trailingComma rest else .ok (true, b :: rest)
    else refuse .expectedItemEnd rest

/-- Closes a list that is not to have further items. -/
def closeList : Reader Unit := fun text =>
  match skipBlanks text with
  | [] => refuse .endInList []
  | b :: rest =>
    if b = closeBracket then .ok ((), rest)
    else if b = comma then
      match skipBlanks rest with
      | [] => refuse .trailingCharacters []
      | b :: rest =>
        refuse (if b = closeBracket then .trailingComma else .trailingCharacters) rest
    else refuse .trailingCharacters rest

/-- Reads one more item, or the closing bracket; the items read are kept last
first. -/
def itemStep {α : Type} (item : Reader α) (items : List α) : Reader (Turn (List α) (List α)) :=
  fun text =>
    match nextItem items.isEmpty text with
    | .error fault => .error fault
    | .ok (false, rest) => .ok (.done items.reverse, rest.drop 1)
    | .ok (true, rest) =>
      match item rest with
      | .error fault => .error fault
      | .ok (a, rest) => .ok (.again (a :: items), rest)

/-- Reads the items of a list, after its opening bracket. -/
def listOf {α : Type} (item : Reader α) : Reader (List α) := repeatedly (itemStep item) []

/-! ## Objects -/

/-- Goes on to the name of the next member of an object, after its opening mark,
or says that there is none. -/
def nextMember (first : Bool) : Reader Bool := fun text =>
  match skipBlanks text with
  | [] => refuse .endInObject []
  | b :: rest =>
    if b = closeBrace then .ok (false, b :: rest)
    else if first then
      if b = quote then .ok (true, rest) else refuse .nameNotText rest
    else if b = comma then
      match skipBlanks rest with
      | [] => refuse .endInValue []
      | b :: rest =>
        if b = quote then .ok (true, rest)
        else refuse (if b = closeBrace then .trailingComma else .nameNotText) rest
    else refuse .expectedMemberEnd rest

/-- Reads the colon between a name and its value. -/
def nameEnd : Reader Unit := fun text =>
  match skipBlanks text with
  | [] => refuse .endInObject []
  | b :: rest => if b = colon then .ok ((), rest) else refuse .expectedColon rest

/-- Reads one more member, or the closing brace; the members read are kept last
first. -/
def memberStep {α : Type} (item : Reader α) (members : List (String × α)) :
    Reader (Turn (List (String × α)) (List (String × α))) :=
  fun text =>
    match nextMember members.isEmpty text with
    | .error fault => .error fault
    | .ok (false, rest) => .ok (.done members.reverse, rest.drop 1)
    | .ok (true, rest) =>
      match Reader.text rest with
      | .error fault => .error fault
      | .ok (name, rest) =>
        match nameEnd rest with
        | .error fault => .error fault
        | .ok (_, rest) =>
          match item rest with
          | .error fault => .error fault
          | .ok (a, rest) => .ok (.again ((name, a) :: members), rest)

/-- Reads the members of an object in their order, after its opening brace. -/
def objectOf {α : Type} (item : Reader α) : Reader (List (String × α)) :=
  repeatedly (memberStep item) []

/-! ## Values of any kind -/

/-- The reader with its result passed through a function. -/
def map {α β : Type} (f : α → β) (reader : Reader α) : Reader β := fun text =>
  match reader text with
  | .error fault => .error fault
  | .ok (a, rest) => .ok (f a, rest)

/-- Reads a value that is no list and no object, and whose first byte is `b`. -/
def scalar (b : UInt8) : Reader Value :=
  if b = 0x6E then map (fun _ => .null) (expectWord wordNull)
  else if b = 0x74 then map (fun _ => .bool true) (expectWord wordTrue)
  else if b = 0x66 then map (fun _ => .bool false) (expectWord wordFalse)
  else if b = minus || Ascii.isDigit b then map .number (number b)
  else if b = quote then map .text Reader.text
  else fun text => refuse .expectedValue text

/-- How many brackets may be open at once in a text that is read. -/
def maxDepth : Nat := 127

/-- Reads a value with at most `depth` brackets open at once. -/
def value : (depth : Nat) → Reader Value
  | 0 => fun text =>
    match skipBlanks text with
    | [] => refuse .endInValue []
    | b :: rest =>
      if b = openBracket || b = openBrace then refuse .tooDeep rest else scalar b rest
  | depth + 1 => fun text =>
    match skipBlanks text with
    | [] => refuse .endInValue []
    | b :: rest =>
      if b = openBracket then map .array (listOf (value depth)) rest
      else if b = openBrace then map .ofMembers (objectOf (value depth)) rest
      else scalar b rest

end ChatGateway.Json.Reader
