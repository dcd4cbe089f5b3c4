import ChatGateway.Json.Number

/-!
# Free-form JSON values

The values that pass through unread.  The members of an object are kept in
byte order of their names, each name once; `Value.ofMembers` brings members
into that form, and of two members with one name the later one stays.
-/

namespace ChatGateway.Json

/-- A JSON value. -/
inductive Value where
  | null
  | bool (b : Bool)
  | number (n : Number)
  | text (s : String)
  | array (items : List Value)
  | object (members : List (String × Value))

namespace Value

/-- Puts a member into ordered members, unless its name is there already. -/
def insertNew (member : String × Value) : List (String × Value) → List (String × Value)
  | [] => [member]
  | other :: members =>
    if member.1 < other.1 then member :: other :: members
    else if member.1 = other.1 then other :: members
    else other :: insertNew member members

/-- The members of an object in byte order of their names.  Working from the
last member back, a name that is there already is left alone: the last of
several members with one name stays. -/
def ordered (members : List (String × Value)) : List (String × Value) :=
  members.foldr insertNew []

/-- The object with the given members. -/
def ofMembers (members : List (String × Value)) : Value := object (ordered members)

/-- The value of the member called `name`. -/
def member? (name : String) (members : List (String × Value)) : Option Value :=
  (members.find? (·.1 == name)).map (·.2)

end Value

end ChatGateway.Json
