import ChatGateway.Url.Basic
import ChatGateway.Text.Blank

/-!
# The pieces of a URL's text

A text is cut into its scheme and, after the colon, what stands before the query,
the query and the fragment.  Blanks at the ends of the text do not count.  Line
breaks inside it do not count either, but they are kept in the pieces: in the path
of a file a break shows where the name of a drive ends.
-/

namespace ChatGateway.Url

/-- The characters of a text without the blanks at its ends. -/
def trimmed (s : String) : List Char := Text.trimBoth (fun c => c.toNat ≤ 0x20) s.toList

/-- Whether a character is a tab or breaks a line. -/
def isBreak (c : Char) : Bool := c == '\t' || c == '\n' || c == '\r'

/-- The characters that count. -/
def unbroken (cs : List Char) : List Char := cs.filter fun c => !isBreak c

/-- A character that may stand in a scheme after its first letter. -/
def isSchemeChar (c : Char) : Bool := c.isAlphanum || c == '+' || c == '-' || c == '.'

/-- The scheme of a text, in lower case, and the text after its colon. -/
def cutScheme? : List Char → Option (String × List Char)
  | [] => none
  | c :: cs =>
    if c.isAlpha then
      match cs.span fun c => isSchemeChar c || isBreak c with
      | (more, ':' :: rest) => some (String.ofList ((c :: unbroken more).map Char.toLower), rest)
      | _ => none
    else none

/-- A text cut at the first `mark`. -/
def cutAt (mark : Char) (cs : List Char) : List Char × Option (List Char) :=
  match cs.span (· != mark) with
  | (before, _ :: after) => (before, some after)
  | (before, []) => (before, none)

/-- The text before the query and the fragment, the query and the fragment. -/
structure Cut where
  hierarchy : List Char
  query : Option (List Char)
  fragment : Option (List Char)

/-- Cuts off the fragment and the query. -/
def cut (cs : List Char) : Cut :=
  let (before, fragment) := cutAt '#' cs
  let (hierarchy, query) := cutAt '?' before
  ⟨hierarchy, query, fragment⟩

/-- The query as it stands in a URL. -/
def Cut.queryOf (c : Cut) (special : Bool) : Option String :=
  c.query.map fun cs => percentEncode (encodesQuery special) (unbroken cs)

/-- The fragment as it stands in a URL. -/
def Cut.fragmentOf (c : Cut) : Option String :=
  c.fragment.map fun cs => percentEncode encodesFragment (unbroken cs)

end ChatGateway.Url
