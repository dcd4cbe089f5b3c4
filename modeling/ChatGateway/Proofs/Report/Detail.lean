import ChatGateway.Failure
import ChatGateway.Proofs.Json.Skipped
import ChatGateway.Proofs.Json.Written

/-!
# What the body of a failure says

The body of a failure is an object with one member, called `detail`: a list of reports if
the request is at fault, and a text if the model server is (`Failure.spelledBody_body`).
There is no other way to read it (`Failure.eq_detail`), so no client finds another member
there.
-/

namespace ChatGateway

open Json (Tree Spelled SpelledBody)

namespace Segment

/-- What a step of a place is written as: a name as a text, an index as a number. -/
def tree : Segment → Tree
  | .name s => .text s
  | .index n => .number (Utf8.bytes (toString n))

theorem spelled_toJson (segment : Segment) :
    Spelled (Utf8.bytes segment.toJson) segment.tree := by
  cases segment with
  | name s => exact Json.spelled_text s
  | index n => exact .number (Json.isLiteral_nat n)

end Segment

namespace FieldError

/-- The members of a report, as they are written and as trees. -/
def members (e : FieldError) : List (String × String × Tree) := [
  ("loc", Json.Writer.array (e.loc.map Segment.toJson), .array (e.loc.map Segment.tree)),
  ("msg", Json.Writer.text e.msg, .text e.msg),
  ("type", Json.Writer.text e.kind, .text e.kind)]

/-- What a report says: where the field is, what the rule is, and which kind it is of. -/
def tree (e : FieldError) : Tree := .object [
  ("loc", .array (e.loc.map Segment.tree)),
  ("msg", .text e.msg),
  ("type", .text e.kind)]

theorem spelled_toJson (e : FieldError) : Spelled (Utf8.bytes e.toJson) e.tree := by
  have hloc : Spelled (Utf8.bytes (Json.Writer.array (e.loc.map Segment.toJson)))
      (.array (e.loc.map Segment.tree)) :=
    Json.spelled_array fun segment _ => segment.spelled_toJson
  have hmembers : ∀ m ∈ e.members, Spelled (Utf8.bytes m.2.1) m.2.2 := by
    simpa [members] using ⟨hloc, Json.spelled_text e.msg, Json.spelled_text e.kind⟩
  have hobject := @Json.spelled_object _ (fun m => m.1) (fun m => m.2.1) (fun m => m.2.2)
    e.members hmembers
  simp only [members, List.map_cons, List.map_nil] at hobject
  exact hobject

end FieldError

namespace Failure

/-- What a failure says. -/
def detail : Failure → Tree
  | .invalid fields => .array (fields.map FieldError.tree)
  | .unanswered text => .text text

/-- **The body of a failure is an object with the detail in it.** -/
theorem spelledBody_body (failure : Failure) :
    SpelledBody (Utf8.bytes failure.body) (.object [("detail", failure.detail)]) := by
  -- both kinds of failure have one member, and differ in what stands there
  have hobject : ∀ {written : String} {t : Tree}, Spelled (Utf8.bytes written) t →
      Spelled (Utf8.bytes (Json.Writer.object [("detail", written)])) (.object [("detail", t)]) :=
    fun {written t} ht => @Json.spelled_object Unit (fun _ => "detail") (fun _ => written)
      (fun _ => t) [()] fun _ _ => ht
  have hbody : Spelled (Utf8.bytes failure.body) (.object [("detail", failure.detail)]) := by
    cases failure with
    | invalid fields => exact hobject (Json.spelled_array fun e _ => e.spelled_toJson)
    | unanswered text => exact hobject (Json.spelled_text text)
  exact ⟨.bare (Utf8.bytes failure.body), hbody, by simp [Json.Padded.bare, Json.Padded.bytes]⟩

/-- Whatever is read from the body of a failure, there is only the detail in it. -/
theorem eq_detail {failure : Failure} {t : Tree} (h : SpelledBody (Utf8.bytes failure.body) t) :
    ∃ content, t = .object [("detail", content)] := by
  obtain ⟨members, rfl, hnames⟩ := failure.spelledBody_body.names_perm h
  have hdetail : members.map Prod.fst = ["detail"] := List.perm_singleton.mp hnames
  obtain ⟨⟨name, content⟩, rfl, rfl⟩ := List.map_eq_singleton_iff.mp hdetail
  exact ⟨content, rfl⟩

end Failure

end ChatGateway
