import ChatGateway.Proofs.Chat.Respelled
import ChatGateway.Proofs.Completion.Grammar
import ChatGateway.Proofs.Relay.Answer

/-!
# A part of a body is never taken for the whole

Requests and replies end with a closing bracket, so a body that is decoded shows where it
ends.  If one body goes on as another one, it does so with blanks
(`Follows.isGap_of_decode_append`).  A body that has been cut short is refused, then,
wherever the cut is, and so is one that something has been added to
(`only_whole_bodies_decoded`).
-/

namespace ChatGateway

open Json (Grammar IsGap RecordGrammar FieldsOfJson Follows isBlank)

namespace Json

variable {α : Type} {reader : Reader α} {fields : List (String × Grammar)} {f : Tree → Option α}

/-- Two bodies that are decoded, one of which begins the other, differ in blanks. -/
theorem Follows.isGap_of_decode_append (h : Follows reader (RecordGrammar fields) f)
    (hfields : FieldsOfJson fields) {body more : List UInt8} {a a' : α}
    (hbody : Json.decode reader body = .ok a) (hmore : Json.decode reader (body ++ more) = .ok a') :
    IsGap more := by
  obtain ⟨t, ht⟩ := h.exists_tree hbody
  obtain ⟨t', ht'⟩ := h.exists_tree hmore
  exact RecordGrammar.isGap_of_body_append hfields ht ht'

/-- What is added to a body that is decoded leaves it to be decoded only if it is blanks. -/
theorem Follows.exists_error_of_append (h : Follows reader (RecordGrammar fields) f)
    (hfields : FieldsOfJson fields) {body : List UInt8} {a : α}
    (hbody : Json.decode reader body = .ok a) {more : List UInt8}
    (hmore : ∃ b ∈ more, isBlank b = false) :
    ∃ e, Json.decode reader (body ++ more) = .error e := by
  cases hdecode : Json.decode reader (body ++ more) with
  | error e => exact ⟨e, rfl⟩
  | ok a' =>
      obtain ⟨b, hb, hblank⟩ := hmore
      rw [h.isGap_of_decode_append hfields hbody hdecode b hb] at hblank
      contradiction

/-- What is cut off a body that is decoded leaves it to be decoded only if it is blanks. -/
theorem Follows.exists_error_of_cut (h : Follows reader (RecordGrammar fields) f)
    (hfields : FieldsOfJson fields) {body : List UInt8} {a : α}
    (hbody : Json.decode reader body = .ok a) (hends : ∀ b ∈ body.getLast?, isBlank b = false)
    {cut : List UInt8} (hcut : cut <+: body) (hne : cut ≠ body) :
    ∃ e, Json.decode reader cut = .error e := by
  cases hdecode : Json.decode reader cut with
  | error e => exact ⟨e, rfl⟩
  | ok a' =>
      obtain ⟨more, rfl⟩ := hcut
      have hgap := h.isGap_of_decode_append hfields hdecode hbody
      have hnonempty : more ≠ [] := by
        rintro rfl
        exact hne (List.append_nil cut).symm
      -- the last byte of the body has been cut off, so it is a blank
      have hlast : more.getLast hnonempty ∈ (cut ++ more).getLast? := by
        rw [List.getLast?_append_of_ne_nil cut hnonempty, List.getLast?_eq_some_getLast hnonempty]
        exact Option.mem_some_self _
      have hblank := hgap _ (List.getLast_mem hnonempty)
      rw [hends _ hlast] at hblank
      contradiction

end Json

/-- **A part of a body is never taken for the whole.**  Let a body end in no blank.  If it is
decoded as a request, it is refused as one as soon as anything is missing at its end, and as
soon as anything but blanks is added there; and the same holds of replies. -/
theorem only_whole_bodies_decoded (body : List UInt8)
    (hends : ∀ b ∈ body.getLast?, isBlank b = false) :
    (∀ r, ChatRequest.decode body = .ok r →
      (∀ cut, cut <+: body → cut ≠ body → ∃ e, ChatRequest.decode cut = .error e) ∧
      ∀ more, (∃ b ∈ more, isBlank b = false) →
        ∃ e, ChatRequest.decode (body ++ more) = .error e) ∧
    ∀ reply, Completion.Reply.decode body = .ok reply →
      (∀ cut, cut <+: body → cut ≠ body →
        ∃ text, Completion.Reply.decode cut = .error (.unanswered text)) ∧
      ∀ more, (∃ b ∈ more, isBlank b = false) →
        ∃ text, Completion.Reply.decode (body ++ more) = .error (.unanswered text) := by
  refine ⟨fun r hdecode => ⟨fun cut hcut hne => ?_, fun more hmore => ?_⟩,
    fun reply hdecode => ?_⟩
  · exact ChatRequest.follows.exists_error_of_cut ChatRequest.fieldsOfJson hdecode hends hcut hne
  · exact ChatRequest.follows.exists_error_of_append ChatRequest.fieldsOfJson hdecode hmore
  have hread := Completion.Reply.json_decode_of_decode hdecode
  refine ⟨fun cut hcut hne => ?_, fun more hmore => ?_⟩
  · obtain ⟨e, he⟩ := Completion.Reply.follows.exists_error_of_cut
      Completion.Reply.fieldsOfJson hread hends hcut hne
    exact ⟨e.message, Completion.Reply.decode_of_json_error he⟩
  · obtain ⟨e, he⟩ := Completion.Reply.follows.exists_error_of_append
      Completion.Reply.fieldsOfJson hread hmore
    exact ⟨e.message, Completion.Reply.decode_of_json_error he⟩

/-- A request and a reply that end in their closing brace are refused without it, and with
another one behind it. -/
theorem only_whole_bodies_decoded_plain :
    ((∀ b ∈ ChatRequest.plainRequest.getLast?, isBlank b = false) ∧
      (∃ r, ChatRequest.decode ChatRequest.plainRequest = .ok r) ∧
      (∃ e, ChatRequest.decode ChatRequest.plainRequest.dropLast = .error e) ∧
      ∃ e, ChatRequest.decode (ChatRequest.plainRequest ++ [Json.closeBrace]) = .error e) ∧
    (∀ b ∈ Relay.plainReply.getLast?, isBlank b = false) ∧
      (∃ reply, Completion.Reply.decode Relay.plainReply = .ok reply) ∧
      (∃ text, Completion.Reply.decode Relay.plainReply.dropLast = .error (.unanswered text)) ∧
      ∃ text, Completion.Reply.decode (Relay.plainReply ++ [Json.closeBrace]) =
        .error (.unanswered text) := by
  have hbrace : ∃ b ∈ [Json.closeBrace], isBlank b = false := ⟨_, List.mem_singleton_self _, rfl⟩
  have hrequest : (ChatRequest.decode ChatRequest.plainRequest).toOption.isSome := by
    decide +kernel
  have hanswered : (Completion.Reply.decode Relay.plainReply).toOption.isSome := by decide +kernel
  obtain ⟨r, hsome⟩ := Option.isSome_iff_exists.mp hrequest
  obtain ⟨reply, hsome'⟩ := Option.isSome_iff_exists.mp hanswered
  have hr := Json.Reader.toOption_eq_some_iff.mp hsome
  have hreply := Json.Reader.toOption_eq_some_iff.mp hsome'
  have hends : ∀ b ∈ ChatRequest.plainRequest.getLast?, isBlank b = false := by decide +kernel
  have hends' : ∀ b ∈ Relay.plainReply.getLast?, isBlank b = false := by decide +kernel
  obtain ⟨hcut, hmore⟩ := (only_whole_bodies_decoded ChatRequest.plainRequest hends).1 r hr
  obtain ⟨hcut', hmore'⟩ := (only_whole_bodies_decoded Relay.plainReply hends').2 reply hreply
  exact ⟨⟨hends, ⟨r, hr⟩, hcut _ (List.dropLast_prefix _) (by decide +kernel), hmore _ hbrace⟩,
    hends', ⟨reply, hreply⟩, hcut' _ (List.dropLast_prefix _) (by decide +kernel),
    hmore' _ hbrace⟩

end ChatGateway
