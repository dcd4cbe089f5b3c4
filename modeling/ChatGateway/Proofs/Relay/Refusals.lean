import ChatGateway.Relay

/-!
# What goes wrong behind the check

Once a request has passed the check, whatever goes wrong is put down to the model server,
and said in words (`isUnanswered_of_answer_error`): the failures of an exchange, those of
decoding its body, and those of normalizing what was decoded.
-/

namespace ChatGateway

/-! ## Messages say something -/

theorem Text.append_ne_empty {s t : String} (h : s ≠ "") : s ++ t ≠ "" :=
  fun hempty => h (String.append_eq_empty_iff.mp hempty).1

theorem Text.append_append_ne_empty {s t u : String} (h : s ≠ "") : s ++ t ++ u ≠ "" :=
  append_ne_empty (append_ne_empty h)

-- every message begins with words of its own, whatever address or name comes after them
theorem Exchange.Error.message_ne_empty (error : Exchange.Error) : error.message ≠ "" := by
  cases error with
  | schemeNotAllowed url => exact Text.append_append_ne_empty (by decide)
  | notRequestable url => exact Text.append_append_ne_empty (by decide)
  | unconnected url error => exact Text.append_ne_empty (Text.append_append_ne_empty (by decide))
  | hungUp url => exact Text.append_append_ne_empty (by decide)
  | invalidStatus url => exact Text.append_append_ne_empty (by decide)
  | timedOut url => exact Text.append_append_ne_empty (by decide)
  | tooManyRedirects url => exact Text.append_append_ne_empty (by decide)
  | badStatus status url =>
      refine Text.append_ne_empty (Text.append_append_ne_empty ?_)
      split <;> decide
  | bodyCutShort => decide

theorem Json.Cause.message_ne_empty (cause : Json.Cause) : cause.message ≠ "" := by
  cases cause with
  | mistyped found expected => exact Text.append_ne_empty (Text.append_append_ne_empty (by decide))
  | unrepresentable n expected =>
      exact Text.append_ne_empty (Text.append_append_ne_empty (by decide))
  | wrongLength length expected =>
      exact Text.append_ne_empty (Text.append_append_ne_empty (by decide))
  | missing member => exact Text.append_append_ne_empty (by decide)
  | repeated member => exact Text.append_append_ne_empty (by decide)
  | _ => decide

theorem Json.DecodeError.message_ne_empty (e : Json.DecodeError) : e.message ≠ "" := by
  unfold Json.DecodeError.message
  split
  · exact e.cause.message_ne_empty
  · exact Text.append_ne_empty
      (Text.append_ne_empty (Text.append_append_ne_empty e.cause.message_ne_empty))

/-! ## Failures of the model server -/

/-- A failure that is put down to the model server, and said in words. -/
def Failure.IsUnanswered (failure : Failure) : Prop :=
  ∃ text, text ≠ "" ∧ failure = .unanswered text

namespace Completion.Reply

theorem isUnanswered_of_decode_error {body : List UInt8} {failure : Failure}
    (h : decode body = .error failure) : failure.IsUnanswered := by
  unfold decode at h
  split at h
  next e _ => exact ⟨e.message, e.message_ne_empty, (Except.error.inj h).symm⟩
  · contradiction

theorem isUnanswered_of_normalize_error {reply : Reply} {failure : Failure}
    (h : reply.normalize = .error failure) : failure.IsUnanswered := by
  unfold normalize at h
  split at h
  · exact ⟨_, by decide, (Except.error.inj h).symm⟩
  split at h
  · exact ⟨_, Json.DecodeError.message_ne_empty _, (Except.error.inj h).symm⟩
  · contradiction

end Completion.Reply

namespace Relay

theorem answer_ok (body : List UInt8) :
    answer (.ok body) = Completion.Reply.decode body >>= Completion.Reply.normalize := by
  simp only [answer]
  cases Completion.Reply.decode body <;> rfl

theorem isUnanswered_of_answer_error {result : Except Exchange.Error (List UInt8)}
    {failure : Failure} (h : answer result = .error failure) : failure.IsUnanswered := by
  cases result with
  | error error => exact ⟨error.message, error.message_ne_empty, (Except.error.inj h).symm⟩
  | ok body =>
      rw [answer_ok] at h
      cases hdecode : Completion.Reply.decode body with
      | error failure' =>
          rw [hdecode] at h
          obtain rfl := Except.error.inj h
          exact Completion.Reply.isUnanswered_of_decode_error hdecode
      | ok reply =>
          rw [hdecode] at h
          exact Completion.Reply.isUnanswered_of_normalize_error h

/-- Whatever goes wrong once a request has been sent, the model server is to blame. -/
theorem exists_unanswered {result : Except Exchange.Error (List UInt8)} {failure : Failure}
    (h : answer result = .error failure) : ∃ text, failure = .unanswered text :=
  (isUnanswered_of_answer_error h).imp fun _ => And.right

end Relay

end ChatGateway
