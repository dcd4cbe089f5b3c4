import ChatGateway.Chat.Check
import ChatGateway.Proofs.Report.Order

/-!
# What a check reports

The rules for requests are restated here without trees and sorting: a request is
`Admissible` if its number of messages is in bounds and each message keeps both
rules, and `ChatRequest.reports` lists one report for each rule that is broken,
message by message.

`ChatRequest.check` goes another way.  It collects the broken rules of a message
role first, hangs them into a tree, flattens the tree and sorts twice.  The two
lists hold the same reports (`fieldErrors_perm`), and the plain one is strictly
increasing (`reports_pairwise`), so sorting leaves exactly that one
(`fieldErrors_eq_reports`).
-/

namespace ChatGateway

/-! ## The rules, and the reports on them -/

/-- A message that breaks no rule. -/
def Message.Admissible (m : Message) : Prop :=
  (m.role = "system" ∨ m.role = "user" ∨ m.role = "assistant") ∧ m.content.length ≤ 2000

/-- A request that breaks no rule. -/
def ChatRequest.Admissible (r : ChatRequest) : Prop :=
  (1 ≤ r.messages.length ∧ r.messages.length ≤ 20) ∧ ∀ m ∈ r.messages, m.Admissible

instance (m : Message) : Decidable m.Admissible := inferInstanceAs (Decidable (_ ∧ _))

instance (r : ChatRequest) : Decidable r.Admissible := inferInstanceAs (Decidable (_ ∧ _))

namespace Message

/-- The way to the messages of a request. -/
def way : Location := [.name "body", .name "messages"]

/-- The report on the content of the message at `index`. -/
def contentReports (m : Message) (index : Nat) : List FieldError :=
  if m.content.length ≤ 2000 then []
  else [{
    loc := [.name "body", .name "messages", .index index, .name "content"]
    msg := "content must be at most 2000 characters"
    kind := "length" }]

/-- The report on the role of the message at `index`. -/
def roleReports (m : Message) (index : Nat) : List FieldError :=
  if m.role = "system" ∨ m.role = "user" ∨ m.role = "assistant" then []
  else [{
    loc := [.name "body", .name "messages", .index index, .name "role"]
    msg := "role '" ++ m.role ++ "' is not one of: system, user, assistant"
    kind := "role" }]

/-- The reports on the message at `index`, the content first. -/
def reports (m : Message) (index : Nat) : List FieldError :=
  m.contentReports index ++ m.roleReports index

end Message

namespace ChatRequest

/-- The report on the number of messages. -/
def countReports (r : ChatRequest) : List FieldError :=
  if 1 ≤ r.messages.length ∧ r.messages.length ≤ 20 then []
  else [{
    loc := [.name "body", .name "messages"]
    msg := "messages must contain between 1 and 20 items"
    kind := "length" }]

/-- The reports on the messages of a request. -/
def messageReports (r : ChatRequest) : List FieldError :=
  r.messages.zipIdx.flatMap fun (m, index) => m.reports index

/-- The reports on a request: on the number of messages, then on each message. -/
def reports (r : ChatRequest) : List FieldError := r.countReports ++ r.messageReports

end ChatRequest

/-! ## The places of the reports -/

namespace Message

theorem exists_loc_of_mem_reports {m : Message} {index : Nat} {e : FieldError}
    (he : e ∈ m.reports index) : ∃ field, e.loc = way ++ [.index index, .name field] := by
  rcases List.mem_append.mp he with he | he
  · unfold contentReports at he
    split at he
    · simp at he
    · rw [List.mem_singleton.mp he]
      exact ⟨"content", rfl⟩
  · unfold roleReports at he
    split at he
    · simp at he
    · rw [List.mem_singleton.mp he]
      exact ⟨"role", rfl⟩

theorem reports_pairwise (m : Message) (index : Nat) :
    (m.reports index).Pairwise FieldError.Before := by
  unfold reports contentReports roleReports
  split <;> split <;> simp [FieldError.Before, Location.compare, Segment.compare]
  -- left is the message that breaks both rules: "content" comes before "role"
  decide

theorem reports_before {m n : Message} {i j : Nat} (hij : i < j) {d e : FieldError}
    (hd : d ∈ m.reports i) (he : e ∈ n.reports j) : d.Before e := by
  obtain ⟨first, hfirst⟩ := exists_loc_of_mem_reports hd
  obtain ⟨second, hsecond⟩ := exists_loc_of_mem_reports he
  rw [FieldError.Before, hfirst, hsecond, Location.compare_append]
  simp [Location.compare, Segment.compare, Nat.compare_eq_lt.mpr hij]

end Message

namespace ChatRequest

theorem zipIdx_pairwise (messages : List Message) :
    messages.zipIdx.Pairwise fun a b => a.2 < b.2 := by
  rw [← List.pairwise_map (f := Prod.snd), List.zipIdx_map_snd]
  exact List.pairwise_lt_range'

theorem messageReports_pairwise (r : ChatRequest) :
    r.messageReports.Pairwise FieldError.Before := by
  refine List.pairwise_flatMap.mpr ⟨fun a _ => a.1.reports_pairwise a.2, ?_⟩
  refine (zipIdx_pairwise r.messages).imp fun hlt d hd e he => ?_
  exact Message.reports_before hlt hd he

theorem countReports_before {r : ChatRequest} {d e : FieldError} (hd : d ∈ r.countReports)
    (he : e ∈ r.messageReports) : d.Before e := by
  obtain ⟨⟨m, index⟩, -, he⟩ := List.mem_flatMap.mp he
  obtain ⟨field, hloc⟩ := Message.exists_loc_of_mem_reports he
  unfold countReports at hd
  split at hd
  · simp at hd
  · rw [List.mem_singleton.mp hd, FieldError.Before, hloc]
    exact Location.compare_append Message.way [] _

/-- The reports are strictly increasing in their places. -/
theorem reports_pairwise (r : ChatRequest) : r.reports.Pairwise FieldError.Before := by
  refine List.pairwise_append.mpr ⟨?_, r.messageReports_pairwise, ?_⟩
  · unfold countReports
    split <;> simp
  · intro d hd e he
    exact countReports_before hd he

end ChatRequest

/-! ## The reports of the tree -/

namespace Message

theorem allowed_iff (m : Message) :
    m.role ∈ allowedRoles ↔ m.role = "system" ∨ m.role = "user" ∨ m.role = "assistant" := by
  simp [allowedRoles]

theorem map_report_roleViolations (m : Message) (index : Nat) :
    m.roleViolations.map (Report.Violation.report (way ++ [.index index] ++ [.name "role"])) =
      m.roleReports index := by
  unfold roleViolations roleReports
  simp only [allowed_iff]
  split
  · rfl
  · have hroles : String.intercalate ", " allowedRoles = "system, user, assistant" := by decide
    rw [List.map_singleton, hroles, String.append_assoc, String.append_assoc]
    rfl

theorem map_report_contentViolations (m : Message) (index : Nat) :
    m.contentViolations.map
        (Report.Violation.report (way ++ [.index index] ++ [.name "content"])) =
      m.contentReports index := by
  have hmax : maxContent = 2000 := rfl
  have htext : "content must be at most " ++ toString 2000 ++ " characters" =
      "content must be at most 2000 characters" := by decide
  rw [contentViolations, contentReports, hmax, htext]
  split <;> rfl

/-- Flattening the tree of a message yields its reports, the role first. -/
theorem violations_flatten (m : Message) (index : Nat) :
    m.violations.flatten (way ++ [.index index]) = m.roleReports index ++ m.contentReports index := by
  rw [← map_report_roleViolations, ← map_report_contentViolations]
  unfold violations
  cases m.roleViolations <;> cases m.contentViolations <;>
    simp [Report.Tree.flatten, Report.Node.flattenFields, Report.Node.flatten]

theorem violations_flatten_of_isValid {m : Message} (hvalid : m.isValid) (index : Nat) :
    m.violations.flatten (way ++ [.index index]) = [] := by
  simp only [isValid, Bool.and_eq_true, List.isEmpty_iff] at hvalid
  rw [violations_flatten, ← map_report_roleViolations, ← map_report_contentViolations,
    hvalid.1, hvalid.2]
  rfl

end Message

namespace ChatRequest

/-- A message without broken rules is left out of the tree, and would have added
nothing to it. -/
theorem flattenItems_faulty (numbered : List (Message × Nat)) :
    Report.Tree.flattenItems Message.way (numbered.filterMap fun (m, index) =>
        if m.isValid then none else some (index, m.violations)) =
      numbered.flatMap fun (m, index) => m.roleReports index ++ m.contentReports index := by
  induction numbered with
  | nil => rfl
  | cons head rest ih =>
      obtain ⟨m, index⟩ := head
      rw [List.flatMap_cons, ← ih]
      change _ = (m.roleReports index ++ m.contentReports index) ++ _
      rw [← m.violations_flatten index]
      -- the tree leaves a valid message out, and its reports are none
      by_cases hvalid : m.isValid
      · rw [Message.violations_flatten_of_isValid hvalid]
        simp [hvalid]
      · simp [hvalid, Report.Tree.flattenItems]

theorem violations_flatten (r : ChatRequest) :
    r.violations.flatten Location.body =
      r.messages.zipIdx.flatMap fun (m, index) => m.roleReports index ++ m.contentReports index := by
  rw [← flattenItems_faulty]
  change _ = Report.Tree.flattenItems Message.way r.faultyMessages
  unfold violations
  cases r.faultyMessages with
  | nil => simp [Report.Tree.flatten, Report.Node.flattenFields, Report.Tree.flattenItems]
  | cons head rest =>
      simp [Report.Tree.flatten, Report.Node.flattenFields, Report.Node.flatten, Location.body,
        Message.way]

theorem countErrors_eq_countReports (r : ChatRequest) : r.countErrors = r.countReports := by
  have htext : "messages must contain between 1 and " ++ toString maxMessages ++ " items" =
      "messages must contain between 1 and 20 items" := by decide
  unfold countErrors countReports
  rw [htext]
  cases hmessages : r.messages with
  | nil => rfl
  | cons m rest =>
      by_cases hlength : (m :: rest).length ≤ 20
      · simp_all [maxMessages]
      · simp_all [maxMessages, Location.body]

/-! ## What a check answers -/

theorem fieldErrors_perm (r : ChatRequest) :
    (r.countErrors ++ r.violations.fieldErrors).Perm r.reports := by
  rw [countErrors_eq_countReports]
  refine List.Perm.append_left _ ((FieldError.sort_perm _).trans ?_)
  rw [violations_flatten]
  -- the tree has the role of a message first, the reports have its content first
  exact List.Perm.flatMap_left _ fun _ _ => List.perm_append_comm

theorem fieldErrors_eq_reports (r : ChatRequest) : r.fieldErrors = r.reports :=
  FieldError.sort_eq_of_strict r.fieldErrors_perm r.reports_pairwise

end ChatRequest

theorem Message.reports_eq_nil_iff (m : Message) (index : Nat) :
    m.reports index = [] ↔ m.Admissible := by
  unfold reports contentReports roleReports Admissible
  rw [List.append_eq_nil_iff]
  by_cases hcontent : m.content.length ≤ 2000 <;>
    by_cases hrole : m.role = "system" ∨ m.role = "user" ∨ m.role = "assistant" <;>
    simp [hcontent, hrole]

namespace ChatRequest

theorem messageReports_eq_nil_iff (r : ChatRequest) :
    r.messageReports = [] ↔ ∀ m ∈ r.messages, m.Admissible := by
  simp only [messageReports, List.flatMap_eq_nil_iff, Message.reports_eq_nil_iff]
  constructor
  · intro hall m hm
    obtain ⟨index, hindex⟩ := List.mem_iff_getElem?.mp hm
    exact hall (m, index) (List.mk_mem_zipIdx_iff_getElem?.mpr hindex)
  · rintro hall ⟨m, index⟩ hmem
    exact hall m (List.fst_mem_of_mem_zipIdx hmem)

theorem reports_eq_nil_iff (r : ChatRequest) : r.reports = [] ↔ r.Admissible := by
  rw [reports, List.append_eq_nil_iff, messageReports_eq_nil_iff]
  unfold Admissible countReports
  split <;> simp_all

theorem check_of_admissible {r : ChatRequest} (h : r.Admissible) : r.check = .ok () := by
  rw [check, fieldErrors_eq_reports, r.reports_eq_nil_iff.mpr h]
  rfl

theorem check_of_not_admissible {r : ChatRequest} (h : ¬ r.Admissible) :
    r.check = .error (.invalid r.reports) := by
  rw [check, fieldErrors_eq_reports, if_neg]
  rw [List.isEmpty_iff, reports_eq_nil_iff]
  exact h

theorem check_eq_ok_iff (r : ChatRequest) : r.check = .ok () ↔ r.Admissible := by
  refine ⟨fun hok => ?_, check_of_admissible⟩
  by_contra h
  rw [check_of_not_admissible h] at hok
  cases hok

theorem check_eq_error_iff (r : ChatRequest) :
    r.check = .error (.invalid r.reports) ↔ ¬ r.Admissible := by
  refine ⟨fun herror h => ?_, check_of_not_admissible⟩
  rw [check_of_admissible h] at herror
  cases herror

/-- **A check reports exactly the broken rules.**  It passes a request that breaks
none, and turns down any other with `reports`: the number of messages first, then
message by message the content and the role, at strictly increasing places. -/
theorem check_reports_exactly (r : ChatRequest) :
    (r.check = .ok () ↔ r.Admissible) ∧
      (r.check = .error (.invalid r.reports) ↔ ¬ r.Admissible) ∧
      r.reports.Pairwise fun d e => d.loc.compare e.loc = .lt :=
  ⟨r.check_eq_ok_iff, r.check_eq_error_iff, r.reports_pairwise⟩

end ChatRequest

end ChatGateway
