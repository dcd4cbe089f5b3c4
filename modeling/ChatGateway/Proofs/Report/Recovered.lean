import ChatGateway.Proofs.Json.Kinds
import ChatGateway.Proofs.Report.Detail

/-!
# A failure is recovered from its body

The body of a failure is read back as a JSON value that still has everything in it
(`Failure.decode_body`): the text as it was, or the reports in their order, with the names
in a place as texts and the indexes as numbers.  `Failure.ofValue?` takes the failure out of
that value again, so that two failures never have one body (`Failure.body_lossless`).

An index is recovered as long as it fits 64 bits; a greater one would be read as a float.
-/

namespace ChatGateway

open Json (Tree Value Whole)
open Json.Reader (mapM_cons_eq mapM_map_eq_some maxDepth)

/-! ## Values of failures -/

namespace Segment

/-- An index fits 64 bits; there is nothing to ask of a name. -/
def Fits : Segment → Prop
  | .name _ => True
  | .index n => n < 18446744073709551616

@[simp] theorem fits_name (s : String) : (Segment.name s).Fits := trivial

@[simp] theorem fits_index_iff {n : Nat} :
    (Segment.index n).Fits ↔ n < 18446744073709551616 := Iff.rfl

/-- The value of a segment: a text for a name and a number for an index.  There is none for
an index that does not fit. -/
def toValue : Segment → Value
  | .name s => .text s
  | .index n => (Whole.ofInt? n).elim .null fun w => .number (.whole w)

/-- The segment that a value stands for. -/
def ofValue? : Value → Option Segment
  | .text s => some (.name s)
  | .number (.whole n) => if 0 ≤ n.toInt then some (.index n.toInt.toNat) else none
  | _ => none

/-- An index that fits is an integer of JSON. -/
theorem exists_whole {n : Nat} (h : (Segment.index n).Fits) :
    ∃ w : Whole, w.toInt = n ∧ (Segment.index n).toValue = .number (.whole w) := by
  have hlt := fits_index_iff.mp h
  have hfits : -9223372036854775808 ≤ (n : Int) ∧ (n : Int) < 18446744073709551616 := by omega
  have hwhole : Whole.ofInt? n = some ⟨n, hfits.1, hfits.2⟩ := dif_pos hfits
  refine ⟨⟨n, hfits.1, hfits.2⟩, rfl, ?_⟩
  rw [toValue, hwhole, Option.elim_some]

theorem ofValue?_toValue {s : Segment} (h : s.Fits) : ofValue? s.toValue = some s := by
  cases s with
  | name s => rfl
  | index n =>
      obtain ⟨w, hw, hvalue⟩ := exists_whole h
      rw [hvalue, ofValue?, hw, if_pos (Int.natCast_nonneg n), Int.toNat_natCast]

theorem value?_tree {s : Segment} (h : s.Fits) (depth : Nat) :
    s.tree.value? depth = some s.toValue := by
  cases s with
  | name s => rfl
  | index n =>
      obtain ⟨w, hw, hvalue⟩ := exists_whole h
      have hdigits : toString w.toInt = toString n := by
        rw [hw]
        rfl
      rw [tree, Tree.value?, ← hdigits, Json.numberOf?_whole, hvalue]
      rfl

theorem distinct_tree (s : Segment) : s.tree.Distinct := by
  cases s with
  | name s => exact .text s
  | index n => exact .number _

end Segment

namespace FieldError

/-- Every index in the place of a report fits 64 bits. -/
def Fits (e : FieldError) : Prop := ∀ s ∈ e.loc, s.Fits

/-- The members of a report, as values. -/
def valueMembers (e : FieldError) : List (String × Value) := [
  ("loc", .array (e.loc.map Segment.toValue)),
  ("msg", .text e.msg),
  ("type", .text e.kind)]

/-- The value of a report. -/
def toValue (e : FieldError) : Value := .object e.valueMembers

/-- The report that a value stands for. -/
def ofValue? : Value → Option FieldError
  | .object [("loc", .array loc), ("msg", .text msg), ("type", .text kind)] =>
    (loc.mapM Segment.ofValue?).map fun loc => ⟨loc, msg, kind⟩
  | _ => none

theorem ofValue?_toValue {e : FieldError} (h : e.Fits) : ofValue? e.toValue = some e := by
  have hloc : (e.loc.map Segment.toValue).mapM Segment.ofValue? = some e.loc := by
    rw [mapM_map_eq_some fun s hs => Segment.ofValue?_toValue (h s hs), List.map_id']
  rw [toValue, valueMembers, ofValue?, hloc]
  rfl

/-- The members are in order as they are written. -/
theorem inOrder_valueMembers (e : FieldError) : Value.InOrder e.valueMembers := by
  have hnames : (e.valueMembers.map Prod.fst).Pairwise (· < ·) := by
    show ["loc", "msg", "type"].Pairwise (· < ·)
    decide
  exact List.pairwise_map.mp hnames

theorem value?_tree {e : FieldError} (h : e.Fits) (depth : Nat) :
    e.tree.value? (depth + 2) = some e.toValue := by
  have hloc : (e.loc.map Segment.tree).mapM (fun t : Tree => t.value? depth) =
      some (e.loc.map Segment.toValue) :=
    mapM_map_eq_some fun s hs => Segment.value?_tree (h s hs) depth
  have hmembers : e.tree.value? (depth + 2) = some (.ofMembers e.valueMembers) := by
    rw [tree, Tree.value?_object, mapM_cons_eq, Tree.value?_array, hloc]
    rfl
  rw [hmembers, Value.ofMembers, Value.ordered_eq_self e.inOrder_valueMembers, toValue]

theorem distinct_tree (e : FieldError) : e.tree.Distinct := by
  have hloc : (Tree.array (e.loc.map Segment.tree)).Distinct :=
    .array (List.forall_mem_map.mpr fun s _ => s.distinct_tree)
  refine .object (by simp) ?_
  simpa using ⟨hloc, .text _, .text _⟩

end FieldError

namespace Failure

/-- Every index in a report of the failure fits 64 bits. -/
def Fits : Failure → Prop
  | .invalid fields => ∀ e ∈ fields, e.Fits
  | .unanswered _ => True

/-- What a failure says, as a value. -/
def detailValue : Failure → Value
  | .invalid fields => .array (fields.map FieldError.toValue)
  | .unanswered text => .text text

/-- The failure that a value stands for. -/
def ofValue? : Value → Option Failure
  | .object [("detail", .array items)] => (items.mapM FieldError.ofValue?).map .invalid
  | .object [("detail", .text text)] => some (.unanswered text)
  | _ => none

theorem ofValue?_detailValue {failure : Failure} (h : failure.Fits) :
    ofValue? (.object [("detail", failure.detailValue)]) = some failure := by
  cases failure with
  | unanswered text => rfl
  | invalid fields =>
      have hitems : (fields.map FieldError.toValue).mapM FieldError.ofValue? = some fields := by
        rw [mapM_map_eq_some fun e he => FieldError.ofValue?_toValue (h e he), List.map_id']
      rw [detailValue, ofValue?, hitems]
      rfl

theorem value?_detail {failure : Failure} (h : failure.Fits) (depth : Nat) :
    failure.detail.value? (depth + 3) = some failure.detailValue := by
  cases failure with
  | unanswered text => rfl
  | invalid fields =>
      rw [detail, Tree.value?_array,
        mapM_map_eq_some fun e he => FieldError.value?_tree (h e he) depth]
      rfl

theorem distinct_detail (failure : Failure) : failure.detail.Distinct := by
  cases failure with
  | unanswered text => exact .text text
  | invalid fields => exact .array (List.forall_mem_map.mpr fun e _ => e.distinct_tree)

/-! ## Reading a body -/

/-- The body of a failure is read as an object with one member. -/
theorem decode_body {failure : Failure} (h : failure.Fits) :
    Json.decode (Json.Reader.value maxDepth) (Utf8.bytes failure.body) =
      .ok (.object [("detail", failure.detailValue)]) := by
  have hdistinct : (Tree.object [("detail", failure.detail)]).Distinct :=
    .object (by simp) (by simpa using failure.distinct_detail)
  have hread := (Json.understands_value maxDepth).decode failure.spelledBody_body hdistinct
  have hvalue : (Tree.object [("detail", failure.detail)]).value? maxDepth =
      some (.object [("detail", failure.detailValue)]) := by
    have hdetail := value?_detail h 123
    rw [show maxDepth = 126 + 1 from rfl, Tree.value?_object, mapM_cons_eq, hdetail]
    rfl
  exact Json.Reader.toOption_eq_some_iff.mp (hread.trans hvalue)

/-- **A body loses nothing.**  The body of a failure is read as an object with one member,
which is the text if the model server gave no usable answer, and the list of the reports if
the request is at fault; the failure is recovered from it.  So no other failure has the same
body. -/
theorem body_lossless {failure : Failure} (h : failure.Fits) :
    Json.decode (Json.Reader.value maxDepth) (Utf8.bytes failure.body) =
        .ok (.object [("detail", failure.detailValue)]) ∧
      ofValue? (.object [("detail", failure.detailValue)]) = some failure ∧
      ∀ other : Failure, other.Fits → other.body = failure.body → other = failure := by
  refine ⟨decode_body h, ofValue?_detailValue h, fun other hother hbody => ?_⟩
  have hsame := decode_body hother
  rw [hbody, decode_body h, Except.ok.injEq] at hsame
  have hrecovered := ofValue?_detailValue hother
  rw [← hsame, ofValue?_detailValue h, Option.some.injEq] at hrecovered
  exact hrecovered.symm

/-- A report on the place behind the given segment, with characters that have to be escaped. -/
def reportBehind (segment : Segment) : Failure :=
  .invalid [
    ⟨[.name "body", segment, .index 18446744073709551615], "role \"\\\" is \x01 not\none", "role"⟩,
    ⟨[], "é", ""⟩]

theorem fits_reportBehind {segment : Segment} (h : segment.Fits) :
    (reportBehind segment).Fits := by
  simp [reportBehind, Fits, FieldError.Fits, h]

/-- An index and a name that looks like it are told apart. -/
theorem body_lossless_reportBehind :
    (reportBehind (.index 1)).Fits ∧ (reportBehind (.name "1")).Fits ∧
      ofValue? (.object [("detail", (reportBehind (.index 1)).detailValue)]) =
        some (reportBehind (.index 1)) ∧
      (reportBehind (.name "1")).body ≠ (reportBehind (.index 1)).body := by
  have hindex : (reportBehind (.index 1)).Fits := fits_reportBehind (by simp)
  have hname : (reportBehind (.name "1")).Fits := fits_reportBehind (by simp)
  obtain ⟨-, hrecovered, honly⟩ := body_lossless hindex
  refine ⟨hindex, hname, hrecovered, fun hbody => ?_⟩
  have hsame := honly (reportBehind (.name "1")) hname hbody
  simp [reportBehind] at hsame

end Failure

end ChatGateway
