import ChatGateway.Proofs.Json.Reads

/-!
# Records that are read back

Readers for values of a given kind read what is written for such a value.  A record
is read member by member: `Fills` says that members, in the order they are written,
lead from one draft to another, where a member that the record does not ask for is
skipped.  So a record may be read from an object that holds more than its fields.
-/

namespace ChatGateway.Json

open Reader

variable {σ α γ : Type}

/-! ## Values of a given kind -/

theorem reads_string (s : String) : Reads string (Utf8.bytes (Writer.text s)) s := by
  intro rest _
  rw [bytes_text, List.cons_append, List.append_assoc, List.singleton_append, string, byFirst,
    skipBlanks_cons (by decide)]
  simp [text_writtenChars]

theorem reads_numberOf {expected : String} {convert : Number → Except Cause α}
    {text : List UInt8} {n : Number} {a : α} (h : SpellsNumber text n) (ha : convert n = .ok a) :
    Reads (numberOf expected convert) text a := by
  intro rest hrest
  obtain ⟨b, more, hfirst, hb, hread⟩ := h
  have hnumber : (b = minus || Ascii.isDigit b) = true := by simpa using hb
  rw [numberOf, byFirst, skipBlanks_append hfirst]
  simp only [hnumber, if_true, hread rest hrest, ha]

theorem reads_float {text : List UInt8} {n : Number} (h : SpellsNumber text n) :
    Reads float text n.toFloat :=
  reads_numberOf h rfl

theorem mistyped_ne_ok {expected : String} {b : UInt8} {text rest : List UInt8} {a : α} :
    mistyped expected b text ≠ .ok (a, rest) := by
  unfold mistyped refuse
  split
  · simp
  split
  · simp
  split <;> simp

/-- A text that is read as a float to its end spells a number. -/
theorem exists_spellsNumber_of_float {text : List UInt8} {x : Float}
    (h : float text = .ok (x, [])) : ∃ n, SpellsNumber text n ∧ n.toFloat = x := by
  unfold float numberOf byFirst at h
  cases hfirst : skipBlanks text with
  | nil => simp [hfirst, refuse] at h
  | cons b more =>
      simp only [hfirst] at h
      split at h
      next hnumber =>
        cases hread : number b more with
        | error fault => simp [hread] at h
        | ok read =>
            simp only [hread, Except.ok.injEq, Prod.mk.injEq] at h
            obtain ⟨n, rest⟩ := read
            obtain ⟨hn, rfl⟩ := h
            exact ⟨n, spellsNumber_of_number hfirst (by simpa using hnumber) hread, hn⟩
      · exact absurd h mistyped_ne_ok

/-- A 64-bit integer as an integer of a JSON number. -/
def Whole.ofInt64 (n : Int64) : Whole where
  toInt := n.toInt
  lower := n.le_toInt
  upper := by
    have hupper := n.toInt_lt
    omega

theorem reads_int64 (n : Int64) : Reads int64 (Utf8.bytes (toString n.toInt)) n := by
  refine reads_numberOf (spellsNumber_whole (.ofInt64 n)) ?_
  have hfits : n.toInt ≤ 9223372036854775807 := Int.le_of_lt_add_one n.toInt_lt
  have hint : (Whole.ofInt64 n).toInt = n.toInt := rfl
  rw [toInt64, hint, if_pos hfits, Int64.ofInt_toInt]

theorem reads_list {item : Reader α} {text : γ → List UInt8} {f : γ → α}
    {items : List γ} (hitems : ∀ i ∈ items, Opens (text i) ∧ Reads item (text i) (f i)) :
    Reads (Reader.list item) (listText (items.map text)) (items.map f) := by
  intro rest _
  rw [listText, List.cons_append, List.append_assoc, List.singleton_append, Reader.list, byFirst,
    skipBlanks_cons (by decide)]
  simp [reads_listOf hitems]

/-! ## Records -/

/-- A member that the record asks for, and that is not given yet, is read into the
draft. -/
theorem reads_memberValue {record : Record σ α} {draft draft' : σ} {name : String}
    {value : List UInt8} {field : Reader.Field σ}
    (hfind : record.fields.find? (·.name == name) = some field)
    (hgiven : field.given draft = false) (hread : Reads (field.read draft) value draft') :
    Reads (record.memberValue name draft) (colon :: value) draft' := by
  intro rest hrest
  rw [Record.memberValue, hfind, List.cons_append]
  simp [hgiven, nameEnd_colon, hread rest hrest]

/-- A member that the record does not ask for is skipped. -/
theorem reads_memberValue_skipped {record : Record σ α} {name : String} {value : List UInt8}
    (hfind : record.fields.find? (·.name == name) = none) (hskip : Reads skipValue value ())
    (draft : σ) : Reads (record.memberValue name draft) (colon :: value) draft := by
  intro rest hrest
  rw [Record.memberValue, hfind, List.cons_append]
  simp [nameEnd_colon, Reader.map, hskip rest hrest]

/-- The written members lead from one draft to another. -/
inductive Fills (record : Record σ α) : σ → List (String × List UInt8) → σ → Prop where
  | nil {draft : σ} : Fills record draft [] draft
  | cons {draft draft' last : σ} {name : String} {value : List UInt8}
      {members : List (String × List UInt8)}
      (hread : Reads (record.memberValue name draft) (colon :: value) draft')
      (hmore : Fills record draft' members last) :
      Fills record draft ((name, value) :: members) last

theorem Fills.runs {record : Record σ α} {draft last : σ} {members : List (String × List UInt8)}
    (h : Fills record draft members last) (rest : List UInt8) :
    ∀ first, Runs record.fieldStep (first, draft)
      (listed first (members.map fun m => memberText m.1 m.2) ++ closeBrace :: rest) last rest := by
  -- by induction on the members: after any of them the next one is not the first
  induction h with
  | nil =>
      intro first
      refine .done ?_
      simp [Record.fieldStep, listed, nextMember_close]
  | @cons draft draft' last name value members hread hmore ih =>
      intro first
      have hrest := endsNumber_listed (members.map fun m => memberText m.1 m.2) rest (Or.inr rfl)
      have hvalue := hread _ hrest
      rw [List.cons_append] at hvalue
      rw [List.map_cons, listed, List.append_assoc, List.append_assoc, memberText, List.cons_append,
        List.append_assoc]
      refine .again ?_ ?_ (ih false)
      · simp only [Record.fieldStep, nextMember_lead, List.cons_append, text_writtenChars, hvalue]
      · simp only [List.length_append, List.length_cons]
        omega

/-- **A record is read from an object that fills it.** -/
theorem reads_record {record : Record σ α} {last : σ} {members : List (String × List UInt8)}
    {a : α} (h : Fills record record.empty members last) (ha : record.complete last = .ok a) :
    Reads record.reader (objectText (members.map fun m => memberText m.1 m.2)) a := by
  intro rest _
  rw [objectText, List.cons_append, List.append_assoc, List.singleton_append, Record.reader,
    byFirst, skipBlanks_cons (by decide)]
  have hrun := (h.runs rest true).repeatedly
  have hobject : openBrace ≠ openBracket := by decide
  simp only [if_neg hobject, if_true, Record.objectForm, hrun, Record.settle, ha]

end ChatGateway.Json
