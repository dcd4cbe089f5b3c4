import ChatGateway.Json.Decode
import ChatGateway.Proofs.Json.Located.Number
import ChatGateway.Proofs.Json.Located.Text

/-!
# Records are read inside their bytes

Values that are skipped, lists and records are read in steps, and each step keeps to its
text, so all of it does.  A record has its fields read by readers of their own; as long as
these keep, so does the reader of the record (`Record.keeps_reader`), whichever form it is
written in, and whichever refusal it ends with: some of them are found only when the last
member has been read, or are about a member that is not there at all.
-/

namespace ChatGateway.Json.Reader

variable {α σ : Type}

/-! ## Values that are skipped -/

theorem keeps_skipName : Keeps skipName := by
  intro text
  refine keepsTo_blanks text fun b text => ?_
  refine KeepsTo.cons ?_ b
  split
  · split
    next fault hskip => exact (keeps_skipText text).suffix_of_error hskip
    next rest hskip =>
      refine KeepsTo.mono ?_ ((keeps_skipText text).suffix_of_ok hskip)
      refine keepsTo_blanks rest fun c rest => ?_
      split
      · exact List.suffix_cons c rest
      · exact List.suffix_cons c rest
  · exact List.suffix_rfl

/-- Behind a value that has been skipped, the skipping goes on. -/
theorem KeepsTo.again {text rest : List UInt8} {reader : Reader Unit}
    (h : KeepsTo text (reader rest)) (stack : List Bracket) :
    KeepsTo text (match reader rest with
      | .error fault => .error fault
      | .ok (_, rest) =>
        .ok ((.again (.next, stack) : Turn (Expecting × List Bracket) Unit), rest)) := by
  split
  next fault hread => exact h.suffix_of_error hread
  next rest' hread => exact h.suffix_of_ok hread

theorem keeps_skipValueStep (stack : List Bracket) : Keeps (skipValueStep stack) := by
  intro text
  refine keepsTo_blanks text fun b text => ?_
  split
  · exact ((keeps_expectWord wordNull text).cons b).again stack
  split
  · exact ((keeps_expectWord wordTrue text).cons b).again stack
  split
  · exact ((keeps_expectWord wordFalse text).cons b).again stack
  split
  · exact (keepsTo_skipNumber b text).again stack
  split
  · exact ((keeps_skipText text).cons b).again stack
  split
  · exact List.suffix_cons b text
  split
  · exact List.suffix_cons b text
  · exact List.suffix_cons b text

theorem keeps_skipEntry (stack : List Bracket) (bracket : Bracket) :
    Keeps (skipEntry stack bracket) := by
  intro text
  cases bracket with
  | list => exact keeps_skipValueStep stack text
  | object =>
      unfold skipEntry
      dsimp only
      split
      next fault hskip => exact (keeps_skipName text).suffix_of_error hskip
      next rest hskip => exact (keeps_skipName text).suffix_of_ok hskip

theorem keeps_skipStep (state : Expecting × List Bracket) : Keeps (skipStep state) := by
  intro text
  unfold skipStep
  split
  · exact keeps_skipValueStep _ text
  · exact List.suffix_rfl
  next expecting bracket stack _ =>
    refine keepsTo_blanks text fun b rest => ?_
    split
    · exact List.suffix_cons b rest
    split
    · split
      · exact (keeps_skipEntry _ bracket rest).cons b
      · exact List.suffix_cons b rest
    · exact keeps_skipEntry _ bracket (b :: rest)

theorem keeps_skipValue : Keeps skipValue := keeps_repeatedly keeps_skipStep (.value, [])

/-! ## Lists and members -/

theorem keeps_nextItem (first : Bool) : Keeps (nextItem first) := by
  intro text
  refine keepsTo_blanks text fun b rest => ?_
  split
  · exact List.suffix_rfl
  split
  · exact List.suffix_rfl
  split
  · refine KeepsTo.cons ?_ b
    refine keepsTo_blanks rest fun c rest => ?_
    split
    · exact List.suffix_cons c rest
    · exact List.suffix_rfl
  · exact List.suffix_cons b rest

theorem keeps_closeList : Keeps closeList := by
  intro text
  refine keepsTo_blanks text fun b rest => ?_
  split
  · exact List.suffix_cons b rest
  split
  · refine KeepsTo.cons ?_ b
    exact keepsTo_blanks rest fun c rest => List.suffix_cons c rest
  · exact List.suffix_cons b rest

theorem keeps_itemStep {item : Reader α} (h : Keeps item) (items : List α) :
    Keeps (itemStep item items) := by
  intro text
  unfold itemStep
  split
  next fault hnext => exact (keeps_nextItem _ text).suffix_of_error hnext
  next rest hnext =>
    exact (List.drop_suffix 1 rest).trans ((keeps_nextItem _ text).suffix_of_ok hnext)
  next rest hnext =>
    refine KeepsTo.mono ?_ ((keeps_nextItem _ text).suffix_of_ok hnext)
    split
    next fault hitem => exact (h rest).suffix_of_error hitem
    next a rest' hitem => exact (h rest).suffix_of_ok hitem

theorem keeps_listOf {item : Reader α} (h : Keeps item) : Keeps (listOf item) :=
  keeps_repeatedly (keeps_itemStep h) []

theorem keeps_nextMember (first : Bool) : Keeps (nextMember first) := by
  intro text
  refine keepsTo_blanks text fun b rest => ?_
  split
  · exact List.suffix_rfl
  split
  · split
    · exact List.suffix_cons b rest
    · exact List.suffix_cons b rest
  split
  · refine KeepsTo.cons ?_ b
    refine keepsTo_blanks rest fun c rest => ?_
    split
    · exact List.suffix_cons c rest
    · exact List.suffix_cons c rest
  · exact List.suffix_cons b rest

theorem keeps_nameEnd : Keeps nameEnd := by
  intro text
  refine keepsTo_blanks text fun b rest => ?_
  split
  · exact List.suffix_cons b rest
  · exact List.suffix_cons b rest

/-! ## Values of a given kind -/

theorem keepsTo_scalar (b : UInt8) (text : List UInt8) : KeepsTo (b :: text) (scalar b text) := by
  unfold scalar
  split
  · exact (keeps_map (keeps_expectWord wordNull) _ text).cons b
  split
  · exact (keeps_map (keeps_expectWord wordTrue) _ text).cons b
  split
  · exact (keeps_map (keeps_expectWord wordFalse) _ text).cons b
  split
  · exact (keepsTo_number b text).map _
  split
  · exact (keeps_map keeps_text _ text).cons b
  · exact List.suffix_cons b text

theorem keepsTo_mistyped (expected : String) (b : UInt8) (text : List UInt8) :
    KeepsTo (b :: text) ((mistyped expected b : Reader α) text) := by
  unfold mistyped
  split
  · exact List.suffix_rfl
  split
  · exact List.suffix_rfl
  split
  next fault hread => exact (keepsTo_scalar b text).suffix_of_error hread
  next v rest hread => exact (keepsTo_scalar b text).suffix_of_ok hread

theorem keeps_byFirst {reader : UInt8 → Reader α}
    (h : ∀ b text, KeepsTo (b :: text) (reader b text)) : Keeps (byFirst reader) :=
  fun text => keepsTo_blanks text h

theorem keeps_string : Keeps string := by
  refine keeps_byFirst fun b text => ?_
  split
  · exact (keeps_text text).cons b
  · exact keepsTo_mistyped _ b text

theorem keeps_numberOf (expected : String) (convert : Number → Except Cause α) :
    Keeps (numberOf expected convert) := by
  refine keeps_byFirst fun b text => ?_
  split
  · have hnumber := keepsTo_number b text
    dsimp only
    split
    next fault hread => exact hnumber.suffix_of_error hread
    next n rest hread =>
      have hrest := hnumber.suffix_of_ok hread
      split
      · exact hrest
      · exact hrest
  · exact keepsTo_mistyped expected b text

theorem keeps_list {item : Reader α} (h : Keeps item) : Keeps (list item) := by
  refine keeps_byFirst fun b text => ?_
  split
  · exact (keeps_listOf h text).cons b
  · exact keepsTo_mistyped _ b text

/-! ## Records -/

namespace Record

variable {record : Record σ α}

/-- Every field is read by a reader that keeps, whatever has been read before. -/
def FieldsKeep (fields : List (Field σ)) : Prop :=
  ∀ field ∈ fields, ∀ draft, Keeps (field.read draft)

theorem keepsTo_settle (draft : σ) (unread : List UInt8) :
    KeepsTo unread (record.settle draft unread) := by
  unfold settle
  split
  · exact List.suffix_rfl
  · exact List.suffix_rfl

theorem keeps_positions {fields : List (Field σ)} (h : FieldsKeep fields) (index : Nat)
    (draft : σ) : Keeps (record.positions fields index draft) := by
  induction fields generalizing index draft with
  | nil =>
      intro text
      exact List.suffix_rfl
  | cons field fields ih =>
      obtain ⟨hfield, hfields⟩ := List.forall_mem_cons.mp h
      intro text
      unfold positions
      split
      next fault hnext => exact (keeps_nextItem _ text).suffix_of_error hnext
      next rest hnext =>
        refine KeepsTo.mono ?_ ((keeps_nextItem _ text).suffix_of_ok hnext)
        split
        next fault hread => exact (hfield draft rest).suffix_of_error hread
        next draft' rest' hread =>
          exact (ih hfields _ draft' rest').mono ((hfield draft rest).suffix_of_ok hread)
      next rest hnext =>
        refine KeepsTo.mono ?_ ((keeps_nextItem _ text).suffix_of_ok hnext)
        split
        · exact ih hfields _ draft rest
        · exact List.drop_suffix 1 rest

theorem keeps_listForm (h : FieldsKeep record.fields) : Keeps record.listForm := by
  intro text
  have hpositions : KeepsTo text (record.positions record.fields 0 record.empty text) :=
    keeps_positions h 0 record.empty text
  unfold listForm
  split
  next fault hread => exact hpositions.suffix_of_error hread
  next draft rest hread =>
    refine KeepsTo.mono ?_ (hpositions.suffix_of_ok hread)
    split
    next fault hclose => exact (keeps_closeList rest).suffix_of_error hclose
    next rest' hclose =>
      exact (keepsTo_settle draft rest').mono ((keeps_closeList rest).suffix_of_ok hclose)

theorem afterRepeated_suffix (text : List UInt8) : afterRepeated text <:+ text := by
  have hblanks : skipBlanks text <:+ text := List.dropWhile_suffix isBlank
  unfold afterRepeated
  split
  · exact List.nil_suffix
  next b rest hskip =>
    rw [hskip] at hblanks
    split
    · exact (List.suffix_cons b rest).trans hblanks
    · exact hblanks

theorem keeps_memberValue (h : FieldsKeep record.fields) (name : String) (draft : σ) :
    Keeps (record.memberValue name draft) := by
  intro text
  unfold memberValue
  split
  · split
    next fault hname => exact (keeps_nameEnd text).suffix_of_error hname
    next rest hname =>
      exact (keeps_map keeps_skipValue _ rest).mono ((keeps_nameEnd text).suffix_of_ok hname)
  next field hfind =>
    have hfield := h field (List.mem_of_find?_eq_some hfind)
    split
    · exact afterRepeated_suffix text
    split
    next fault hname => exact (keeps_nameEnd text).suffix_of_error hname
    next rest hname => exact (hfield draft rest).mono ((keeps_nameEnd text).suffix_of_ok hname)

theorem keeps_fieldStep (h : FieldsKeep record.fields) (state : Bool × σ) :
    Keeps (record.fieldStep state) := by
  intro text
  obtain ⟨first, draft⟩ := state
  unfold fieldStep
  dsimp only
  split
  next fault hnext => exact (keeps_nextMember _ text).suffix_of_error hnext
  next rest hnext =>
    exact (List.drop_suffix 1 rest).trans ((keeps_nextMember _ text).suffix_of_ok hnext)
  next rest hnext =>
    refine KeepsTo.mono ?_ ((keeps_nextMember _ text).suffix_of_ok hnext)
    split
    next fault hname => exact (keeps_text rest).suffix_of_error hname
    next name rest₁ hname =>
      have hvalue := keeps_memberValue h name draft rest₁
      refine KeepsTo.mono ?_ ((keeps_text rest).suffix_of_ok hname)
      split
      next fault hread => exact hvalue.suffix_of_error hread
      next draft' rest₂ hread => exact hvalue.suffix_of_ok hread

theorem keeps_objectForm (h : FieldsKeep record.fields) : Keeps record.objectForm := by
  intro text
  have hmembers := keeps_repeatedly (keeps_fieldStep h) (true, record.empty) text
  unfold objectForm
  split
  next fault hread => exact hmembers.suffix_of_error hread
  next draft rest hread =>
    exact (keepsTo_settle draft rest).mono (hmembers.suffix_of_ok hread)

/-- **A record is read inside its bytes**, as long as its fields are. -/
theorem keeps_reader (h : FieldsKeep record.fields) : Keeps record.reader := by
  refine keeps_byFirst fun b text => ?_
  split
  · exact (keeps_listForm h text).cons b
  split
  · exact (keeps_objectForm h text).cons b
  · exact keepsTo_mistyped _ b text

end Record

/-! ## Whole bodies -/

/-- A body that is refused as a whole is refused at a place in it. -/
theorem suffix_of_entire {reader : Reader α} (h : Keeps reader) {body : List UInt8}
    {fault : Fault} (hentire : reader.entire body = .error fault) : fault.unread <:+ body := by
  unfold entire at hentire
  split at hentire
  next fault' hread =>
    obtain rfl := Except.error.inj hentire
    exact (h body).suffix_of_error hread
  next a rest hread =>
    have hrest := (h body).suffix_of_ok hread
    have hblanks : skipBlanks rest <:+ rest := List.dropWhile_suffix isBlank
    split at hentire
    · contradiction
    next b unread hskip =>
      obtain rfl := Except.error.inj hentire
      rw [hskip] at hblanks
      exact (List.suffix_cons b unread).trans (hblanks.trans hrest)

end ChatGateway.Json.Reader
