import ChatGateway.Proofs.Json.Gives
import ChatGateway.Proofs.Json.Integer

/-!
# Texts that are read as a value

`Reads reader text a` says that the reader takes the whole of `text`, and makes `a` of
it, in any surroundings: only what follows may not continue a number.  Readers of lists
and objects are built from readers of what stands inside, and so are these facts; the
texts are put together the way the writer does it, without blanks (`listed`,
`memberText`).
-/

namespace ChatGateway.Json

open Reader

variable {α β γ : Type}

/-- The reader takes the whole text, whatever ends it, and gives `a`. -/
def Reads (reader : Reader α) (text : List UInt8) (a : α) : Prop :=
  ∀ rest, EndsNumber rest → reader (text ++ rest) = .ok (a, rest)

/-- A text that is read as a whole is decoded. -/
theorem Reads.decode {reader : Reader α} {text : List UInt8} {a : α} (h : Reads reader text a) :
    decode reader text = .ok a := by
  have hread := h [] endsNumber_nil
  rw [List.append_nil] at hread
  simp [Json.decode, Reader.entire, hread, skipBlanks]

theorem Reads.map {reader : Reader α} {text : List UInt8} {a : α} (h : Reads reader text a)
    (f : α → β) : Reads (Reader.map f reader) text (f a) := by
  intro rest hrest
  rw [Reader.map, h rest hrest]

theorem reads_iff_outcome {reader : Reader α} {text : List UInt8} {a : α} :
    Reads reader text a ↔ Outcome reader text (some a) :=
  ⟨fun h rest hrest => toOption_eq_some_iff.mpr (h rest hrest), fun h _ hrest => h.ok hrest⟩

/-! ## Lists -/

/-- Texts of items or members, each behind what stands before it. -/
def listed (first : Bool) : List (List UInt8) → List UInt8
  | [] => []
  | text :: texts => lead first ++ (text ++ listed false texts)

/-- The text of a list with the given items. -/
def listText (items : List (List UInt8)) : List UInt8 :=
  openBracket :: (listed true items ++ [closeBracket])

/-- The text of an object with the given members. -/
def objectText (members : List (List UInt8)) : List UInt8 :=
  openBrace :: (listed true members ++ [closeBrace])

theorem spread_bare (first : Bool) (texts : List (List UInt8)) :
    spread first (texts.map Padded.bare) = listed first texts := by
  induction texts generalizing first with
  | nil => rfl
  | cons text texts ih => rw [List.map_cons, spread, listed, ih]; rfl

/-- What follows an item or a member ends a number. -/
theorem endsNumber_listed (texts : List (List UInt8)) {close : UInt8} (rest : List UInt8)
    (hclose : close = closeBracket ∨ close = closeBrace) :
    EndsNumber (listed false texts ++ close :: rest) := by
  rw [← spread_bare]
  exact endsNumber_spread _ isGap_nil hclose rest

/-- The items of a list are read one after the other. -/
theorem reads_listOf {item : Reader α} {text : γ → List UInt8} {f : γ → α} {items : List γ}
    (hitems : ∀ i ∈ items, Opens (text i) ∧ Reads item (text i) (f i)) (rest : List UInt8) :
    listOf item (listed true (items.map text) ++ closeBracket :: rest) =
      .ok (items.map f, rest) := by
  have hpieces : ∀ i ∈ items,
      Opens (Padded.bare (text i)).text ∧ Outcome item (Padded.bare (text i)).text (some (f i)) :=
    fun i hi => ⟨(hitems i hi).1, reads_iff_outcome.mp (hitems i hi).2⟩
  have hread := listOf_spread hpieces isGap_nil rest
  rw [mapM_eq_some (g := f) fun _ _ => rfl, List.nil_append] at hread
  rw [← spread_bare, List.map_map]
  exact toOption_eq_some_iff.mp hread

/-! ## Objects -/

/-- A member of an object: its name, and its value in the given text. -/
def memberText (name : String) (value : List UInt8) : List UInt8 :=
  quote :: (writtenChars name ++ quote :: colon :: value)

theorem memberPiece_bare (name : String) (value : List UInt8) :
    memberPiece (.bare (writtenChars name)) (.bare value) = .bare (memberText name value) := rfl

theorem nextMember_close (first : Bool) (rest : List UInt8) :
    nextMember first (closeBrace :: rest) = .ok (false, closeBrace :: rest) :=
  nextMember_gap_close isGap_nil first rest

theorem nextMember_lead (first : Bool) (rest : List UInt8) :
    nextMember first (lead first ++ quote :: rest) = .ok (true, rest) :=
  nextMember_gap_lead isGap_nil isGap_nil first rest

theorem nameEnd_colon (rest : List UInt8) : nameEnd (colon :: rest) = .ok ((), rest) :=
  nameEnd_gap_colon isGap_nil rest

/-- The members of an object are read one after the other. -/
theorem reads_objectOf {item : Reader α} {members : List (List UInt8 × String × α)}
    (hmembers : ∀ m ∈ members, Reads item m.1 m.2.2) (rest : List UInt8) :
    objectOf item (listed true (members.map fun m => memberText m.2.1 m.1) ++ closeBrace :: rest) =
      .ok (members.map Prod.snd, rest) := by
  have hnames : ∀ m ∈ members, Names (Padded.bare (writtenChars m.2.1)).text m.2.1 :=
    fun m _ => text_writtenChars m.2.1
  have hvalues : ∀ m ∈ members,
      Outcome item ((Padded.bare m.1).before ++ (Padded.bare m.1).text) (some m.2.2) :=
    fun m hm => reads_iff_outcome.mp (hmembers m hm)
  have hread := objectOf_spread hnames hvalues isGap_nil rest
  simp only [memberPiece_bare, Option.map_some, List.nil_append] at hread
  rw [mapM_eq_some (g := Prod.snd) fun _ _ => rfl] at hread
  rw [← spread_bare, List.map_map]
  exact toOption_eq_some_iff.mp hread

/-! ## What is written -/

theorem bytes_intercalate (texts : List String) :
    Utf8.bytes (String.intercalate "," texts) = listed true (texts.map Utf8.bytes) := by
  have hcomma : Utf8.bytes "," = [comma] := by decide
  induction texts with
  | nil => rfl
  | cons s texts ih =>
      cases texts with
      | nil => simp [listed, lead]
      | cons t texts =>
          rw [String.intercalate_cons_cons, Utf8.bytes_append, Utf8.bytes_append, ih, hcomma]
          simp [listed, lead]

theorem bytes_array (items : List String) :
    Utf8.bytes (Writer.array items) = listText (items.map Utf8.bytes) := by
  have hopen : Utf8.bytes "[" = [openBracket] := by decide
  have hclose : Utf8.bytes "]" = [closeBracket] := by decide
  simp [Writer.array, Utf8.bytes_append, hopen, hclose, bytes_intercalate, listText]

theorem bytes_member (m : String × String) :
    Utf8.bytes (Writer.member m) = memberText m.1 (Utf8.bytes m.2) := by
  have hcolon : Utf8.bytes ":" = [colon] := by decide
  simp [Writer.member, Utf8.bytes_append, hcolon, bytes_text, memberText]

theorem bytes_object (members : List (String × String)) :
    Utf8.bytes (Writer.object members) =
      objectText (members.map fun m => memberText m.1 (Utf8.bytes m.2)) := by
  have hopen : Utf8.bytes "\x7b" = [openBrace] := by decide
  have hclose : Utf8.bytes "\x7d" = [closeBrace] := by decide
  simp [Writer.object, Utf8.bytes_append, hopen, hclose, bytes_intercalate, objectText,
    Function.comp_def, bytes_member]

end ChatGateway.Json
