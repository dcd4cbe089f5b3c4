import ChatGateway.Proofs.Json.Spelled

/-!
# The form of JSON

`IsJson` is the grammar of JSON without a meaning: it says which texts have the form of a
value, and not what they say.  Inside the marks of a text it asks for less than the
standard does.  Bytes need not be UTF-8 there, and a unit in hexadecimal need not belong to
a character.  An object may have a name twice, and brackets may nest as deep as they like.

That is the form a value has to have to be passed over, and every text of a tree has it
(`Spelled.isJson`).
-/

namespace ChatGateway.Json

open Reader

/-! ## Texts -/

/-- The pieces of a text that is passed over. -/
inductive LoosePiece : List UInt8 → Prop where
  | byte {b : UInt8} (hquote : b ≠ quote) (hbackslash : b ≠ backslash)
      (hcontrol : isControl b = false) : LoosePiece [b]
  | short {letter c : Char} (h : (letter, c) ∈ shortEscapes) :
      LoosePiece [backslash, Ascii.byte letter]
  | unit {digits : List UInt8} {unit : Nat} (h : IsHexUnit digits unit) :
      LoosePiece (backslash :: hexMark :: digits)

/-- What may stand between the marks of a text that is passed over. -/
def IsLooseText (content : List UInt8) : Prop :=
  ∃ pieces : List (List UInt8), (∀ p ∈ pieces, LoosePiece p) ∧ content = pieces.flatten

theorem isLooseText_nil : IsLooseText [] := ⟨[], by simp, rfl⟩

theorem IsLooseText.append {content content' : List UInt8} (h : IsLooseText content)
    (h' : IsLooseText content') : IsLooseText (content ++ content') := by
  obtain ⟨pieces, hpieces, rfl⟩ := h
  obtain ⟨pieces', hpieces', rfl⟩ := h'
  refine ⟨pieces ++ pieces', fun p hp => ?_, List.flatten_append.symm⟩
  rcases List.mem_append.mp hp with hp | hp
  · exact hpieces p hp
  · exact hpieces' p hp

theorem LoosePiece.isLooseText {piece : List UInt8} (h : LoosePiece piece) : IsLooseText piece :=
  ⟨[piece], by simpa using h, by simp⟩

theorem isLooseText_of_plain {bytes : List UInt8}
    (h : ∀ b ∈ bytes, b ≠ quote ∧ b ≠ backslash ∧ isControl b = false) : IsLooseText bytes := by
  induction bytes with
  | nil => exact isLooseText_nil
  | cons b bytes ih =>
      obtain ⟨⟨hquote, hbackslash, hcontrol⟩, hbytes⟩ := List.forall_mem_cons.mp h
      exact (LoosePiece.byte hquote hbackslash hcontrol).isLooseText.append (ih hbytes)

theorem SpelledChar.isLooseText {piece : List UInt8} {c : Char} (h : SpelledChar piece c) :
    IsLooseText piece := by
  cases h with
  | raw hquote hbackslash hcontrol =>
      exact isLooseText_of_plain (plain_of_mem_encode hquote hbackslash hcontrol)
  | short h => exact (LoosePiece.short h).isLooseText
  | unit h => exact (LoosePiece.unit h).isLooseText
  | pair hpast hleading htrailing =>
      exact (LoosePiece.unit hleading).isLooseText.append (LoosePiece.unit htrailing).isLooseText

theorem SpelledText.isLooseText {content : List UInt8} {s : String} (h : SpelledText content s) :
    IsLooseText content := by
  obtain ⟨pieces, hpieces, rfl, -⟩ := h
  induction pieces with
  | nil => exact isLooseText_nil
  | cons p pieces ih =>
      obtain ⟨hp, hpieces⟩ := List.forall_mem_cons.mp hpieces
      rw [List.flatMap_cons]
      exact hp.isLooseText.append (ih hpieces)

/-! ## Values -/

/-- **The texts that have the form of JSON.** -/
inductive IsJson : List UInt8 → Prop where
  | null : IsJson (Utf8.bytes "null")
  | bool (b : Bool) : IsJson (Utf8.bytes (if b then "true" else "false"))
  | number {literal : List UInt8} (h : IsLiteral literal) : IsJson literal
  | text {content : List UInt8} (h : IsLooseText content) : IsJson (quote :: (content ++ [quote]))
  | array {items : List Padded} {inside : List UInt8} (hinside : IsGap inside)
      (hitems : ∀ i ∈ items, IsJson i.text) :
      IsJson (openBracket :: (spread true items ++ (inside ++ [closeBracket])))
  | object {members : List (Padded × Padded)} {inside : List UInt8} (hinside : IsGap inside)
      (hnames : ∀ m ∈ members, IsLooseText m.1.text) (hvalues : ∀ m ∈ members, IsJson m.2.text) :
      IsJson (openBrace :: (spread true (members.map fun m => memberPiece m.1 m.2) ++
        (inside ++ [closeBrace])))

/-- Every text of a tree has the form of JSON. -/
theorem Spelled.isJson {text : List UInt8} {t : Tree} (h : Spelled text t) : IsJson text := by
  induction h with
  | null => exact .null
  | bool b => exact .bool b
  | number h => exact .number h
  | text h => exact .text h.isLooseText
  | array hinside _ ih => exact .array hinside (List.forall_mem_map.mpr ih)
  | @object spelled _ inside hinside hnames _ _ ih =>
      have hobject := @IsJson.object (spelled.map fun m => (m.key, m.value)) inside hinside
        (List.forall_mem_map.mpr fun m hm => (hnames m hm).isLooseText)
        (List.forall_mem_map.mpr ih)
      rwa [List.map_map] at hobject

/-- A value begins with what may begin an item of a list. -/
theorem IsJson.opens {text : List UInt8} (h : IsJson text) : Opens text := by
  cases h with
  | null =>
      rw [bytes_null]
      exact opens_cons (by decide) (by decide)
  | bool b =>
      cases b with
      | true =>
          rw [if_pos rfl, bytes_true]
          exact opens_cons (by decide) (by decide)
      | false =>
          rw [if_neg (by decide), bytes_false]
          exact opens_cons (by decide) (by decide)
  | number h =>
      obtain ⟨b, more, rfl, hb, -⟩ := h.exists_cons
      exact opens_cons (isBlank_of_begins hb) (ne_of_begins hb (by decide) (by decide))
  | text h => exact opens_cons (by decide) (by decide)
  | array hinside hitems => exact opens_cons (by decide) (by decide)
  | object hinside hnames hvalues => exact opens_cons (by decide) (by decide)

end ChatGateway.Json
