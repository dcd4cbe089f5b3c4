import ChatGateway.Proofs.Json.Slots

/-!
# What a reader sees in a text

A reader has no use for all that a text says.  A record looks for the members of its fields
and passes over the others, whatever they are.  A `Grammar` says which texts a reader takes
and which tree it sees in each of them; the tree leaves out what is passed over, along with
blanks, the order of members and the spelling of characters.

A reader `Follows` a grammar if what it makes of a text of the grammar depends only on the
tree that it sees there, and if it takes no other texts.  Then it sees a tree in every body
that it decodes (`Follows.exists_tree`), and bodies in which it sees the same tree are decoded
alike (`Follows.decode_congr`).
-/

namespace ChatGateway.Json

open Reader

variable {α σ : Type}

/-! ## Grammars -/

/-- The texts that a reader takes, each with the tree that it sees there. -/
abbrev Grammar := List UInt8 → Tree → Prop

/-- Texts in quotation marks. -/
inductive TextGrammar : List UInt8 → Tree → Prop where
  | spelled {content : List UInt8} {s : String} (h : SpelledText content s) :
      TextGrammar (quote :: (content ++ [quote])) (.text s)

/-- Literals of numbers. -/
inductive NumberGrammar : List UInt8 → Tree → Prop where
  | literal {literal : List UInt8} (h : IsLiteral literal) : NumberGrammar literal (.number literal)

/-- Lists of what another grammar says. -/
inductive ListGrammar (item : Grammar) : List UInt8 → Tree → Prop where
  | items {items : List (Padded × Tree)} {inside : List UInt8} (hinside : IsGap inside)
      (hitems : ∀ i ∈ items, item i.1.text i.2) :
      ListGrammar item
        (openBracket :: (spread true (items.map Prod.fst) ++ (inside ++ [closeBracket])))
        (.array (items.map Prod.snd))

/-- The value of the member called `name`.  If no field asks for it, it may be any JSON, and
it does not matter which tree comes with it. -/
def IsValueOf (fields : List (String × Grammar)) (name : String) : Grammar := fun text t =>
  match fields.lookup name with
  | none => IsJson text
  | some grammar => grammar text t

/-- A member of an object with the given fields. -/
structure IsMemberOf (fields : List (String × Grammar)) (m : SpelledMember) : Prop where
  name : SpelledText m.key.text m.name
  value : IsValueOf fields m.name m.value.text m.tree

/-- The members that some field asks for. -/
def asked (fields : List (String × Grammar)) (spelled : List SpelledMember) :
    List (String × Tree) :=
  (spelled.filter fun m => (fields.lookup m.name).isSome).map fun m => (m.name, m.tree)

/-- Items for the first of the fields, in their order. -/
inductive ItemsOf : List (String × Grammar) → List (Padded × Tree) → Prop where
  | nil (fields : List (String × Grammar)) : ItemsOf fields []
  | cons {name : String} {grammar : Grammar} {fields : List (String × Grammar)}
      {i : Padded × Tree} {items : List (Padded × Tree)} (hitem : grammar i.1.text i.2)
      (h : ItemsOf fields items) : ItemsOf ((name, grammar) :: fields) (i :: items)

/-- **The texts of a record.**  In an object each field may have a member, in any order and
among any other members; in a list the items are for the fields in their order. -/
inductive RecordGrammar (fields : List (String × Grammar)) : List UInt8 → Tree → Prop where
  | object {spelled : List SpelledMember} {members : List (String × Tree)} {inside : List UInt8}
      (hinside : IsGap inside) (hmembers : ∀ m ∈ spelled, IsMemberOf fields m)
      (hnames : (members.map Prod.fst).Nodup) (hperm : (asked fields spelled).Perm members) :
      RecordGrammar fields
        (openBrace :: (spread true (spelled.map fun m => memberPiece m.key m.value) ++
          (inside ++ [closeBrace]))) (.object members)
  | list {items : List (Padded × Tree)} {inside : List UInt8} (hinside : IsGap inside)
      (hitems : ItemsOf fields items) :
      RecordGrammar fields
        (openBracket :: (spread true (items.map Prod.fst) ++ (inside ++ [closeBracket])))
        (.array (items.map Prod.snd))

/-- A body that is a text of the grammar, with any blanks around it. -/
def Grammar.Body (grammar : Grammar) (body : List UInt8) (t : Tree) : Prop :=
  ∃ p : Padded, grammar p.text t ∧ p.bytes = body

/-- Two bodies in which the same is seen. -/
def Grammar.Respelled (grammar : Grammar) (body body' : List UInt8) : Prop :=
  ∃ t, grammar.Body body t ∧ grammar.Body body' t

/-- A text of the grammar has been taken, with blanks before it, and `rest` is left. -/
def Grammar.Taken (grammar : Grammar) (text rest : List UInt8) : Prop :=
  ∃ gap taken t, IsGap gap ∧ grammar taken t ∧ text = gap ++ (taken ++ rest)

/-- In an object it matters only what the members say that are asked for.  They may come in
another order, others may be added or left out, and all may be spelled anew. -/
theorem RecordGrammar.exists_tree {fields : List (String × Grammar)}
    {spelled spelled' : List SpelledMember} {inside inside' : List UInt8} (hinside : IsGap inside)
    (hinside' : IsGap inside') (hmembers : ∀ m ∈ spelled, IsMemberOf fields m)
    (hmembers' : ∀ m ∈ spelled', IsMemberOf fields m)
    (hnames : ((asked fields spelled).map Prod.fst).Nodup)
    (hperm : (asked fields spelled').Perm (asked fields spelled)) :
    ∃ t,
      RecordGrammar fields
        (openBrace :: (spread true (spelled.map fun m => memberPiece m.key m.value) ++
          (inside ++ [closeBrace]))) t ∧
      RecordGrammar fields
        (openBrace :: (spread true (spelled'.map fun m => memberPiece m.key m.value) ++
          (inside' ++ [closeBrace]))) t :=
  ⟨_, .object hinside hmembers hnames (.refl _), .object hinside' hmembers' hnames hperm⟩

/-! ## Readers that follow a grammar -/

/-- The reader makes of the texts of the grammar what `f` makes of the trees in them, and
takes no others. -/
structure Follows (reader : Reader α) (grammar : Grammar) (f : Tree → Option α) : Prop where
  opens : ∀ {text t}, grammar text t → Opens text
  gives : ∀ {text t}, grammar text t → Gives reader text (f t)
  takes : ∀ {text a rest}, reader text = .ok (a, rest) → grammar.Taken text rest

/-- A body is decoded to what its tree comes to. -/
theorem Follows.decode {reader : Reader α} {grammar : Grammar} {f : Tree → Option α}
    (h : Follows reader grammar f) {body : List UInt8} {t : Tree} (hbody : grammar.Body body t) :
    (Json.decode reader body).toOption = f t := by
  obtain ⟨p, hp, rfl⟩ := hbody
  exact (h.gives hp).decode

/-- Every body that is decoded is a body of the grammar. -/
theorem Follows.exists_tree {reader : Reader α} {grammar : Grammar} {f : Tree → Option α}
    (h : Follows reader grammar f) {body : List UInt8} {a : α}
    (hdecode : Json.decode reader body = .ok a) : ∃ t, grammar.Body body t := by
  unfold Json.decode entire at hdecode
  cases hread : reader body with
  | error fault => simp [hread] at hdecode
  | ok read =>
      obtain ⟨a', rest⟩ := read
      obtain ⟨before, taken, t, hbefore, ht, rfl⟩ := h.takes hread
      cases hskip : skipBlanks rest with
      | nil =>
          obtain ⟨after, hafter, rfl⟩ := exists_gap_of_skipBlanks hskip
          rw [List.append_nil]
          exact ⟨t, ⟨before, taken, after, hbefore, hafter⟩, ht, rfl⟩
      | cons b unread => simp [hread, hskip, refuse] at hdecode

/-- **Bodies in which the same is seen are decoded alike.** -/
theorem Follows.decode_congr {reader : Reader α} {grammar : Grammar} {f : Tree → Option α}
    (h : Follows reader grammar f) {body body' : List UInt8}
    (hrespelled : grammar.Respelled body body') :
    (Json.decode reader body).toOption = (Json.decode reader body').toOption := by
  obtain ⟨t, hbody, hbody'⟩ := hrespelled
  rw [h.decode hbody, h.decode hbody']

/-- Every body that is decoded is a spelling of what is seen in it. -/
theorem Follows.respelled_self {reader : Reader α} {grammar : Grammar} {f : Tree → Option α}
    (h : Follows reader grammar f) {body : List UInt8} {a : α}
    (hdecode : Json.decode reader body = .ok a) : grammar.Respelled body body := by
  obtain ⟨t, hbody⟩ := h.exists_tree hdecode
  exact ⟨t, hbody, hbody⟩

/-! ## What is made of texts, numbers and lists -/

theorem TextGrammar.opens {text : List UInt8} {t : Tree} (h : TextGrammar text t) : Opens text := by
  cases h with
  | spelled h => exact (Spelled.text h).opens

theorem TextGrammar.gives {text : List UInt8} {t : Tree} (h : TextGrammar text t) :
    Gives string text t.text? := by
  cases h with
  | spelled h => exact understands_string _ _ (.text h) (.text _)

theorem NumberGrammar.opens {text : List UInt8} {t : Tree} (h : NumberGrammar text t) :
    Opens text := by
  cases h with
  | literal h => exact (Spelled.number h).opens

theorem NumberGrammar.isLiteral {text : List UInt8} {t : Tree} (h : NumberGrammar text t) :
    IsLiteral text := by
  cases h with
  | literal h => exact h

theorem NumberGrammar.gives {text : List UInt8} {t : Tree} (h : NumberGrammar text t)
    (expected : String) (convert : Number → Except Cause α) :
    Gives (numberOf expected convert) text (t.number? fun n => (convert n).toOption) := by
  cases h with
  | literal h => exact understands_numberOf expected convert _ _ (.number h) (.number _)

theorem ListGrammar.opens {item : Grammar} {text : List UInt8} {t : Tree}
    (h : ListGrammar item text t) : Opens text := by
  cases h with
  | items hinside hitems => exact opens_cons (by decide) (by decide)

theorem ListGrammar.gives {item : Reader α} {grammar : Grammar} {f : Tree → Option α}
    (hitem : Follows item grammar f) {text : List UInt8} {t : Tree}
    (h : ListGrammar grammar text t) : Gives (Reader.list item) text (t.items? f) := by
  cases h with
  | @items items inside hinside hitems =>
      refine gives_byFirst (by decide) fun rest _ => ?_
      have hpieces : ∀ i ∈ items, Opens i.1.text ∧ Outcome item i.1.text (f i.2) :=
        fun i hi => ⟨hitem.opens (hitems i hi), (hitem.gives (hitems i hi)).outcome⟩
      have hlist := listOf_spread hpieces hinside rest
      rw [if_pos rfl, List.append_assoc, List.append_assoc, List.singleton_append, hlist,
        Tree.items?, mapM_map_eq]

/-! ## What is made of records -/

/-- The slots read what the grammars of the fields say. -/
def FollowsAll (slots : List (Slot σ)) (fields : List (String × Grammar)) : Prop :=
  List.Forall₂ (fun s field => s.name = field.1 ∧ Follows s.reader field.2 s.ofTree?) slots fields

theorem FollowsAll.lookup_eq_none {slots : List (Slot σ)} {fields : List (String × Grammar)}
    (h : FollowsAll slots fields) {name : String}
    (hfind : slots.find? (·.name == name) = none) : fields.lookup name = none := by
  induction h with
  | nil => rfl
  | @cons s field slots fields hs _ ih =>
      obtain ⟨hname, -⟩ := hs
      rw [List.find?_cons] at hfind
      split at hfind
      · contradiction
      next hne =>
        rw [List.lookup_cons, ← hname, BEq.comm, hne]
        exact ih hfind

theorem FollowsAll.exists_lookup {slots : List (Slot σ)} {fields : List (String × Grammar)}
    (h : FollowsAll slots fields) {name : String} {s : Slot σ}
    (hfind : slots.find? (·.name == name) = some s) :
    ∃ grammar, fields.lookup name = some grammar ∧ Follows s.reader grammar s.ofTree? := by
  induction h with
  | nil => contradiction
  | @cons s' field slots fields hs _ ih =>
      obtain ⟨hname, hfollows⟩ := hs
      rw [List.find?_cons] at hfind
      rw [List.lookup_cons, ← hname, BEq.comm]
      split at hfind
      · obtain rfl := Option.some.inj hfind
        exact ⟨field.2, rfl, hfollows⟩
      · exact ih hfind

theorem FollowsAll.fits {slots : List (Slot σ)} {fields : List (String × Grammar)}
    (h : FollowsAll slots fields) {items : List (Padded × Tree)} (hitems : ItemsOf fields items) :
    Slot.Fits slots items := by
  induction hitems generalizing slots with
  | nil fields => exact .short slots
  | cons hitem _ ih =>
      cases h with
      | cons hs hslots =>
          obtain ⟨-, hfollows⟩ := hs
          exact .cons (hfollows.opens hitem) (hfollows.gives hitem) (ih hslots)

variable {record : Record σ α}

/-- Members that no field asks for are passed over. -/
theorem FollowsAll.foldlM_asked {slots : List (Slot σ)} {fields : List (String × Grammar)}
    (h : FollowsAll slots fields) (spelled : List SpelledMember) (draft : σ) :
    spelled.foldlM (fun draft m => Slot.place slots m.name draft m.tree) draft =
      (asked fields spelled).foldlM (fun draft m => Slot.place slots m.1 draft m.2) draft := by
  rw [asked, List.foldlM_map, List.foldlM_filter]
  refine congrArg (fun step => spelled.foldlM step draft) (funext fun draft => funext fun m => ?_)
  cases hfind : slots.find? (·.name == m.name) with
  | none => simp [Slot.place, hfind, h.lookup_eq_none hfind]
  | some s =>
      obtain ⟨grammar, hlookup, -⟩ := h.exists_lookup hfind
      simp [hlookup]

theorem RecordGrammar.opens {fields : List (String × Grammar)} {text : List UInt8} {t : Tree}
    (h : RecordGrammar fields text t) : Opens text := by
  cases h with
  | object hinside hmembers hnames hperm => exact opens_cons (by decide) (by decide)
  | list hinside hitems => exact opens_cons (by decide) (by decide)

/-- What a record makes of an object depends on the members that are asked for. -/
theorem Layout.outcome_asked (layout : Layout record) {fields : List (String × Grammar)}
    (hfields : FollowsAll layout.slots fields) {spelled : List SpelledMember}
    {members : List (String × Tree)} {inside : List UInt8} (hinside : IsGap inside)
    (hmembers : ∀ m ∈ spelled, IsMemberOf fields m) (hnames : (members.map Prod.fst).Nodup)
    (hperm : (asked fields spelled).Perm members) :
    Outcome record.objectForm
      (spread true (spelled.map fun m => memberPiece m.key m.value) ++ (inside ++ [closeBrace]))
      (layout.ofTree? (.object members)) := by
  have hacts (m : SpelledMember) (hm : m ∈ spelled) :
      Acts record m.key m.name m.value fun draft =>
        Slot.place layout.slots m.name draft m.tree := by
    have hvalue := (hmembers m hm).value
    unfold IsValueOf at hvalue
    refine layout.acts_place (hmembers m hm).name (fun hfind => ?_) fun s hfind => ?_
    · rwa [hfields.lookup_eq_none hfind] at hvalue
    · obtain ⟨grammar, hlookup, hfollows⟩ := hfields.exists_lookup hfind
      rw [hlookup] at hvalue
      exact hfollows.gives hvalue
  have hread := outcome_objectForm hacts hinside
  have hnames' := (hperm.map Prod.fst).nodup_iff.mpr hnames
  have hfind : (fun name => (asked fields spelled).lookup name) = fun name => members.lookup name :=
    funext fun name => lookup_perm hperm hnames' name
  rw [hfields.foldlM_asked, layout.foldlM_place hnames' _ fun s hs _ => layout.given_empty s hs,
    hfind] at hread
  exact hread

theorem RecordGrammar.gives (layout : Layout record) {fields : List (String × Grammar)}
    (hfields : FollowsAll layout.slots fields) {text : List UInt8} {t : Tree}
    (h : RecordGrammar fields text t) : Gives record.reader text (layout.ofTree? t) := by
  cases h with
  | object hinside hmembers hnames hperm =>
      exact gives_byFirst (by decide) (layout.outcome_asked hfields hinside hmembers hnames hperm)
  | list hinside hitems =>
      exact gives_byFirst (by decide) (layout.outcome_listForm (hfields.fits hitems) hinside)

end ChatGateway.Json
