import ChatGateway.Startup.Environment
import Mathlib

/-!
# What a line says in an environment

A line may name variables, and then it says something else where they have other values.
Nothing but the values matters (`Line.ofBytes_congr`), and they matter little.  They are put
into the value that is assigned, but what they hold is never looked at
(`ValueDraft.read_alike`).  So all environments agree on which lines can be read, and on the
names that these lines assign (`Line.parse_alike`).
-/

namespace ChatGateway.Startup

/-! ## Environments with the same values -/

namespace Environment

/-- Two environments give every variable the same value. -/
def SameValues (env env' : Environment) : Prop := ∀ name, env.value? name = env'.value? name

variable {env env' : Environment}

theorem value?_append (env more : Environment) (name : String) :
    Environment.value? (env ++ more) name = (env.value? name).or (more.value? name) :=
  List.lookup_append

theorem value?_cons (name value : String) (env : Environment) (other : String) :
    Environment.value? ((name, value) :: env) other =
      if other = name then some value else env.value? other := by
  by_cases hother : other = name
  · subst hother
    rw [if_pos rfl]
    exact List.lookup_cons_self
  · have hfalse : (other == name) = false := beq_false_of_ne hother
    rw [if_neg hother, Environment.value?, List.lookup_cons, hfalse]
    rfl

theorem SameValues.append (h : SameValues env env') (more : Environment) :
    SameValues (env ++ more) (env' ++ more) := by
  intro name
  rw [value?_append, value?_append, h name]

/-- Another value for a variable that is set does not count. -/
theorem SameValues.append_of_isSome {name : String} (h : SameValues env env')
    (hset : (env.value? name).isSome = true) (value : String) :
    SameValues env (env' ++ [(name, value)]) := by
  intro other
  rw [value?_append, ← h other]
  by_cases hname : other = name
  · subst hname
    rw [Option.or_of_isSome hset]
  · rw [value?_cons, if_neg hname]
    exact (Option.or_none).symm

end Environment

open Environment (SameValues)

/-! ## Values -/

namespace ValueDraft

variable {env env' : Environment}

theorem substitute_congr (h : SameValues env env') (draft : ValueDraft) :
    draft.substitute env = draft.substitute env' := by
  unfold substitute
  cases draft.name with
  | none => rfl
  | some named => simp only [h (String.ofList named.2.reverse)]

theorem nameStep_congr (h : SameValues env env') (draft : ValueDraft) (braced : Bool)
    (name : List Char) (c : Char) :
    draft.nameStep env braced name c = draft.nameStep env' braced name c := by
  unfold nameStep
  rw [substitute_congr h]

theorem read_congr (h : SameValues env env') (draft : ValueDraft) (cs : List Char) :
    read env draft cs = read env' draft cs := by
  induction cs generalizing draft with
  | nil => rfl
  | cons c cs ih => simp only [read, ih, nameStep_congr h]

theorem value?_congr (h : SameValues env env') (draft : ValueDraft) :
    draft.value? env = draft.value? env' := by
  unfold value?
  rw [substitute_congr h]

/-- Two drafts are alike but for their characters. -/
def Alike (draft draft' : ValueDraft) : Prop := ∃ chars, draft' = { draft with chars }

variable {draft draft' : ValueDraft}

theorem Alike.push (h : draft.Alike draft') (c : Char) : (draft.push c).Alike (draft'.push c) := by
  obtain ⟨chars, rfl⟩ := h
  exact ⟨c :: chars, rfl⟩

theorem Alike.substitute (h : draft.Alike draft') (env env' : Environment) :
    (draft.substitute env).Alike (draft'.substitute env') := by
  obtain ⟨chars, rfl⟩ := h
  obtain ⟨_, quoting, escaped, ended, name⟩ := draft
  cases name with
  | none => exact ⟨chars, rfl⟩
  | some named => exact ⟨_, rfl⟩

theorem Alike.withName (h : draft.Alike draft') (name : Option (Bool × List Char)) :
    Alike { draft with name } { draft' with name } := by
  obtain ⟨chars, rfl⟩ := h
  exact ⟨chars, rfl⟩

theorem Alike.nameStep (h : draft.Alike draft') (env env' : Environment) (braced : Bool)
    (name : List Char) (c : Char) :
    (draft.nameStep env braced name c).Alike (draft'.nameStep env' braced name c) := by
  unfold ValueDraft.nameStep
  split
  · exact h.withName _
  split
  · split
    · exact h.substitute env env'
    · exact h.withName _
  split
  · exact h.withName _
  split
  · exact (h.substitute env env').withName _
  · exact (h.substitute env env').push c

theorem Alike.plainStep (h : draft.Alike draft') (c : Char) :
    (draft.plainStep c).Alike (draft'.plainStep c) := by
  have hpush := h.push c
  obtain ⟨chars, rfl⟩ := h
  obtain ⟨_, quoting, escaped, ended, name⟩ := draft
  unfold ValueDraft.plainStep
  -- a character is added, or a mark is set that has nothing to do with the characters
  cases quoting <;> dsimp only <;> split_ifs <;> first | exact hpush | exact ⟨chars, rfl⟩

theorem Alike.escape? (h : draft.Alike draft') (c : Char) :
    Option.Rel Alike (draft.escape? c) (draft'.escape? c) := by
  have hunescaped : Alike { draft with escaped := false } { draft' with escaped := false } := by
    obtain ⟨chars, rfl⟩ := h
    exact ⟨chars, rfl⟩
  unfold ValueDraft.escape?
  dsimp only
  split
  · exact .some (hunescaped.push _)
  split
  · exact .some (hunescaped.push c)
  · exact .none

/-- **What the variables hold does not matter to the reading of a value.** -/
theorem read_alike (env env' : Environment) (h : draft.Alike draft') (cs : List Char) :
    Option.Rel Alike (read env draft cs) (read env' draft' cs) := by
  induction cs generalizing draft draft' with
  | nil => exact .some h
  | cons c cs ih =>
      have hended : draft'.ended = draft.ended := by
        obtain ⟨chars, rfl⟩ := h
        rfl
      have hescaped : draft'.escaped = draft.escaped := by
        obtain ⟨chars, rfl⟩ := h
        rfl
      have hname : draft'.name = draft.name := by
        obtain ⟨chars, rfl⟩ := h
        rfl
      unfold read
      rw [hended, hescaped, hname]
      split
      · -- only blanks and a comment are left
        split
        · exact ih h
        split
        · exact .some h
        · exact .none
      split
      · have hescape := h.escape? c
        revert hescape
        cases draft.escape? c <;> cases draft'.escape? c <;> intro hescape <;> cases hescape
        · exact .none
        next hnext => exact ih hnext
      cases draft.name with
      | none => exact ih (h.plainStep c)
      | some named => exact ih (h.nameStep env env' named.1 named.2 c)

theorem Alike.isSome_value? (h : draft.Alike draft') (env env' : Environment) :
    (draft.value? env).isSome = (draft'.value? env').isSome := by
  obtain ⟨chars, rfl⟩ := h
  unfold ValueDraft.value?
  dsimp only
  split <;> rfl

end ValueDraft

/-! ## Lines -/

namespace Line

variable {env env' : Environment}

theorem readValue_congr (h : SameValues env env') (name : String) (cs : List Char) :
    readValue env name cs = readValue env' name cs := by
  unfold readValue
  simp only [ValueDraft.read_congr h, ValueDraft.value?_congr h]

theorem parse_congr (h : SameValues env env') (line : String) :
    parse env line = parse env' line := by
  unfold parse
  simp only [readValue_congr h]

/-- Two lines say the same but for the value that is assigned. -/
inductive Alike : Line → Line → Prop where
  | blank : Alike .blank .blank
  | assignment (name value value' : String) :
      Alike (.assignment name value) (.assignment name value')
  | broken : Alike .broken .broken

theorem readValue_alike (env env' : Environment) (name : String) (cs : List Char) :
    Alike (readValue env name cs) (readValue env' name cs) := by
  unfold readValue
  dsimp only
  split
  · exact .assignment name _ _
  have hempty : ValueDraft.Alike {} {} := ⟨[], rfl⟩
  have hread := ValueDraft.read_alike env env' hempty (cs.dropWhile Text.isBlank)
  revert hread
  generalize ValueDraft.read env {} _ = draft?, ValueDraft.read env' {} _ = draft'?
  intro hread
  cases hread with
  | none => exact .broken
  | some halike =>
      have hvalue := halike.isSome_value? env env'
      revert hvalue
      simp only [Option.bind_some]
      generalize ValueDraft.value? env _ = value?, ValueDraft.value? env' _ = value'?
      intro hvalue
      cases value? <;> cases value'? <;> first | contradiction | constructor

/-- **What the variables hold does not matter to which lines can be read.** -/
theorem parse_alike (env env' : Environment) (line : String) :
    Alike (parse env line) (parse env' line) := by
  unfold parse
  dsimp only
  split
  · exact .blank
  split
  · exact .broken
  · exact readValue_alike env env' _ _
  split
  · split
    · exact readValue_alike env env' _ _
    · exact .broken
  · exact .broken

/-- What the bytes of a line say; bytes that are no text cannot be read. -/
def ofBytes (env : Environment) (bytes : List UInt8) : Line :=
  match Utf8.text? bytes with
  | none => .broken
  | some line => .parse env line

theorem ofBytes_congr (h : SameValues env env') (bytes : List UInt8) :
    ofBytes env bytes = ofBytes env' bytes := by
  unfold ofBytes
  split
  · rfl
  · exact parse_congr h _

/-- Whether the bytes of a line can be read. -/
def isReadable (bytes : List UInt8) : Bool := ofBytes [] bytes != .broken

theorem isReadable_eq_false_iff (env : Environment) (bytes : List UInt8) :
    isReadable bytes = false ↔ ofBytes env bytes = .broken := by
  have halike : Alike (ofBytes [] bytes) (ofBytes env bytes) := by
    unfold ofBytes
    split
    · exact .broken
    · exact parse_alike [] env _
  revert halike
  unfold isReadable
  generalize ofBytes [] bytes = line, ofBytes env bytes = line'
  intro halike
  cases halike <;> simp

theorem isReadable_of_ne {bytes : List UInt8} (h : ofBytes env bytes ≠ .broken) :
    isReadable bytes = true := by
  rw [← Bool.not_eq_false, isReadable_eq_false_iff env]
  exact h

end Line

end ChatGateway.Startup
