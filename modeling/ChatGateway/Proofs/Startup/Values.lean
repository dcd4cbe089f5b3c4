import ChatGateway.Proofs.Startup.Lines

/-!
# Where the value of a variable comes from

A variable has the value that the process sets, if it is a text, and otherwise the first one
that the file assigns before its first line that cannot be read (`resolved`).

Loading the lines keeps the environment in step with the assignments so far: a name that is
assigned again is passed over by the loading, and shadowed among the assignments.  The loading
fails exactly if a variable would get a value that it cannot hold, and then it fails at the
first of these (`loadLines_resolves`).
-/

namespace ChatGateway.Startup

open Environment (SameValues)

/-! ## Assignments -/

/-- The lines before the first one that cannot be read. -/
def readableLines (lines : List (List UInt8)) : List (List UInt8) :=
  lines.takeWhile Line.isReadable

/-- What lines assign, in their order.  Each value is read with the values that variables
have in the environment, or that they have been assigned first in the lines before. -/
def assignments (env : Environment) : List (List UInt8) → List (String × String)
  | [] => []
  | bytes :: lines =>
    match Line.ofBytes env bytes with
    | .assignment name value => (name, value) :: assignments (env ++ [(name, value)]) lines
    | _ => assignments env lines

/-- The value of a variable in an environment, or the first that it is assigned. -/
def valueIn (env : Environment) (assigned : List (String × String)) (name : String) :
    Option String :=
  (env.value? name).or (assigned.lookup name)

/-- Every value that a variable would get by an assignment is one that it can hold. -/
def Holds (env : Environment) (assigned : List (String × String)) : Prop :=
  ∀ name value, env.value? name = none → assigned.lookup name = some value →
    Environment.canHold value = true

theorem lookup_cons_eq (name value : String) (assigned : List (String × String))
    (other : String) : List.lookup other ((name, value) :: assigned) =
      if other = name then some value else assigned.lookup other :=
  Environment.value?_cons name value assigned other

theorem valueIn_cons (env : Environment) (name value : String) (assigned : List (String × String)) :
    valueIn env ((name, value) :: assigned) = valueIn (env ++ [(name, value)]) assigned := by
  funext other
  rw [valueIn, valueIn, Environment.value?_append, Environment.value?_cons, Option.or_assoc,
    lookup_cons_eq]
  split_ifs <;> rfl

/-- An assignment adds a value that has to be held, unless the variable is set. -/
theorem holds_cons_iff (env : Environment) (name value : String)
    (assigned : List (String × String)) :
    Holds env ((name, value) :: assigned) ↔
      (env.value? name = none → Environment.canHold value = true) ∧
        Holds (env ++ [(name, value)]) assigned := by
  constructor
  · intro h
    refine ⟨fun hunset => h name value hunset ?_, fun other text hunset hlookup => ?_⟩
    · rw [lookup_cons_eq, if_pos rfl]
    · rw [Environment.value?_append, Option.or_eq_none_iff, Environment.value?_cons] at hunset
      obtain ⟨hunset, hother⟩ := hunset
      -- the assignment is not one of this variable
      have hne : other ≠ name := by
        intro heq
        rw [if_pos heq] at hother
        contradiction
      apply h other text hunset
      rw [lookup_cons_eq, if_neg hne, hlookup]
  · rintro ⟨hname, h⟩ other text hunset hlookup
    rw [lookup_cons_eq] at hlookup
    by_cases hother : other = name
    · subst hother
      rw [if_pos rfl] at hlookup
      exact Option.some.inj hlookup ▸ hname hunset
    · rw [if_neg hother] at hlookup
      apply h other text _ hlookup
      rw [Environment.value?_append, hunset, Environment.value?_cons, if_neg hother]
      rfl

/-! ## Loading -/

section

variable {env env' : Environment}

theorem loadLines_cons (env : Environment) (bytes : List UInt8) (lines : List (List UInt8)) :
    loadLines env (bytes :: lines) =
      match Line.ofBytes env bytes with
      | .blank => loadLines env lines
      | .assignment name value => env.setNew name value >>= (loadLines · lines)
      | .broken => .ok env := by
  rw [loadLines, Line.ofBytes]
  cases Utf8.text? bytes with
  | none => rfl
  | some line =>
      dsimp only
      cases Line.parse env line with
      | blank => rfl
      | broken => rfl
      | assignment name value =>
          dsimp only
          cases env.setNew name value <;> rfl

theorem setNew_of_isSome {name : String} (h : (env.value? name).isSome = true) (value : String) :
    env.setNew name value = .ok env := if_pos h

theorem setNew_of_canHold {name value : String} (h : env.value? name = none)
    (hvalue : Environment.canHold value = true) :
    env.setNew name value = .ok (env ++ [(name, value)]) := by
  rw [Environment.setNew, h, if_neg (by simp), if_pos hvalue]

theorem setNew_of_not_canHold {name value : String} (h : env.value? name = none)
    (hvalue : ¬ Environment.canHold value = true) :
    env.setNew name value = .error { name, value, env } := by
  rw [Environment.setNew, h, if_neg (by simp), if_neg hvalue]

/-- Where some values have been assigned, a variable would get one that it cannot hold. -/
structure UnheldAfter (env : Environment) (assigned : List (String × String)) (unheld : Unheld) :
    Prop where
  /-- It is the first of its kind. -/
  holds : Holds env assigned
  unset : valueIn env assigned unheld.name = none
  tooMuch : ¬ Environment.canHold unheld.value = true
  env : ∀ name, unheld.env.value? name = valueIn env assigned name

/-- The first value among those assigned that its variable cannot hold. -/
def FirstUnheld (env : Environment) (assigned : List (String × String)) (unheld : Unheld) : Prop :=
  ∃ before after, assigned = before ++ (unheld.name, unheld.value) :: after ∧
    UnheldAfter env before unheld

theorem FirstUnheld.not_holds {assigned : List (String × String)} {unheld : Unheld}
    (h : FirstUnheld env assigned unheld) : ¬ Holds env assigned := by
  obtain ⟨before, after, rfl, hunheld⟩ := h
  obtain ⟨hunset, hlookup⟩ := Option.or_eq_none_iff.mp hunheld.unset
  refine fun hholds => hunheld.tooMuch (hholds unheld.name _ hunset ?_)
  rw [List.lookup_append, hlookup, Option.none_or, lookup_cons_eq, if_pos rfl]

theorem FirstUnheld.cons {name value : String} {assigned : List (String × String)}
    {unheld : Unheld} (h : FirstUnheld (env ++ [(name, value)]) assigned unheld)
    (hvalue : env.value? name = none → Environment.canHold value = true) :
    FirstUnheld env ((name, value) :: assigned) unheld := by
  obtain ⟨before, after, rfl, hunheld⟩ := h
  refine ⟨(name, value) :: before, after, rfl, ?_⟩
  constructor
  case holds => exact (holds_cons_iff _ _ _ _).mpr ⟨hvalue, hunheld.holds⟩
  case unset => rw [valueIn_cons, hunheld.unset]
  case tooMuch => exact hunheld.tooMuch
  case env =>
    rw [valueIn_cons]
    exact hunheld.env

/-- What loading lines comes to, in terms of what they assign. -/
def Resolves (env : Environment) (assigned : List (String × String)) :
    Except Unheld Environment → Prop
  | .error unheld => FirstUnheld env assigned unheld
  | .ok loaded => Holds env assigned ∧ ∀ name, loaded.value? name = valueIn env assigned name

theorem Resolves.cons {name value : String} {assigned : List (String × String)}
    {loaded : Except Unheld Environment} (h : Resolves (env ++ [(name, value)]) assigned loaded)
    (hvalue : env.value? name = none → Environment.canHold value = true) :
    Resolves env ((name, value) :: assigned) loaded := by
  cases loaded with
  | error unheld => exact FirstUnheld.cons h hvalue
  | ok loaded =>
      refine ⟨(holds_cons_iff _ _ _ _).mpr ⟨hvalue, h.1⟩, fun other => ?_⟩
      rw [valueIn_cons]
      exact h.2 other

/-- Where nothing is assigned, all stays as it is. -/
theorem resolves_nil (h : SameValues env env') : Resolves env' [] (.ok env) := by
  refine ⟨fun name value _ hlookup => by contradiction, fun name => ?_⟩
  rw [h name]
  exact (Option.or_none).symm

/-- The first assignment fails at once if its value cannot be held. -/
theorem resolves_unheld (h : SameValues env env') {name value : String}
    (hset : env.value? name = none) (hvalue : ¬ Environment.canHold value = true)
    (assigned : List (String × String)) :
    Resolves env' ((name, value) :: assigned) (.error { name, value, env }) := by
  refine ⟨[], assigned, rfl, ?_⟩
  obtain ⟨hholds, hvalues⟩ := resolves_nil h
  exact ⟨hholds, by rw [← hvalues, hset], hvalue, hvalues⟩

theorem readableLines_cons (bytes : List UInt8) (lines : List (List UInt8)) :
    readableLines (bytes :: lines) =
      if Line.isReadable bytes then bytes :: readableLines lines else [] := by
  rw [readableLines, List.takeWhile_cons]
  rfl

/-- **Loading gives every variable its first value.**  The environment that is loaded may hold
less than the one that the lines are read in, but it has the same values. -/
theorem loadLines_resolves (h : SameValues env env') (lines : List (List UInt8)) :
    Resolves env' (assignments env' (readableLines lines)) (loadLines env lines) := by
  induction lines generalizing env env' with
  | nil => exact resolves_nil h
  | cons bytes lines ih =>
      rw [loadLines_cons, readableLines_cons]
      have hsame := Line.ofBytes_congr h bytes
      cases hline : Line.ofBytes env' bytes with
      | broken =>
          rw [hsame, hline, (Line.isReadable_eq_false_iff env' bytes).mpr hline]
          exact resolves_nil h
      | blank =>
          have hne : Line.ofBytes env' bytes ≠ .broken := by simp [hline]
          rw [hsame, hline, if_pos (Line.isReadable_of_ne hne), assignments, hline]
          exact ih h
      | assignment name value =>
          have hne : Line.ofBytes env' bytes ≠ .broken := by simp [hline]
          rw [hsame, hline, if_pos (Line.isReadable_of_ne hne), assignments, hline]
          dsimp only
          cases hset : env.value? name with
          | some text =>
              have hsome : (env.value? name).isSome = true := by rw [hset]; rfl
              rw [setNew_of_isSome hsome]
              refine (ih (h.append_of_isSome hsome value)).cons fun hunset => ?_
              rw [← h name, hset] at hunset
              contradiction
          | none =>
              by_cases hvalue : Environment.canHold value = true
              · rw [setNew_of_canHold hset hvalue]
                exact (ih (h.append _)).cons fun _ => hvalue
              · rw [setNew_of_not_canHold hset hvalue]
                exact resolves_unheld h hset hvalue _

end

/-! ## The process and the file -/

theorem value?_filter (env : Environment) (name other : String) :
    Environment.value? (env.filter fun (named, _) => named != name) other =
      if other = name then none else env.value? other := by
  induction env with
  | nil => exact (ite_self none).symm
  | cons entry env ih =>
      obtain ⟨named, value⟩ := entry
      by_cases hnamed : named = name
      · rw [List.filter_cons_of_neg (by simp [hnamed]), ih, Environment.value?_cons, hnamed]
        split_ifs <;> rfl
      · rw [List.filter_cons_of_pos (by simp [hnamed]), Environment.value?_cons,
          Environment.value?_cons, ih]
        by_cases hother : other = named
        · rw [if_pos hother, if_pos hother, if_neg (hother ▸ hnamed)]
        · rw [if_neg hother, if_neg hother]

/-- **A process sets a variable if its first value is a text.** -/
theorem value?_ofProcess (set : List (String × List UInt8)) (name : String) :
    (Environment.ofProcess set).value? name = (set.lookup name).bind Utf8.text? := by
  induction set with
  | nil => rfl
  | cons entry set ih =>
      obtain ⟨named, bytes⟩ := entry
      rw [Environment.ofProcess, List.lookup_cons]
      by_cases hname : name = named
      · subst hname
        rw [beq_self_eq_true]
        dsimp only
        rw [Option.bind_some]
        cases Utf8.text? bytes with
        | none => rw [value?_filter, if_pos rfl]
        | some text => rw [Environment.value?_cons, if_pos rfl]
      · rw [beq_false_of_ne hname, ← ih]
        dsimp only
        cases Utf8.text? bytes with
        | none => rw [value?_filter, if_neg hname]
        | some text => rw [Environment.value?_cons, if_neg hname, value?_filter, if_neg hname]

/-- What the lines of a file assign, if there is a file, up to the first that cannot be
read. -/
def fileAssignments (process : Environment) (file : Option (List UInt8)) :
    List (String × String) :=
  assignments process (readableLines ((file.map fileLines).getD []))

/-- The value of a variable: the first one that the process sets, if it is a text, or else
the first one that the file assigns. -/
def resolved (set : List (String × List UInt8)) (file : Option (List UInt8)) (name : String) :
    Option String :=
  ((set.lookup name).bind Utf8.text?).or
    ((fileAssignments (.ofProcess set) file).lookup name)

/-- Every value that the file would give to a variable is one that it can hold. -/
def AllHeld (set : List (String × List UInt8)) (file : Option (List UInt8)) : Prop :=
  Holds (.ofProcess set) (fileAssignments (.ofProcess set) file)

theorem valueIn_fileAssignments (set : List (String × List UInt8)) (file : Option (List UInt8))
    (name : String) : valueIn (.ofProcess set) (fileAssignments (.ofProcess set) file) name =
      resolved set file name := by
  rw [valueIn, value?_ofProcess, resolved]

/-- **Setting up the environment.**  It fails at the first variable that cannot hold what the
file would give to it, and otherwise every variable has the value that it resolves to. -/
theorem withFile_resolves (set : List (String × List UInt8)) (file : Option (List UInt8)) :
    (∃ unheld, (Environment.ofProcess set).withFile file = .error unheld ∧
        FirstUnheld (.ofProcess set) (fileAssignments (.ofProcess set) file) unheld) ∨
      AllHeld set file ∧ ∃ env, (Environment.ofProcess set).withFile file = .ok env ∧
        ∀ name, env.value? name = resolved set file name := by
  have hload : (Environment.ofProcess set).withFile file =
      loadLines (.ofProcess set) ((file.map fileLines).getD []) := by
    cases file <;> rfl
  have hsame : SameValues (.ofProcess set) (.ofProcess set) := fun _ => rfl
  have hresolves := loadLines_resolves hsame ((file.map fileLines).getD [])
  rw [← hload] at hresolves
  cases hset : (Environment.ofProcess set).withFile file with
  | error unheld =>
      rw [hset] at hresolves
      exact Or.inl ⟨unheld, rfl, hresolves⟩
  | ok env =>
      rw [hset] at hresolves
      refine Or.inr ⟨hresolves.1, env, rfl, fun name => ?_⟩
      rw [← valueIn_fileAssignments]
      exact hresolves.2 name

end ChatGateway.Startup
