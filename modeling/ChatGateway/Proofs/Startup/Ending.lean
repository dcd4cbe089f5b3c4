import ChatGateway.Proofs.Startup.Values
import ChatGateway.Startup

/-!
# How starting ends

Starting goes by the values of variables (`GoesBy`) if it makes settings of them and keeps to
their filter of the log.  Settings that cannot be used end it, with one entry that says why,
and so does an address that cannot be listened on; a process that has ended takes no requests
(`Stops`).

The values are the resolved ones, as long as the variables can hold what the file assigns
(`start_of_allHeld`).  If one of them cannot, setting it crashes the process before there is a
log, with a status of its own and a report on that value (`start_of_not_allHeld`).  So starting
goes by the resolved values exactly if they can be held (`goesBy_resolved_iff`).
-/

namespace ChatGateway.Startup

/-- The process ends with status 1, and has taken no requests. -/
structure Stops (outcome : Outcome) : Prop where
  status : outcome.ending.exitStatus? = some 1
  idle : ∀ network requests, outcome.ending.served network requests = []

/-- The filter of the log that values of variables ask for. -/
def filterOf (value : String → Option String) : Log.Filter :=
  Log.Filter.parse ((value "RUST_LOG").getD "info")

/-- The settings that are made of values of variables. -/
def settingsOf (idna : Url.Idna) (value : String → Option String) :
    Except Settings.Error Settings :=
  Settings.ofLookup idna fun v => value v.name

/-- The entry for settings that cannot be used, with all that is wrong. -/
def refusal (e : Settings.Error) : Log.Entry :=
  ⟨.error, .startup, "Invalid configuration: " ++ e.chain⟩

/-- Starting goes by values of variables. -/
structure GoesBy (machine : Machine) (value : String → Option String) (outcome : Outcome) :
    Prop where
  /-- Settings that cannot be used end it, and the log has one error. -/
  refused : ∀ e, settingsOf machine.idna value = .error e →
    Stops outcome ∧ outcome.ending = .badSettings e ∧
      (outcome.log.filter fun entry => entry.level == .error) =
        if (filterOf value).writes (refusal e) then [refusal e] else []
  /-- An address that cannot be listened on ends it. -/
  unbound : ∀ settings error, settingsOf machine.idna value = .ok settings →
    machine.bind settings.host settings.portNumber = some error →
      Stops outcome ∧ outcome.ending = .unbound error
  listens : ∀ settings, settingsOf machine.idna value = .ok settings →
    machine.bind settings.host settings.portNumber = none → outcome.ending = .listening settings
  /-- The filter is in force from the first entry on. -/
  announced : (filterOf value).writes starting = true → starting ∈ outcome.log
  filtered : ∀ entry ∈ outcome.log, (filterOf value).writes entry = true

variable {machine : Machine} {value : String → Option String}

theorem stops_badSettings (e : Settings.Error) (log : List Log.Entry) :
    Stops ⟨.badSettings e, log⟩ := ⟨rfl, fun _ _ => rfl⟩

theorem stops_unbound (error : BindError) (log : List Log.Entry) :
    Stops ⟨.unbound error, log⟩ := ⟨rfl, fun _ _ => rfl⟩

/-- What starting comes to with values of variables. -/
def begun (machine : Machine) (value : String → Option String) : Outcome :=
  let outcome := begin machine (settingsOf machine.idna value)
  { outcome with log := outcome.log.filter (filterOf value).writes }

theorem starting_mem_begin (machine : Machine) (settings : Except Settings.Error Settings) :
    starting ∈ (begin machine settings).log := by
  unfold begin
  split
  · exact List.mem_cons_self
  · dsimp only
    split <;> exact List.mem_cons_self

theorem goesBy_begun (machine : Machine) (value : String → Option String) :
    GoesBy machine value (begun machine value) where
  refused e he := by
    unfold begun
    rw [he]
    refine ⟨stops_badSettings e _, rfl, ?_⟩
    show ([starting, refusal e].filter (filterOf value).writes).filter _ = _
    -- of the two entries that may be written, the second is the error
    rw [List.filter_comm]
    show [refusal e].filter (filterOf value).writes = _
    rw [List.filter_singleton, Bool.cond_eq_ite]
  unbound settings error hsettings hbind := by
    unfold begun
    rw [hsettings, begin, hbind]
    exact ⟨stops_unbound error _, rfl⟩
  listens settings hsettings hbind := by
    unfold begun
    rw [hsettings, begin, hbind]
  announced hwrites := List.mem_filter.mpr ⟨starting_mem_begin machine _, hwrites⟩
  filtered entry hentry := (List.mem_filter.mp hentry).2

variable {set : List (String × List UInt8)} {file : Option (List UInt8)}

/-- **Starting uses the resolved values.** -/
theorem start_of_allHeld (h : AllHeld set file) :
    start machine (.ofProcess set) file = begun machine (resolved set file) := by
  rcases withFile_resolves set file with ⟨unheld, -, hfirst⟩ | ⟨-, env, hset, hvalues⟩
  · exact absurd h hfirst.not_holds
  have hvalue : env.value? = resolved set file := funext hvalues
  have hsettings : (fun v : Settings.Variable => env.value? v.name) =
      fun v => resolved set file v.name := by rw [hvalue]
  have hfilter : logFilter env = filterOf (resolved set file) := by
    rw [logFilter, filterOf, ← hvalue]
    rfl
  rw [start, hset]
  dsimp only
  rw [hsettings, hfilter]
  rfl

/-- A value that cannot be held crashes the process at once. -/
theorem start_of_not_allHeld (machine : Machine) (h : ¬ AllHeld set file) :
    ∃ unheld, start machine (.ofProcess set) file = ⟨.badFile unheld, []⟩ ∧
      FirstUnheld (.ofProcess set) (fileAssignments (.ofProcess set) file) unheld := by
  rcases withFile_resolves set file with ⟨unheld, hset, hfirst⟩ | ⟨hall, -⟩
  · exact ⟨unheld, by rw [start, hset], hfirst⟩
  · exact absurd hall h

/-- A process that crashes at once does not go by the values of variables. -/
theorem not_goesBy_badFile (machine : Machine) (value : String → Option String)
    (unheld : Unheld) : ¬ GoesBy machine value ⟨.badFile unheld, []⟩ := by
  intro h
  cases hsettings : settingsOf machine.idna value with
  | error e =>
      have hending := (h.refused e hsettings).2.1
      contradiction
  | ok settings =>
      cases hbind : machine.bind settings.host settings.portNumber with
      | some error =>
          have hending := (h.unbound settings error hsettings hbind).2
          contradiction
      | none =>
          have hending := h.listens settings hsettings hbind
          contradiction

/-- The process has crashed over a value: it ends with a status of its own, reports which
variable cannot hold which value, has taken no requests, and leaves nothing in the log. -/
structure Crashes (machine : Machine) (unheld : Unheld) (outcome : Outcome) : Prop where
  status : outcome.ending.exitStatus? = some 101
  report : outcome.ending.complaint machine = crashReport machine unheld.env unheld.message
  idle : ∀ network requests, outcome.ending.served network requests = []
  silent : outcome.log = []

theorem crashes_badFile (machine : Machine) (unheld : Unheld) :
    Crashes machine unheld ⟨.badFile unheld, []⟩ := ⟨rfl, rfl, fun _ _ => rfl, rfl⟩

/-- **How starting ends.**  It goes by the values that the variables resolve to exactly if
they can hold what the file would give to them.  If one of them cannot, the process crashes
over the first such value. -/
theorem goesBy_resolved_iff (machine : Machine) (set : List (String × List UInt8))
    (file : Option (List UInt8)) :
    (GoesBy machine (resolved set file) (start machine (.ofProcess set) file) ↔
      AllHeld set file) ∧
    (¬ AllHeld set file →
      ∃ unheld, FirstUnheld (.ofProcess set) (fileAssignments (.ofProcess set) file) unheld ∧
        Crashes machine unheld (start machine (.ofProcess set) file)) := by
  constructor
  · constructor
    · intro hgoes
      by_contra hnot
      obtain ⟨unheld, hstart, -⟩ := start_of_not_allHeld machine hnot
      rw [hstart] at hgoes
      exact not_goesBy_badFile machine _ unheld hgoes
    · intro hall
      rw [start_of_allHeld hall]
      exact goesBy_begun machine _
  · intro hnot
    obtain ⟨unheld, hstart, hfirst⟩ := start_of_not_allHeld machine hnot
    rw [hstart]
    exact ⟨unheld, hfirst, crashes_badFile machine unheld⟩

/-- A machine that lets the gateway listen on any address. -/
def anywhere : Machine where
  bind _ _ := none

/-- A NUL in the file ends the process with another status than missing settings do. -/
theorem not_always_goesBy : ¬ ∀ (machine : Machine) (set : List (String × List UInt8))
    (file : Option (List UInt8)),
      GoesBy machine (resolved set file) (start machine (.ofProcess set) file) := by
  intro h
  have hgoes := h anywhere [] (some (Utf8.bytes "A=\x00\n"))
  have hmissing : resolved [] (some (Utf8.bytes "A=\x00\n")) "LLM_API_URL" = none := by
    decide +kernel
  have hstops := (hgoes.refused .urlMissing (by
    rw [settingsOf, Settings.ofLookup, Settings.Variable.name, hmissing, Settings.readUrl])).1
  have hstatus :
      (start anywhere (.ofProcess []) (some (Utf8.bytes "A=\x00\n"))).ending.exitStatus? =
        some 101 := by decide +kernel
  rw [hstops.status] at hstatus
  contradiction

end ChatGateway.Startup
