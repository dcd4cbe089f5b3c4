import ChatGateway.Proofs.Text.Trim
import ChatGateway.Settings

/-!
# Which variables make settings

The URL has to be there, and it has to be one (`GivesUrl`); the TCP number may be left out,
but what is there has to be one (`GivesNumber`); the host is taken as it is.  Digits are
put together one after the other, and the number is refused as soon as it grows past 16 bits.
Since a number never shrinks when digits follow, this refuses no number that fits
(`appendDigits_eq_ok_iff`), and zeros in front count for nothing.

The URL is looked at first.  So an error that names the TCP number says that the URL is one
(`names_of_ofLookup`).  White space around the URL and the number is trimmed off before
either is read, and therefore never shows (`GivesUrl.of_rel`, `GivesNumber.of_rel`).
-/

namespace ChatGateway.Settings

open Text (IsPadding Trims)

/-! ## TCP numbers -/

/-- The value of a digit. -/
def digitValue (c : Char) : ℕ := c.toNat - '0'.toNat

/-- The number that digits stand for in the decimal system. -/
def decimalValue (digits : List Char) : ℕ := Nat.ofDigits 10 (digits.map digitValue).reverse

theorem decimalValue_cons (c : Char) (cs : List Char) :
    decimalValue (c :: cs) = digitValue c * 10 ^ cs.length + decimalValue cs := by
  unfold decimalValue
  rw [List.map_cons, List.reverse_cons, Nat.ofDigits_append, Nat.ofDigits_singleton,
    List.length_reverse, List.length_map]
  ring

/-- How a number is written: in digits, with a plus sign before them or none. -/
inductive Numeral : List Char → ℕ → Prop where
  | plain {digits : List Char} (hne : digits ≠ []) (hdigits : ∀ c ∈ digits, c.isDigit = true) :
      Numeral digits (decimalValue digits)
  | signed {digits : List Char} (hne : digits ≠ []) (hdigits : ∀ c ∈ digits, c.isDigit = true) :
      Numeral ('+' :: digits) (decimalValue digits)

/-- Digits that follow a number are appended exactly if the result fits 16 bits. -/
theorem appendDigits_eq_ok_iff {cs : List Char} {value n : ℕ} (hvalue : value < UInt16.size) :
    appendDigits value cs = .ok n ↔
      (∀ c ∈ cs, c.isDigit = true) ∧ n < UInt16.size ∧
        n = value * 10 ^ cs.length + decimalValue cs := by
  induction cs generalizing value with
  | nil =>
      have hnil : value * 10 ^ ([] : List Char).length + decimalValue [] = value := by
        simp [decimalValue]
      rw [hnil]
      constructor
      · intro h
        obtain rfl := Except.ok.inj h
        exact ⟨List.forall_mem_nil _, hvalue, rfl⟩
      · rintro ⟨-, -, rfl⟩
        rfl
  | cons c cs ih =>
      have hvalues : value * 10 ^ (c :: cs).length + decimalValue (c :: cs) =
          (value * 10 + digitValue c) * 10 ^ cs.length + decimalValue cs := by
        rw [decimalValue_cons, List.length_cons, pow_succ]
        ring
      have hstep : appendDigits value (c :: cs) =
          if c.isDigit then
            if value * 10 + digitValue c < UInt16.size then
              appendDigits (value * 10 + digitValue c) cs
            else .error .tooLarge
          else .error .invalidDigit := rfl
      rw [hstep, hvalues, List.forall_mem_cons]
      by_cases hc : c.isDigit = true
      · rw [if_pos hc]
        by_cases hfits : value * 10 + digitValue c < UInt16.size
        · rw [if_pos hfits, ih hfits]
          simp only [hc, true_and]
        · -- what is too large already does not get smaller
          rw [if_neg hfits]
          have hgrows : value * 10 + digitValue c ≤
              (value * 10 + digitValue c) * 10 ^ cs.length :=
            Nat.le_mul_of_pos_right _ (Nat.pow_pos (by decide))
          refine iff_of_false (fun h => by contradiction) ?_
          rintro ⟨-, hn, rfl⟩
          omega
      · rw [if_neg hc]
        refine iff_of_false (fun h => by contradiction) ?_
        rintro ⟨⟨hdigit, -⟩, -⟩
        exact hc hdigit

/-- Without a plus sign all characters are digits of the number. -/
theorem parseNumber_of_ne {c : Char} (hc : c ≠ '+') (cs : List Char) :
    parseNumber (c :: cs) = appendDigits 0 (c :: cs) := by
  unfold parseNumber
  split
  next heq => contradiction
  next heq => exact absurd (List.cons.inj heq).1 hc
  · rfl

theorem appendDigits_zero_iff {cs : List Char} {n : ℕ} :
    appendDigits 0 cs = .ok n ↔
      (∀ c ∈ cs, c.isDigit = true) ∧ n ≤ 65535 ∧ n = decimalValue cs := by
  have hsize : n < UInt16.size ↔ n ≤ 65535 := Nat.lt_succ_iff
  rw [appendDigits_eq_ok_iff (by decide), hsize, Nat.zero_mul, Nat.zero_add]

/-- **A TCP number is read from its numerals.** -/
theorem parseNumber_eq_ok_iff {cs : List Char} {n : ℕ} :
    parseNumber cs = .ok n ↔ Numeral cs n ∧ n ≤ 65535 := by
  constructor
  · intro h
    unfold parseNumber at h
    split at h
    · contradiction
    next c cs =>
      obtain ⟨hdigits, hn, rfl⟩ := appendDigits_zero_iff.mp h
      exact ⟨.signed (List.cons_ne_nil c cs) hdigits, hn⟩
    next hnil _ =>
      obtain ⟨hdigits, hn, rfl⟩ := appendDigits_zero_iff.mp h
      exact ⟨.plain hnil hdigits, hn⟩
  · rintro ⟨hnumeral, hn⟩
    cases hnumeral with
    | plain hne hdigits =>
        obtain ⟨c, ds, rfl⟩ := List.exists_cons_of_ne_nil hne
        have hplus : c ≠ '+' := by
          rintro rfl
          exact absurd (hdigits '+' List.mem_cons_self) (by decide)
        rw [parseNumber_of_ne hplus]
        exact appendDigits_zero_iff.mpr ⟨hdigits, hn, rfl⟩
    | signed hne hdigits =>
        obtain ⟨c, ds, rfl⟩ := List.exists_cons_of_ne_nil hne
        exact appendDigits_zero_iff.mpr ⟨hdigits, hn, rfl⟩

/-! ## Variables -/

variable {idna : Url.Idna}

/-- A variable gives a URL: it is set, and what is left of its value without the white space
around it is something, and a URL. -/
inductive GivesUrl (idna : Url.Idna) : Option String → Url → Prop where
  | given {raw text : String} {url : Url} (htrims : Trims raw text) (hne : text ≠ "")
      (hparse : Url.parse idna text = .ok url) : GivesUrl idna (some raw) url

/-- A variable gives a TCP number: it is not set, or what is left of its value without the
white space around it is the numeral of a number of 16 bits. -/
inductive GivesNumber : Option String → UInt16 → Prop where
  | unset : GivesNumber none defaultNumber
  | given {raw text : String} {value : ℕ} {n : UInt16} (htrims : Trims raw text)
      (hnumeral : Numeral text.toList value) (hle : value ≤ 65535) (hn : n.toNat = value) :
      GivesNumber (some raw) n

/-- A URL is read from a text with something in it. -/
theorem readUrl_of_ne {raw text : String} (htrims : Trims raw text) (hne : text ≠ "") :
    readUrl idna (some raw) = (Url.parse idna text).mapError (Error.urlInvalid raw) := by
  have hempty : ¬ text.isEmpty = true := fun h => hne (String.isEmpty_iff.mp h)
  rw [← Text.trim_eq_iff] at htrims
  simp only [readUrl, htrims, if_neg hempty]
  cases Url.parse idna text with
  | error reason => rfl
  | ok url => rfl

theorem readUrl_of_blank {raw : String} (htrims : Trims raw "") :
    readUrl idna (some raw) = .error .urlMissing := by
  rw [← Text.trim_eq_iff] at htrims
  simp only [readUrl, htrims]
  rfl

theorem readUrl_eq_ok_iff {raw : Option String} {url : Url} :
    readUrl idna raw = .ok url ↔ GivesUrl idna raw url := by
  constructor
  · intro h
    cases raw with
    | none => cases h
    | some raw =>
        have htrims := Text.trims_trim raw
        generalize Text.trim raw = text at htrims
        by_cases hne : text = ""
        · subst hne
          rw [readUrl_of_blank htrims] at h
          cases h
        · rw [readUrl_of_ne htrims hne] at h
          cases hparse : Url.parse idna text with
          | error reason =>
              rw [hparse] at h
              cases h
          | ok url' =>
              rw [hparse] at h
              obtain rfl := Except.ok.inj h
              exact .given htrims hne hparse
  · rintro ⟨htrims, hne, hparse⟩
    rw [readUrl_of_ne htrims hne, hparse]
    rfl

theorem readNumber_eq_ok_iff {raw : Option String} {n : UInt16} :
    readNumber raw = .ok n ↔ GivesNumber raw n := by
  constructor
  · intro h
    unfold readNumber at h
    split at h
    · obtain rfl := Except.ok.inj h
      exact .unset
    next raw =>
      split at h
      · contradiction
      next value hvalue =>
        obtain rfl := Except.ok.inj h
        obtain ⟨hnumeral, hle⟩ := parseNumber_eq_ok_iff.mp hvalue
        have hn : (Nat.toUInt16 value).toNat = value := Nat.mod_eq_of_lt (by omega)
        exact .given (Text.trims_trim raw) hnumeral hle hn
  · intro h
    cases h with
    | unset => rfl
    | given htrims hnumeral hle hn =>
        rw [← Text.trim_eq_iff] at htrims
        have hvalue := parseNumber_eq_ok_iff.mpr ⟨hnumeral, hle⟩
        simp only [readNumber, htrims, hvalue, Except.ok.injEq]
        rw [← hn]
        exact UInt16.ofNat_toNat

/-! ## Errors -/

/-- The error begins with the name of a variable. -/
def Error.Names (e : Error) (v : Variable) : Prop := v.name.toList <+: e.message.toList

/-- No variable has a name that begins the name of another one. -/
theorem Variable.eq_of_prefix {v w : Variable} (h : v.name.toList <+: w.name.toList) : v = w := by
  cases v <;> cases w <;> first | rfl | exact absurd h (by decide +kernel)

theorem Error.Names.unique {e : Error} {v w : Variable} (hv : e.Names v) (hw : e.Names w) :
    v = w := by
  rcases List.prefix_or_prefix_of_prefix hv hw with h | h
  · exact Variable.eq_of_prefix h
  · exact (Variable.eq_of_prefix h).symm

theorem Error.names_iff {e : Error} {v : Variable} (h : e.Names v) (w : Variable) :
    e.Names w ↔ w = v :=
  ⟨fun hw => hw.unique h, fun hw => hw ▸ h⟩

theorem Error.names_of_starts {e : Error} {v : Variable} (start rest : String)
    (hstart : v.name.toList <+: start.toList) (hmessage : e.message = start ++ rest) :
    e.Names v := by
  unfold Error.Names
  rw [hmessage, String.toList_append]
  exact hstart.trans (List.prefix_append _ _)

theorem names_of_readUrl {raw : Option String} {e : Error} (h : readUrl idna raw = .error e) :
    e.Names .serverUrl := by
  have hmissing : Error.urlMissing.Names .serverUrl :=
    Error.names_of_starts "LLM_API_URL must be set" "" (by decide +kernel) rfl
  cases raw with
  | none =>
      cases h
      exact hmissing
  | some raw =>
      have htrims := Text.trims_trim raw
      generalize Text.trim raw = text at htrims
      by_cases hne : text = ""
      · subst hne
        rw [readUrl_of_blank htrims] at h
        cases h
        exact hmissing
      · rw [readUrl_of_ne htrims hne] at h
        cases hparse : Url.parse idna text with
        | error reason =>
            rw [hparse] at h
            cases h
            exact Error.names_of_starts "LLM_API_URL is not a valid URL: " raw
              (by decide +kernel) rfl
        | ok url =>
            rw [hparse] at h
            cases h

theorem names_of_readNumber {raw : Option String} {e : Error} (h : readNumber raw = .error e) :
    e.Names .portNumber := by
  unfold readNumber at h
  split at h
  · contradiction
  next raw =>
    split at h
    next reason _ =>
      obtain rfl := Except.error.inj h
      exact Error.names_of_starts "PORT is not a valid port number: " raw (by decide +kernel) rfl
    · contradiction

/-! ## Settings -/

variable {lookup : Variable → Option String}

theorem ofLookup_eq_ok_iff {settings : Settings} :
    ofLookup idna lookup = .ok settings ↔
      GivesUrl idna (lookup .serverUrl) settings.serverUrl ∧
        settings.host = (lookup .host).getD defaultHost ∧
        GivesNumber (lookup .portNumber) settings.portNumber := by
  rw [← readUrl_eq_ok_iff, ← readNumber_eq_ok_iff]
  unfold ofLookup
  constructor
  · intro h
    split at h
    · contradiction
    next url hurl =>
      split at h
      · contradiction
      next n hn =>
        obtain rfl := Except.ok.inj h
        exact ⟨hurl, rfl, hn⟩
  · rintro ⟨hurl, hhost, hn⟩
    rw [hurl, hn, ← hhost]

/-- The error is that of the URL, or the URL is one and the error is that of the number. -/
theorem ofLookup_eq_error {e : Error} (h : ofLookup idna lookup = .error e) :
    readUrl idna (lookup .serverUrl) = .error e ∨
      (∃ url, GivesUrl idna (lookup .serverUrl) url) ∧
        readNumber (lookup .portNumber) = .error e := by
  unfold ofLookup at h
  split at h
  next e' hurl =>
    obtain rfl := Except.error.inj h
    exact Or.inl hurl
  next url hurl =>
    split at h
    next e' hn =>
      obtain rfl := Except.error.inj h
      exact Or.inr ⟨⟨url, readUrl_eq_ok_iff.mp hurl⟩, hn⟩
    · contradiction

theorem names_of_ofLookup {e : Error} (h : ofLookup idna lookup = .error e) :
    (e.Names .serverUrl ↔ ∀ url, ¬ GivesUrl idna (lookup .serverUrl) url) ∧
      (e.Names .portNumber ↔ ∃ url, GivesUrl idna (lookup .serverUrl) url) := by
  rcases ofLookup_eq_error h with hurl | ⟨hurl, hn⟩
  · have hnone : ∀ url, ¬ GivesUrl idna (lookup .serverUrl) url := by
      intro url hgives
      rw [← readUrl_eq_ok_iff, hurl] at hgives
      contradiction
    have hnames := Error.names_iff (names_of_readUrl hurl)
    exact ⟨iff_of_true ((hnames _).mpr rfl) hnone,
      iff_of_false (fun hother => by cases (hnames _).mp hother) (not_exists.mpr hnone)⟩
  · have hnames := Error.names_iff (names_of_readNumber hn)
    exact ⟨iff_of_false (fun hother => by cases (hnames _).mp hother) (not_forall_not.mpr hurl),
      iff_of_true ((hnames _).mpr rfl) hurl⟩

/-! ## White space -/

theorem trims_padding_iff {raw padded text : String} (h : IsPadding raw padded) :
    Trims padded text ↔ Trims raw text := by
  rw [← Text.trim_eq_iff, ← Text.trim_eq_iff, h.trim_eq]

theorem GivesUrl.of_rel {raw padded : Option String} (h : Option.Rel IsPadding raw padded)
    (url : Url) : GivesUrl idna padded url ↔ GivesUrl idna raw url := by
  cases h with
  | none => rfl
  | some hpadding =>
      constructor
      · intro hgives
        cases hgives with
        | given htrims hne hparse =>
            exact .given ((trims_padding_iff hpadding).mp htrims) hne hparse
      · intro hgives
        cases hgives with
        | given htrims hne hparse =>
            exact .given ((trims_padding_iff hpadding).mpr htrims) hne hparse

theorem GivesNumber.of_rel {raw padded : Option String} (h : Option.Rel IsPadding raw padded)
    (n : UInt16) : GivesNumber padded n ↔ GivesNumber raw n := by
  cases h with
  | none => rfl
  | some hpadding =>
      constructor
      · intro hgives
        cases hgives with
        | given htrims hnumeral hle hn =>
            exact .given ((trims_padding_iff hpadding).mp htrims) hnumeral hle hn
      · intro hgives
        cases hgives with
        | given htrims hnumeral hle hn =>
            exact .given ((trims_padding_iff hpadding).mpr htrims) hnumeral hle hn

/-- **Which variables make settings.**  Settings are made exactly if the URL and the TCP
number are given, and then they hold what is given, with the host as it is, and with defaults
for what is not set.  An error names the variable of the URL exactly if no URL is given, and
that of the number exactly if one is.  White space around the URL and the number makes no
difference. -/
theorem ofLookup_exact (idna : Url.Idna) (lookup : Variable → Option String) :
    (∀ settings, ofLookup idna lookup = .ok settings ↔
      GivesUrl idna (lookup .serverUrl) settings.serverUrl ∧
        settings.host = (lookup .host).getD defaultHost ∧
        GivesNumber (lookup .portNumber) settings.portNumber) ∧
    (∀ e, ofLookup idna lookup = .error e →
      (e.Names .serverUrl ↔ ∀ url, ¬ GivesUrl idna (lookup .serverUrl) url) ∧
        (e.Names .portNumber ↔ ∃ url, GivesUrl idna (lookup .serverUrl) url)) ∧
    (∀ padded : Variable → Option String,
      Option.Rel IsPadding (lookup .serverUrl) (padded .serverUrl) →
        Option.Rel IsPadding (lookup .portNumber) (padded .portNumber) →
        padded .host = lookup .host →
        ∀ settings, ofLookup idna padded = .ok settings ↔ ofLookup idna lookup = .ok settings) := by
  refine ⟨fun settings => ofLookup_eq_ok_iff, fun e he => names_of_ofLookup he, ?_⟩
  intro padded hurl hnumber hhost settings
  rw [ofLookup_eq_ok_iff, ofLookup_eq_ok_iff, GivesUrl.of_rel hurl,
    GivesNumber.of_rel hnumber, hhost]

end ChatGateway.Settings
