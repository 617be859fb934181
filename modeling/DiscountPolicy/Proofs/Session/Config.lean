import DiscountPolicy.Proofs.Config
import DiscountPolicy.Proofs.Session

/-! The same settings in variables and in a dictionary of a script. Both are read to one
configuration, or both are refused; the two readings differ only in what they say of an address
that is blank. -/

namespace DiscountPolicy

/-- What the settings of a client are, where all but the address may be missing. -/
structure Settings where
  url : String
  token : Option String
  level : Option String
  json : Option Bool

namespace Settings

open Config

variable {s : Settings} {valueOf? : String → Option String} {entries : List (String × Value)}

/-- The settings are what the variables hold. -/
structure InVariables (s : Settings) (valueOf? : String → Option String) : Prop where
  url : valueOf? urlVariable = some s.url
  token : valueOf? tokenVariable = s.token
  level : valueOf? levelVariable = s.level
  json : valueOf? jsonVariable = s.json.map flagText

/-- The settings are what the dictionary holds. Nothing in the place of the token is a missing
token. -/
structure InDict (s : Settings) (entries : List (String × Value)) : Prop where
  url : entries.lookup "api_url" = some (.text s.url)
  token : entries.lookup "token" = s.token.map .text ∨
    (s.token = none ∧ entries.lookup "token" = some .nothing)
  level : entries.lookup "log_level" = s.level.map .text
  json : entries.lookup "log_json" = s.json.map .bool

/-- The configuration of the settings, apart from the check that there is an address. -/
def read (s : Settings) : Except Problem Config :=
  ofSettings (Text.trim s.url) s.token s.level (.ok (s.json.getD false))

theorem InVariables.ofVariables_eq (h : s.InVariables valueOf?) :
    ofVariables valueOf? = (do let _ ← readUrl (some s.url); s.read) := by
  rw [Config.ofVariables_eq, h.url, h.token, h.level, h.json]
  have hjson : (s.json.map flagText).elim (.ok false) readFlag = .ok (s.json.getD false) := by
    cases s.json with
    | none => rfl
    | some on => exact readFlag_flagText on
  rw [hjson]
  rcases readUrl_cases (some s.url) with ⟨t, ht, -, hread⟩ | ⟨-, hread⟩
  · rw [hread, ok_bind, ok_bind, read, ← Option.some.inj ht]
  · rw [hread, error_bind, error_bind]

theorem InDict.ofDict_eq (h : s.InDict entries) : ofDict entries = orFault s.read := by
  have htoken : entry entries "token" Value.toOptionalText (.ok none) = .ok s.token := by
    rw [entry]
    rcases h.token with htext | ⟨hnone, hnothing⟩
    · rw [htext]
      cases s.token with
      | none => rfl
      | some t => rfl
    · rw [hnothing, hnone]
      rfl
  have hlevel : entry entries "log_level" (fun v => do orFault (readLevel (← v.toText))) (.ok .warn)
      = orFault (s.level.elim (.ok .warn) readLevel) := by
    rw [entry, h.level]
    cases s.level with
    | none => rfl
    | some t => simp only [Option.map_some, Option.elim_some, Value.toText, ok_bind]
  have hjson : entry entries "log_json" Value.toBool (.ok false) = .ok (s.json.getD false) := by
    rw [entry, h.json]
    cases s.json with
    | none => rfl
    | some on => rfl
  have hurl : entry entries "api_url" Value.toText (.error (.failed (.config .urlNotFound)))
      = .ok s.url := by
    rw [entry, h.url]
    rfl
  rw [Config.ofDict_eq, hurl, htoken, hlevel, hjson, read, ofSettings]
  simp only [ok_bind, pure_eq_ok, orFault_bind, orFault_ok]

/-- Without an address no configuration is valid. -/
theorem read_of_blank (h : Text.isBlankText s.url = true) : ∃ p, s.read = .error p := by
  rcases ok_or_error s.read with ⟨c, hc⟩ | herror
  · obtain ⟨-, hscheme, -⟩ := ofSettings_eq_ok_iff.mp hc
    exact absurd (Text.trim_eq_empty_iff.mpr h) hscheme.ne_empty
  · exact herror

/-- Settings in variables and in a dictionary give the same configuration, or neither gives one and
both report a problem with the configuration: the same problem, in the same words, unless the
address is blank. -/
theorem ofVariables_agrees_with_ofDict (hv : s.InVariables valueOf?) (hd : s.InDict entries) :
    (∃ c, ofVariables valueOf? = .ok c ∧ ofDict entries = .ok c) ∨
    ∃ p q, ofVariables valueOf? = .error p ∧ ofDict entries = .error (.failed (.config q)) ∧
      (Text.isBlankText s.url = false → p = q ∧ ∃ text,
        (Failure.config p).message? = some text ∧
          (Fault.failed (.config q)).message? = some text) := by
  rw [hv.ofVariables_eq, hd.ofDict_eq]
  rcases readUrl_cases (some s.url) with ⟨t, -, -, hread⟩ | ⟨hblank, hread⟩
  · rw [hread, ok_bind]
    rcases ok_or_error s.read with ⟨c, hc⟩ | ⟨p, hp⟩
    · exact .inl ⟨c, hc, by rw [hc, orFault]⟩
    · exact .inr ⟨p, p, hp, by rw [hp, orFault], fun _ => ⟨rfl, _, rfl, rfl⟩⟩
  · have hblank : Text.isBlankText s.url = true := hblank _ rfl
    obtain ⟨q, hq⟩ := read_of_blank hblank
    refine .inr ⟨.urlNotSet, q, by rw [hread, error_bind], by rw [hq, orFault], fun hnot => ?_⟩
    rw [hblank] at hnot
    cases hnot

theorem ofVariables_agrees_with_ofDict_padded :
    let s : Settings := ⟨" http://localhost:8000\n", none, some " Debug", some true⟩
    let valueOf? (name : String) : Option String :=
      [(jsonVariable, "true"), (urlVariable, s.url), (levelVariable, " Debug")].lookup name
    let entries : List (String × Value) :=
      [("api_url", .text s.url), ("token", .nothing), ("log_level", .text " Debug"),
        ("log_json", .bool true)]
    s.InVariables valueOf? ∧ s.InDict entries ∧
      ((∃ c, ofVariables valueOf? = .ok c ∧ ofDict entries = .ok c) ∨
        ∃ p q, ofVariables valueOf? = .error p ∧ ofDict entries = .error (.failed (.config q)) ∧
          (Text.isBlankText s.url = false → p = q ∧ ∃ text,
            (Failure.config p).message? = some text ∧
              (Fault.failed (.config q)).message? = some text)) := by
  intro s valueOf? entries
  have hv : s.InVariables valueOf? := ⟨by decide, by decide, by decide, by decide⟩
  have hd : s.InDict entries := ⟨rfl, .inr ⟨rfl, rfl⟩, rfl, rfl⟩
  exact ⟨hv, hd, ofVariables_agrees_with_ofDict hv hd⟩

end Settings

end DiscountPolicy
