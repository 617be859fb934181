import DiscountPolicy.Proofs.Client
import DiscountPolicy.Proofs.Config.Scheme
import DiscountPolicy.Proofs.Logging
import DiscountPolicy.Proofs.TokenStores

/-! Configurations that variables hold. Each setting has texts of its own that are refused, and of
several that are refused the first one is reported: the address if there is none, the log level, the
switch, and then the scheme of the address. A configuration that was read can be written back to
variables, from which it is read again as it is. -/

namespace DiscountPolicy.Config

variable {α : Type} {valueOf? : String → Option String} {c : Config} {p : Problem} {s : String}

/-! ### The texts of a setting -/

/-- The words for a position of a switch. -/
def flagWords : Bool → List String
  | true => ["1", "true", "yes", "on"]
  | false => ["0", "false", "no", "off", ""]

/-- The text is a word for the position, in any case and with blanks around it. -/
def IsFlag (s : String) (on : Bool) : Prop := (Text.trim s).toLower ∈ flagWords on

instance (s : String) (on : Bool) : Decidable (IsFlag s on) := inferInstanceAs (Decidable (_ ∈ _))

theorem IsFlag.unique {a b : Bool} (ha : IsFlag s a) (hb : IsFlag s b) : a = b := by
  have hdisjoint : ∀ w ∈ flagWords true, w ∉ flagWords false := by decide
  cases a <;> cases b
  · rfl
  · exact absurd ha (hdisjoint _ hb)
  · exact absurd hb (hdisjoint _ ha)
  · rfl

theorem readFlag_cases (s : String) :
    (∃ on, IsFlag s on ∧ readFlag s = .ok on) ∨
    ((¬∃ on, IsFlag s on) ∧ readFlag s = .error (.invalidFlag (Text.trim s).toLower)) := by
  simp only [readFlag]
  split
  · next htrue => exact .inl ⟨true, htrue, rfl⟩
  · next htrue =>
    split
    · next hfalse => exact .inl ⟨false, hfalse, rfl⟩
    · next hfalse =>
      refine .inr ⟨?_, rfl⟩
      rintro ⟨on, hon⟩
      cases on with
      | true => exact htrue hon
      | false => exact hfalse hon

/-- The level that a text spells, apart from blanks around it. -/
def IsLevel (s : String) (level : Level) : Prop := Level.Spells (Text.trim s).toList level

theorem exists_isLevel_iff : (∃ level, IsLevel s level) ↔ (Level.ofText? s).isSome = true := by
  rw [Option.isSome_iff_exists]
  exact exists_congr fun level => Level.ofText?_eq_some_iff.symm

instance (s : String) : Decidable (∃ level, IsLevel s level) :=
  decidable_of_iff' _ exists_isLevel_iff

theorem IsLevel.unique {a b : Level} (ha : IsLevel s a) (hb : IsLevel s b) : a = b :=
  Option.some.inj ((Level.ofText?_eq_some_iff.mpr ha).symm.trans (Level.ofText?_eq_some_iff.mpr hb))

theorem readLevel_cases (s : String) :
    (∃ level, IsLevel s level ∧ readLevel s = .ok level) ∨
    ((¬∃ level, IsLevel s level) ∧ readLevel s = .error (.unknownLevel s)) := by
  rw [readLevel, exists_isLevel_iff]
  cases hlevel : Level.ofText? s with
  | some level => exact .inl ⟨level, Level.ofText?_eq_some_iff.mp hlevel, rfl⟩
  | none => exact .inr ⟨by simp, rfl⟩

/-! ### Reading variables -/

/-- The address that a variable holds. -/
def readUrl (s : Option String) : Except Problem String :=
  match s.map Text.trim with
  | some url => if url = "" then .error .urlNotSet else .ok url
  | none => .error .urlNotSet

theorem readUrl_cases (s : Option String) :
    (∃ t, s = some t ∧ Text.isBlankText t = false ∧ readUrl s = .ok (Text.trim t)) ∨
    ((∀ t ∈ s, Text.isBlankText t = true) ∧ readUrl s = .error .urlNotSet) := by
  cases s with
  | none => exact .inr ⟨by simp, rfl⟩
  | some t =>
    rw [readUrl, Option.map_some]
    simp only [Text.trim_eq_empty_iff, Option.mem_some_iff, forall_eq']
    cases h : Text.isBlankText t with
    | true => exact .inr ⟨rfl, rfl⟩
    | false => exact .inl ⟨t, rfl, h, rfl⟩

theorem readUrl_eq_ok {t : Option String} {url : String} (h : readUrl t = .ok url) :
    ∃ s, t = some s ∧ url = Text.trim s := by
  rcases readUrl_cases t with ⟨s, hs, -, hread⟩ | ⟨-, hread⟩
  · rw [hread] at h
    exact ⟨s, hs, (Except.ok.inj h).symm⟩
  · rw [hread] at h
    cases h

/-- The configuration for an address and the texts of other settings, which are checked before the
scheme of the address is. -/
def ofSettings (url : String) (token level : Option String) (json : Except Problem Bool) :
    Except Problem Config := do
  let level ← level.elim (.ok .warn) readLevel
  let json ← json
  let config : Config := ⟨url, token.bind readToken, ⟨level, json⟩⟩
  config.validate
  return config

theorem ofVariables_eq (valueOf? : String → Option String) :
    ofVariables valueOf? = (do
      let url ← readUrl (valueOf? urlVariable)
      ofSettings url (valueOf? tokenVariable) (valueOf? levelVariable)
        ((valueOf? jsonVariable).elim (.ok false) readFlag)) := by
  unfold ofVariables readUrl ofSettings
  cases valueOf? urlVariable with
  | none => rfl
  | some s =>
    by_cases hblank : Text.trim s = ""
    · simp only [Option.map_some, hblank, if_true]
      rfl
    · simp only [Option.map_some, hblank, if_false]
      cases valueOf? levelVariable <;> cases valueOf? jsonVariable <;>
        simp only [ok_bind, Option.elim_none, Option.elim_some]

/-! ### The first problem -/

/-- The problem with a text that is not of the kind that is asked for. A missing text is none. -/
def refused (good : String → Prop) [DecidablePred good] (problem : String → Problem)
    (s : Option String) : List Problem :=
  (s.toList.filter fun s => ¬good s).map problem

theorem refused_eq_nil_iff {good : String → Prop} [DecidablePred good] {problem : String → Problem}
    {s : Option String} : refused good problem s = [] ↔ ∀ t, s = some t → good t := by
  cases s with
  | none => simp [refused]
  | some t => simp [refused]

theorem firstOf_refused {is : String → α → Prop} [DecidablePred fun s => ∃ a, is s a]
    {problem : String → Problem} {read : String → Except Problem α} {usual : α}
    (h : ∀ s, (∃ a, is s a ∧ read s = .ok a) ∨ ((¬∃ a, is s a) ∧ read s = .error (problem s)))
    (s : Option String) :
    FirstOf (refused (fun s => ∃ a, is s a) problem s) (s.elim (.ok usual) read) := by
  cases s with
  | none => rfl
  | some t =>
    rcases h t with ⟨a, hgood, ha⟩ | ⟨hbad, he⟩
    · rw [Option.elim_some, ha]
      exact refused_eq_nil_iff.mpr (by rintro _ ⟨⟩; exact ⟨a, hgood⟩)
    · rw [Option.elim_some, he]
      simp [FirstOf, refused, hbad]

/-- Everything that is wrong with variables, in the order of the checks. An address that is blank is
missing. -/
def problems (valueOf? : String → Option String) : List Problem :=
  (if ∀ s ∈ valueOf? urlVariable, Text.isBlankText s = true then [.urlNotSet] else []) ++
  (refused (fun s => ∃ level, IsLevel s level) .unknownLevel (valueOf? levelVariable) ++
  (refused (fun s => ∃ on, IsFlag s on) (fun s => .invalidFlag (Text.trim s).toLower)
    (valueOf? jsonVariable) ++
  refused (fun s => HasScheme (Text.trim s)) (fun s => .notHttp (Text.trim s))
    (valueOf? urlVariable)))

theorem problems_eq_nil_iff : problems valueOf? = [] ↔
    (∃ s, valueOf? urlVariable = some s ∧ HasScheme (Text.trim s)) ∧
    (∀ s, valueOf? levelVariable = some s → ∃ level, IsLevel s level) ∧
    (∀ s, valueOf? jsonVariable = some s → ∃ on, IsFlag s on) := by
  simp only [problems, List.append_eq_nil_iff, refused_eq_nil_iff]
  constructor
  · rintro ⟨hurl, hlevel, hjson, hscheme⟩
    refine ⟨?_, hlevel, hjson⟩
    cases hs : valueOf? urlVariable with
    | none => simp [hs] at hurl
    | some s => exact ⟨s, rfl, hscheme s hs⟩
  · rintro ⟨⟨s, hs, hscheme⟩, hlevel, hjson⟩
    refine ⟨if_neg fun hblank => ?_, hlevel, hjson, ?_⟩
    · exact hscheme.ne_empty (Text.trim_eq_empty_iff.mpr (hblank s hs))
    · intro t ht
      obtain rfl : s = t := Option.some.inj (hs.symm.trans ht)
      exact hscheme

theorem firstOf_validate (h : c.apiUrl = Text.trim s) :
    FirstOf (refused (fun s => HasScheme (Text.trim s)) (fun s => .notHttp (Text.trim s)) (some s))
      c.validate := by
  rcases c.validate_cases with ⟨hscheme, hc⟩ | ⟨hscheme, hc⟩
  · rw [hc]
    exact refused_eq_nil_iff.mpr (by rintro _ ⟨⟩; exact h ▸ hscheme)
  · rw [hc, h]
    rw [h] at hscheme
    simp [FirstOf, refused, hscheme]

theorem firstOf_ofVariables (valueOf? : String → Option String) :
    FirstOf (problems valueOf?) (ofVariables valueOf?) := by
  rw [ofVariables_eq, problems]
  refine FirstOf.bind ?_ fun url hurl => ?_
  · rcases readUrl_cases (valueOf? urlVariable) with ⟨s, hs, hnot, hread⟩ | ⟨hblank, hread⟩
    · rw [hread, hs]
      simp [FirstOf, hnot]
    · rw [hread, if_pos hblank]
      rfl
  refine FirstOf.bind (firstOf_refused readLevel_cases _) fun level _ => ?_
  refine FirstOf.bind (firstOf_refused readFlag_cases _) fun json _ => ?_
  -- The address that is checked is the one that was read.
  obtain ⟨s, hs, htrim⟩ := readUrl_eq_ok hurl
  rw [hs]
  exact FirstOf.bind_ok (firstOf_validate htrim) _

/-! ### The configuration -/

/-- A setting is what its text is, or the usual value if it has no text. -/
def SetTo (is : String → α → Prop) (usual : α) (s : Option String) (a : α) : Prop :=
  s.elim (a = usual) (is · a)

theorem elim_read_eq_ok_iff {is : String → α → Prop} {problem : String → Problem}
    {read : String → Except Problem α}
    (h : ∀ s, (∃ a, is s a ∧ read s = .ok a) ∨ ((¬∃ a, is s a) ∧ read s = .error (problem s)))
    (hunique : ∀ {s a b}, is s a → is s b → a = b) {usual a : α} {s : Option String} :
    s.elim (.ok usual) read = .ok a ↔ SetTo is usual s a := by
  cases s with
  | none => simp [SetTo, eq_comm]
  | some t =>
    rw [SetTo, Option.elim_some, Option.elim_some]
    rcases h t with ⟨b, hb, hread⟩ | ⟨hnone, hread⟩
    · rw [hread, Except.ok.injEq]
      exact ⟨fun hba => hba ▸ hb, hunique hb⟩
    · rw [hread]
      exact iff_of_false (by simp) fun ha => hnone ⟨a, ha⟩

/-- The configuration is what the variables hold. -/
structure HeldBy (c : Config) (valueOf? : String → Option String) : Prop where
  url : ∃ s, valueOf? urlVariable = some s ∧ Text.TrimsTo s.toList c.apiUrl.toList
  scheme : HasScheme c.apiUrl
  token : c.token = (valueOf? tokenVariable).filter (· ≠ "")
  level : SetTo IsLevel .warn (valueOf? levelVariable) c.log.level
  json : SetTo IsFlag false (valueOf? jsonVariable) c.log.json

theorem bind_readToken (token : Option String) : token.bind readToken = token.filter (· ≠ "") := by
  cases token with
  | none => rfl
  | some t =>
    rw [Option.bind_some, readToken]
    by_cases h : t = "" <;> simp [h, Option.filter]

theorem ofSettings_eq_ok_iff {url : String} {token level : Option String}
    {json : Except Problem Bool} :
    ofSettings url token level json = .ok c ↔ c.apiUrl = url ∧ HasScheme url ∧
      c.token = token.filter (· ≠ "") ∧ SetTo IsLevel .warn level c.log.level ∧
      json = .ok c.log.json := by
  have hread {usual level : Level} {s : Option String} :
      s.elim (.ok usual) readLevel = .ok level ↔ SetTo IsLevel usual s level :=
    elim_read_eq_ok_iff readLevel_cases IsLevel.unique
  rw [ofSettings]
  constructor
  · intro h
    obtain ⟨_, hlevel, h⟩ := bind_eq_ok_iff.mp h
    obtain ⟨_, hjson, h⟩ := bind_eq_ok_iff.mp h
    obtain ⟨hvalid, h⟩ := check_bind_eq_ok_iff.mp h
    obtain rfl := Except.ok.inj h
    exact ⟨rfl, validate_eq_ok_iff.mp hvalid, bind_readToken token, hread.mp hlevel, hjson⟩
  · rintro ⟨rfl, hscheme, htoken, hlevel, hjson⟩
    rw [hread.mpr hlevel, hjson, ok_bind, ok_bind, bind_readToken, ← htoken]
    exact check_bind_eq_ok_iff.mpr ⟨validate_eq_ok_iff.mpr hscheme, rfl⟩

theorem ofVariables_eq_ok_iff : ofVariables valueOf? = .ok c ↔ c.HeldBy valueOf? := by
  rw [ofVariables_eq]
  constructor
  · intro h
    obtain ⟨url, hurl, h⟩ := bind_eq_ok_iff.mp h
    obtain ⟨rfl, hscheme, htoken, hlevel, hjson⟩ := ofSettings_eq_ok_iff.mp h
    obtain ⟨s, hs, htrim⟩ := readUrl_eq_ok hurl
    refine ⟨⟨s, hs, ?_⟩, hscheme, htoken, hlevel, ?_⟩
    · rw [htrim, Text.toList_trim]
      exact Text.trimsTo_trimChars _
    · exact (elim_read_eq_ok_iff readFlag_cases IsFlag.unique).mp hjson
  · rintro ⟨⟨s, hs, htrim⟩, hscheme, htoken, hlevel, hjson⟩
    have hurl : Text.trim s = c.apiUrl := by
      rw [Text.trim, htrim.trimChars_eq, String.ofList_toList]
    have hread : readUrl (some s) = .ok c.apiUrl := by
      rw [readUrl, Option.map_some, hurl]
      exact if_neg hscheme.ne_empty
    rw [hs, hread, ok_bind, ofSettings_eq_ok_iff]
    refine ⟨rfl, hscheme, htoken, hlevel, ?_⟩
    exact (elim_read_eq_ok_iff readFlag_cases IsFlag.unique).mpr hjson

/-! ### Writing a configuration back -/

def flagText (on : Bool) : String := if on then "true" else "false"

/-- The variables that hold a configuration. -/
def toVariables (c : Config) (name : String) : Option String :=
  if name = urlVariable then some c.apiUrl
  else if name = tokenVariable then c.token
  else if name = levelVariable then some c.log.level.name
  else if name = jsonVariable then some (flagText c.log.json)
  else none

theorem isFlag_flagText (on : Bool) : IsFlag (flagText on) on := by
  cases on <;> decide +kernel

theorem readFlag_flagText (on : Bool) : readFlag (flagText on) = .ok on := by
  rcases readFlag_cases (flagText on) with ⟨b, hb, hread⟩ | ⟨hnone, -⟩
  · rw [hread, hb.unique (isFlag_flagText on)]
  · exact absurd ⟨on, isFlag_flagText on⟩ hnone

theorem isLevel_name (level : Level) : IsLevel level.name level := by
  have htrim : Text.trim level.name = level.name := by cases level <;> decide +kernel
  rw [IsLevel, htrim]
  exact Level.spells_name level

theorem HeldBy.toVariables (h : c.HeldBy valueOf?) : c.HeldBy c.toVariables := by
  obtain ⟨s, -, htrim⟩ := h.url
  refine ⟨⟨c.apiUrl, rfl, htrim.isTrim.trimsTo⟩, h.scheme, ?_, isLevel_name _, isFlag_flagText _⟩
  rw [show c.toVariables tokenVariable = c.token from rfl, h.token, Option.filter_filter]
  simp only [Bool.and_self]

/-- Variables hold a configuration exactly if there is an address with a scheme among them, and the
level and the switch are spelled as such or missing; otherwise the first of their problems is
reported. The configuration has no blanks around its address and the token as it stands in its
variable, a client can be started for it, which holds this token at first, and it is read back from
the variables that it is written to. -/
theorem ofVariables_iff_problems (valueOf? : String → Option String) :
    ((∃ c, ofVariables valueOf? = .ok c) ↔
      (∃ s, valueOf? urlVariable = some s ∧ HasScheme (Text.trim s)) ∧
      (∀ s, valueOf? levelVariable = some s → ∃ level, IsLevel s level) ∧
      (∀ s, valueOf? jsonVariable = some s → ∃ on, IsFlag s on)) ∧
    (∀ p, ofVariables valueOf? = .error p ↔ (problems valueOf?).head? = some p) ∧
    ∀ c, ofVariables valueOf? = .ok c →
      c.HeldBy valueOf? ∧
      Text.IsTrim c.apiUrl.toList ∧
      (∀ token, c.token = some token → token ≠ "" ∧ valueOf? tokenVariable = some token) ∧
      (∀ stores, ∃ client started, Client.start stores c = .ok (client, started) ∧
        client.token started = c.token) ∧
      ofVariables c.toVariables = .ok c := by
  have hfirst := firstOf_ofVariables valueOf?
  refine ⟨hfirst.exists_ok_iff.trans problems_eq_nil_iff, fun p => hfirst.eq_error_iff,
    fun c hc => ?_⟩
  have hheld := ofVariables_eq_ok_iff.mp hc
  obtain ⟨s, -, htrim⟩ := hheld.url
  refine ⟨hheld, htrim.isTrim, fun token htoken => ?_, fun stores => ?_,
    ofVariables_eq_ok_iff.mpr hheld.toVariables⟩
  · rw [hheld.token, Option.filter_eq_some_iff] at htoken
    exact ⟨of_decide_eq_true htoken.2, htoken.1⟩
  · refine ⟨_, _, Client.start_eq_ok_iff.mpr ⟨validate_eq_ok_iff.mpr hheld.scheme, rfl, rfl⟩, ?_⟩
    exact TokenStores.get_create stores c.token

end DiscountPolicy.Config
