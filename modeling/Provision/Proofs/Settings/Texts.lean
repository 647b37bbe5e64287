import Mathlib.Tactic.Choose
import Provision.Proofs.Settings.Layers
import Provision.Settings.Loading

/-!
# Settings that are texts

Five settings are texts: the level of the log, the prefix of client identifiers, and where a secret
is and its two fields. If a table differs from one that is read as settings by nothing but the value
of such a setting, and that value can be taken as a text, then it is read as settings too, which
have the text there and differ in nothing that is checked (`Replaces.exists_ofJson?`).
-/

set_option autoImplicit false

namespace Provision.Settings

/-- A setting of the secrets. -/
inductive SecretField where
  | namespaceName
  | certField
  | keyField
  deriving DecidableEq, Repr

/-- A setting that is a text. -/
inductive TextSetting where
  | logLevel
  | clientIdPrefix
  | secret (field : SecretField)
  deriving DecidableEq, Repr

namespace SecretField

/-- The key in the section of the secrets. -/
def key : SecretField → String
  | namespaceName => "namespace"
  | certField => "cert_field"
  | keyField => "key_field"

theorem key_inj {one other : SecretField} : one.key = other.key → one = other := by
  cases one <;> cases other <;> decide

/-- The value of the setting. -/
def of (secrets : Secrets) : SecretField → String
  | namespaceName => secrets.namespaceName
  | certField => secrets.certField
  | keyField => secrets.keyField

end SecretField

namespace TextSetting

/-- The key of the setting. -/
def key : TextSetting → String
  | logLevel => "log_level"
  | clientIdPrefix => "client_id_prefix"
  | secret field => "secrets." ++ field.key

/-- The path to the setting. -/
def path : TextSetting → List String
  | logLevel => ["log_level"]
  | clientIdPrefix => ["client_id_prefix"]
  | secret field => ["secrets", field.key]

/-- The value of the setting. -/
def of (settings : Engine) : TextSetting → String
  | logLevel => settings.logLevel
  | clientIdPrefix => settings.clientIdPrefix
  | secret field => field.of settings.secrets

theorem stepsOf_key (setting : TextSetting) : stepsOf setting.key = setting.path.map .child := by
  rcases setting with _ | _ | _ | _ | _ <;> decide

end TextSetting

/-! ## Reading -/

section Reading

variable {α : Type} {read : Json → Option α} {default : α} {members others : Properties}
  {name : String} {index : Nat} {found : Option Json} {whole : Json}
  {secrets : Secrets} {settings : Engine}

/-- What is found for a setting is read; the default stands in for nothing. -/
def reading (read : Json → Option α) (default : α) : Option Json → Option α
  | none => some default
  | some value => read value

theorem setting_object :
    setting read (.object members) name index default =
      reading read default (members.get? name) := by
  rw [setting, field?, Option.bind_eq_bind, Option.bind_some]
  cases members.get? name <;> rfl

theorem valueAt?_singleton : valueAt? [name] (.object members) = members.get? name :=
  Option.bind_fun_some _

/-! ### The section of the secrets -/

/-- What a section holds for a setting of the secrets, if it is a table. -/
def heldFor (field : SecretField) (found : Option Json) : Option Json :=
  found.bind (valueAt? [field.key])

theorem ofJson?_secrets_iff :
    Secrets.ofJson? (.object members) = some secrets ↔
      ∀ field, reading textOf? (SecretField.of {} field) (members.get? field.key) =
        some (field.of secrets) := by
  unfold Secrets.ofJson?
  simp only [setting_object, bind, Option.bind_eq_some_iff]
  constructor
  · rintro ⟨namespaceName, first, certField, second, keyField, third, same⟩ field
    obtain rfl := Option.some.inj same
    cases field with
    | namespaceName => exact first
    | certField => exact second
    | keyField => exact third
  · intro fields
    exact ⟨_, fields .namespaceName, _, fields .certField, _, fields .keyField, rfl⟩

/-- A section that can be read has readable settings.  It may be a list of them, which is no table
and holds nothing. -/
theorem exists_reading_heldFor (reads : reading Secrets.ofJson? {} found = some secrets)
    (field : SecretField) :
    ∃ shown, reading textOf? (SecretField.of {} field) (heldFor field found) = some shown := by
  cases found with
  | none => exact ⟨_, rfl⟩
  | some value =>
      cases value with
      | object members =>
          rw [heldFor, Option.bind_some, valueAt?_singleton]
          exact ⟨_, ofJson?_secrets_iff.mp reads field⟩
      | null | bool | whole | float | text | list => exact ⟨_, rfl⟩

/-- A section whose settings are readable can be read, if it is a table. -/
theorem exists_secrets_of_readings {texts : SecretField → String}
    (fields : ∀ field, reading textOf? (SecretField.of {} field) (members.get? field.key) =
      some (texts field)) :
    ∃ secrets, Secrets.ofJson? (.object members) = some secrets ∧
      ∀ field, field.of secrets = texts field := by
  refine ⟨⟨texts .namespaceName, texts .certField, texts .keyField⟩,
    ofJson?_secrets_iff.mpr fun field => ?_, fun field => ?_⟩
  · cases field <;> exact fields _
  · cases field <;> rfl

/-- A text that is held for a setting of the secrets leaves the section readable. -/
theorem exists_secrets_of_replaced {own : SecretField} {value : Json} {shown : String}
    {replaced : Option Json} (reads : reading Secrets.ofJson? {} found = some secrets)
    (given : heldFor own replaced = some value) (out : textOf? value = some shown)
    (same : ∀ field ≠ own, heldFor field replaced = heldFor field found) :
    ∃ secrets, reading Secrets.ofJson? {} replaced = some secrets ∧ own.of secrets = shown := by
  obtain ⟨whole, rfl, held⟩ := Option.bind_eq_some_iff.mp given
  cases whole with
  | object members =>
      have readable (field : SecretField) : ∃ text,
          reading textOf? (SecretField.of {} field) (Properties.get? members field.key) =
            some text ∧
            (field = own → text = shown) := by
        rw [← valueAt?_singleton]
        by_cases here : field = own
        · subst here
          rw [held]
          exact ⟨shown, out, fun _ => rfl⟩
        · obtain ⟨text, reads⟩ := exists_reading_heldFor reads field
          rw [← same field here] at reads
          exact ⟨text, reads, fun there => absurd there here⟩
      choose texts fields using readable
      obtain ⟨secrets, reads, same⟩ := exists_secrets_of_readings fun field => (fields field).1
      exact ⟨secrets, reads, (same own).trans ((fields own).2 rfl)⟩
  | null | bool | whole | float | text | list => cases held

/-! ### All settings -/

/-- The settings with other texts. -/
def Engine.withTexts (settings : Engine) (logLevel clientIdPrefix : String) (secrets : Secrets) :
    Engine :=
  { settings with logLevel, clientIdPrefix, secrets }

theorem texts_of_ofJson? (reads : Engine.ofJson? (.object members) = some settings) :
    reading textOf? "info" (members.get? "log_level") = some settings.logLevel ∧
      reading textOf? "client-CR" (members.get? "client_id_prefix") =
        some settings.clientIdPrefix ∧
      reading Secrets.ofJson? {} (members.get? "secrets") = some settings.secrets := by
  unfold Engine.ofJson? at reads
  simp only [setting_object, bind, Option.bind_eq_some_iff] at reads
  obtain ⟨_, first, _, second, _, -, _, -, _, -, _, -, _, -, _, third, same⟩ := reads
  obtain rfl := Option.some.inj same
  exact ⟨first, second, third⟩

/-- The settings that are no texts do not depend on those that are. -/
theorem ofJson?_withTexts {logLevel clientIdPrefix : String}
    (reads : Engine.ofJson? (.object others) = some settings)
    (same : ∀ name, name ≠ "log_level" → name ≠ "client_id_prefix" → name ≠ "secrets" →
      members.get? name = others.get? name)
    (first : reading textOf? "info" (members.get? "log_level") = some logLevel)
    (second : reading textOf? "client-CR" (members.get? "client_id_prefix") = some clientIdPrefix)
    (third : reading Secrets.ofJson? {} (members.get? "secrets") = some secrets) :
    Engine.ofJson? (.object members) =
      some (settings.withTexts logLevel clientIdPrefix secrets) := by
  unfold Engine.ofJson? at reads ⊢
  simp only [setting_object, bind, Option.bind_eq_some_iff] at reads ⊢
  obtain ⟨_, -, _, -, _, session, _, polling, _, leaders, _, connectivity, _, namespaces, _, -,
    rest⟩ := reads
  obtain rfl := Option.some.inj rest
  have kept (name : String) (aside : name ∉ ["log_level", "client_id_prefix", "secrets"]) :
      members.get? name = others.get? name := by
    simp only [List.mem_cons, List.not_mem_nil, or_false, not_or] at aside
    exact same name aside.1 aside.2.1 aside.2.2
  rw [kept "session" (by decide), kept "polling" (by decide), kept "topics" (by decide),
    kept "connectivity" (by decide), kept "namespaces" (by decide)]
  exact ⟨_, first, _, second, _, session, _, polling, _, leaders, _, connectivity, _, namespaces,
    _, third, rfl⟩

theorem complaint?_eq_none_iff : settings.complaint? = none ↔
    settings.polling.intervalSecs ≠ 0 ∧
      settings.polling.intervalSecs ≤ settings.polling.totalSecs ∧
      settings.leaders.intervalMs ≠ 0 ∧ settings.connectivity.afterStalePolls ≠ 0 ∧
      settings.namespaces.afterStalePolls ≠ 0 ∧ settings.clientIdPrefix ≠ "" := by
  simp [Engine.complaint?, ite_eq_iff]

/-- No text is checked but the prefix of client identifiers, which must not be empty. -/
theorem complaint?_withTexts {logLevel clientIdPrefix : String}
    (fine : settings.complaint? = none) (something : clientIdPrefix ≠ "") :
    (settings.withTexts logLevel clientIdPrefix secrets).complaint? = none := by
  obtain ⟨interval, total, leaders, connectivity, namespaces, -⟩ := complaint?_eq_none_iff.mp fine
  exact complaint?_eq_none_iff.mpr
    ⟨interval, total, leaders, connectivity, namespaces, something⟩

/-! ### Replaced texts -/

/-- The tables differ in the value of the setting only. -/
structure Replaces (setting : TextSetting) (value : Json) (others members : Properties) :
    Prop where
  given : valueAt? setting.path (.object members) = some value
  elsewhere (path : List String) : Misses (setting.path.map .child) path →
    valueAt? path (.object members) = valueAt? path (.object others)

theorem Replaces.get?_eq {setting : TextSetting} {value : Json}
    (replaces : Replaces setting value others members) (aside : setting.path.head? ≠ some name) :
    members.get? name = others.get? name := by
  rw [← valueAt?_singleton, ← valueAt?_singleton]
  refine replaces.elsewhere [name] ?_
  cases setting <;> exact .inl fun same => aside (congrArg some same)

/-- **Where one text is replaced in readable settings, they are readable, and have the text.** -/
theorem Replaces.exists_ofJson? {setting : TextSetting} {value : Json} {shown : String}
    (replaces : Replaces setting value others members) (out : textOf? value = some shown)
    (reads : Engine.ofJson? (.object others) = some settings) (fine : settings.complaint? = none)
    (filled : setting = .clientIdPrefix → shown ≠ "") :
    ∃ replaced, Engine.ofJson? (.object members) = some replaced ∧ replaced.complaint? = none ∧
      setting.of replaced = shown := by
  obtain ⟨first, second, third⟩ := texts_of_ofJson? reads
  obtain ⟨-, -, -, -, -, something⟩ := complaint?_eq_none_iff.mp fine
  have same (name : String) (one : name ≠ "log_level") (two : name ≠ "client_id_prefix")
      (three : name ≠ "secrets") : members.get? name = others.get? name := by
    refine replaces.get?_eq fun named => ?_
    cases setting <;> cases named <;> contradiction
  have given := replaces.given
  cases setting with
  | logLevel =>
      rw [TextSetting.path, valueAt?_singleton] at given
      rw [← replaces.get?_eq (by decide)] at second third
      refine ⟨_, ofJson?_withTexts reads same ?_ second third,
        complaint?_withTexts fine something, rfl⟩
      rw [given]
      exact out
  | clientIdPrefix =>
      rw [TextSetting.path, valueAt?_singleton] at given
      rw [← replaces.get?_eq (by decide)] at first third
      refine ⟨_, ofJson?_withTexts reads same first ?_ third,
        complaint?_withTexts fine (filled rfl), rfl⟩
      rw [given]
      exact out
  | secret own =>
      rw [← replaces.get?_eq (by simp [TextSetting.path])] at first second
      have kept : ∀ field ≠ own, heldFor field (members.get? "secrets") =
          heldFor field (others.get? "secrets") := by
        intro field other
        exact replaces.elsewhere ["secrets", field.key]
          (.inr (.inl fun same => other (SecretField.key_inj same).symm))
      obtain ⟨secrets, third, held⟩ := exists_secrets_of_replaced third given out kept
      exact ⟨_, ofJson?_withTexts reads same first second third,
        complaint?_withTexts fine something, held⟩

end Reading

end Provision.Settings
