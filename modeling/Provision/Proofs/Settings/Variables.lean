import Provision.Proofs.Json.Members
import Provision.Proofs.Result
import Provision.Proofs.Settings.Rendering
import Provision.Proofs.Settings.Texts

/-!
# Texts from the environment

A variable of the environment overrides what the defaults, the file and the other variables say of
its setting. So where the rest of the settings is valid, they load, and a setting that is a text is
what the text of its variable comes out as (`variables_override`). That need not be the text itself:
the namespace 007 of a variable is the namespace 7 (`namespace_rewritten`).
-/

set_option autoImplicit false

namespace Provision.Settings

variable {before after : List (String × String)} {name text key : String}

/-! ## The layer of the environment -/

theorem isPlain_spelled (text : String) : IsPlain (spelled text) := by
  intro members
  unfold spelled
  dsimp only
  repeat' split
  all_goals exact Json.noConfusion

/-- What a variable gives to the layer. -/
def givenBy (entry : String × String) : Option (String × Json) :=
  (variableKey? entry.1).map fun key => (key, spelled entry.2)

theorem environmentLayer_eq (environment : List (String × String)) :
    environmentLayer environment = Properties.ofMembers (environment.filterMap givenBy) := rfl

theorem exists_of_mem_environmentLayer {environment : List (String × String)}
    {member : String × Json} (inside : member ∈ environmentLayer environment) :
    ∃ entry ∈ environment, variableKey? entry.1 = some member.1 ∧ spelled entry.2 = member.2 := by
  obtain ⟨entry, among, given⟩ := List.mem_filterMap.mp (Properties.mem_ofMembers inside)
  obtain ⟨key, named, rfl⟩ := Option.map_eq_some_iff.mp given
  exact ⟨entry, among, named, rfl⟩

theorem isPlain_of_mem_environmentLayer {environment : List (String × String)}
    {member : String × Json} (inside : member ∈ environmentLayer environment) :
    IsPlain member.2 := by
  obtain ⟨entry, -, -, same⟩ := exists_of_mem_environmentLayer inside
  exact same ▸ isPlain_spelled entry.2

/-- A key can as well be left out of the environment as out of its layer. -/
theorem environmentLayer_filter (environment : List (String × String)) :
    (environmentLayer environment).filter (fun member => member.1 != key) =
      environmentLayer (environment.filter fun entry => variableKey? entry.1 != some key) := by
  rw [environmentLayer_eq, environmentLayer_eq, Properties.ofMembers_filter,
    List.filter_filterMap, List.filterMap_filter]
  refine congrArg Properties.ofMembers (List.filterMap_congr fun entry _ => ?_)
  unfold givenBy
  cases variableKey? entry.1 with
  | none => simp
  | some found => by_cases same : found = key <;> simp [same]

/-! ## The only variable of a key -/

section Sole

variable (named : variableKey? name = some key)
  (sole : ∀ entry ∈ before ++ after, variableKey? entry.1 ≠ some key)
include named sole

/-- The key has the value that its only variable spells. -/
theorem get?_environmentLayer :
    (environmentLayer (before ++ (name, text) :: after)).get? key = some (spelled text) := by
  have given : givenBy (name, text) = some (key, spelled text) := by
    rw [givenBy, named]
    rfl
  rw [environmentLayer_eq, Properties.get?_ofMembers, List.filterMap_append,
    List.filterMap_cons_some given, List.reverse_append, List.reverse_cons, List.append_assoc,
    List.singleton_append]
  refine Option.map_eq_some_iff.mpr ⟨(key, spelled text), ?_, rfl⟩
  refine List.find?_eq_some_iff_append.mpr ⟨beq_self_eq_true key, _, _, rfl, ?_⟩
  intro member inside
  obtain ⟨entry, among, later⟩ := List.mem_filterMap.mp (List.mem_reverse.mp inside)
  obtain ⟨found, keyed, rfl⟩ := Option.map_eq_some_iff.mp later
  have other : found ≠ key := by
    rintro rfl
    exact sole entry (List.mem_append_right before among) keyed
  simpa using other

/-- Apart from the key, the layer is that of the other variables. -/
theorem environmentLayer_filter_sole :
    (environmentLayer (before ++ (name, text) :: after)).filter (fun member => member.1 != key) =
      environmentLayer (before ++ after) := by
  have others : (before ++ after).filter (fun entry => variableKey? entry.1 != some key) =
      before ++ after :=
    List.filter_eq_self.mpr fun entry among => by simpa using sole entry among
  rw [environmentLayer_filter, List.filter_append, List.filter_cons_of_neg (by simp [named]),
    ← List.filter_append, others]

end Sole

/-! ## The settings -/

/-- The variable sets neither the setting nor a part of it nor the section that holds it. -/
def SetsElsewhere (setting : TextSetting) (name : String) : Prop :=
  ∀ key ∈ variableKey? name, Misses (stepsOf key) setting.path

instance (setting : TextSetting) (name : String) : Decidable (SetsElsewhere setting name) :=
  inferInstanceAs (Decidable (∀ key ∈ variableKey? name, Misses (stepsOf key) setting.path))

/-- The settings are valid apart from a variable: they load without it or with a text in it. -/
def ValidAround (file : Option SettingsFile) (before : List (String × String)) (name : String)
    (after : List (String × String)) : Prop :=
  ∃ settings, load file (before ++ after) = .ok settings ∨
    ∃ text, load file (before ++ (name, text) :: after) = .ok settings

/-- The settings of the layers below the environment. -/
def beneath (layer : Properties) : Json :=
  overlay (Engine.codec.encode {}) layer

theorem exists_layers_eq_object (layer : Properties) (environment : List (String × String)) :
    ∃ members, overlay (beneath layer) (environmentLayer environment) = .object members := by
  obtain ⟨below, table⟩ := exists_overlay_eq_object (Engine.record.members {}) layer
  have same : beneath layer = .object below := table
  rw [same]
  exact exists_overlay_eq_object below (environmentLayer environment)

theorem load_eq_ok_iff {file : Option SettingsFile} {environment : List (String × String)}
    {settings : Engine} :
    load file environment = .ok settings ↔
      ∃ layer, fileLayer file = .ok layer ∧
        Engine.ofJson? (overlay (beneath layer) (environmentLayer environment)) = some settings ∧
        settings.complaint? = none := by
  unfold load
  cases fileLayer file with
  | error fault => simp [bind, Except.bind]
  | ok layer =>
      simp only [bind, Except.bind, Except.ok.injEq, exists_eq_left', beneath]
      cases Engine.ofJson? (overlay (overlay (Engine.codec.encode {}) layer)
        (environmentLayer environment)) with
      | none => simp
      | some loaded =>
          simp only [Option.some.injEq]
          cases fine : loaded.complaint? with
          | none =>
              simp only [Except.ok.injEq]
              refine ⟨?_, And.left⟩
              rintro rfl
              exact ⟨rfl, fine⟩
          | some complaint =>
              simp only [reduceCtorEq, false_iff, not_and]
              rintro rfl none
              exact nomatch fine.symm.trans none

section Setting

variable {setting : TextSetting} (named : variableKey? name = some setting.key)
  (apart : ∀ entry ∈ before ++ after, SetsElsewhere setting entry.1)
include named apart

omit named in
theorem sole_of_apart : ∀ entry ∈ before ++ after, variableKey? entry.1 ≠ some setting.key := by
  intro entry among keyed
  have misses := apart entry among setting.key keyed
  rw [setting.stepsOf_key] at misses
  exact not_misses_self misses

/-- The setting is found as its variable gives it. -/
theorem valueAt?_environmentLayer (target : Json) :
    valueAt? setting.path (overlay target (environmentLayer (before ++ (name, text) :: after))) =
      some (spelled text) := by
  have sole := sole_of_apart apart
  have found {member : String × Json}
      (inside : member ∈ environmentLayer (before ++ (name, text) :: after)) :
      member = (setting.key, spelled text) ∨
        ∃ entry ∈ before ++ after, variableKey? entry.1 = some member.1 := by
    obtain ⟨entry, among, keyed, same⟩ := exists_of_mem_environmentLayer inside
    rcases List.mem_append.mp among with early | later
    · exact .inr ⟨entry, List.mem_append_left after early, keyed⟩
    · rcases List.mem_cons.mp later with rfl | later
      · exact .inl (Prod.ext (Option.some.inj (keyed.symm.trans named)) same.symm)
      · exact .inr ⟨entry, List.mem_append_right before later, keyed⟩
  -- Whatever else is in the layer comes from another variable, and so it lies elsewhere.
  refine valueAt?_overlay_self setting.stepsOf_key (isPlain_spelled text) ?_ ?_
    (.inl (Properties.mem_of_get? (get?_environmentLayer named sole)))
  · intro member inside same
    rcases found inside with rfl | ⟨entry, among, keyed⟩
    · rfl
    · exact absurd (same ▸ keyed) (sole entry among)
  · intro member inside other
    rcases found inside with rfl | ⟨entry, among, keyed⟩
    · exact absurd rfl other
    · exact apart entry among member.1 keyed

/-- What lies elsewhere is found as if the variable were not there. -/
theorem valueAt?_environmentLayer_elsewhere {path : List String}
    (misses : Misses (setting.path.map .child) path) (target : Json) :
    valueAt? path (overlay target (environmentLayer (before ++ (name, text) :: after))) =
      valueAt? path (overlay target (environmentLayer (before ++ after))) := by
  rw [← setting.stepsOf_key] at misses
  rw [valueAt?_overlay_filter (fun _ => isPlain_of_mem_environmentLayer) misses,
    environmentLayer_filter_sole named (sole_of_apart apart)]

/-- What loads apart from a variable loads from layers that say the same elsewhere. -/
theorem ValidAround.exists_rest {file : Option SettingsFile}
    (valid : ValidAround file before name after) :
    ∃ rest settings, load file rest = .ok settings ∧
      ∀ target path, Misses (setting.path.map .child) path →
        valueAt? path (overlay target (environmentLayer rest)) =
          valueAt? path (overlay target (environmentLayer (before ++ after))) := by
  obtain ⟨settings, without | ⟨other, within⟩⟩ := valid
  · exact ⟨_, settings, without, fun _ _ _ => rfl⟩
  · exact ⟨_, settings, within, fun target _ misses =>
      valueAt?_environmentLayer_elsewhere named apart misses target⟩

end Setting

/-- **A variable overrides its setting**, which is what the text of the variable comes out as: the
text itself if it has the form in which the value that it spells is written, and only then. -/
theorem variables_override {file : Option SettingsFile} (setting : TextSetting) (text : String)
    (named : variableKey? name = some setting.key)
    (apart : ∀ entry ∈ before ++ after, SetsElsewhere setting entry.1)
    (valid : ValidAround file before name after)
    (filled : setting = .clientIdPrefix → text ≠ "") :
    ∃ settings, load file (before ++ (name, text) :: after) = .ok settings ∧
      Rendered text (setting.of settings) ∧ (setting.of settings = text ↔ Kept text) := by
  obtain ⟨shown, rendered⟩ := exists_rendered text
  obtain ⟨rest, given, loads, elsewhere⟩ := valid.exists_rest named apart
  obtain ⟨layer, file, reads, fine⟩ := load_eq_ok_iff.mp loads
  obtain ⟨others, otherTable⟩ := exists_layers_eq_object layer rest
  obtain ⟨members, table⟩ := exists_layers_eq_object layer (before ++ (name, text) :: after)
  -- The two environments make tables that differ in this setting only.
  have replaces : Replaces setting (spelled text) others members := by
    refine ⟨?_, fun path misses => ?_⟩
    · rw [← table]
      exact valueAt?_environmentLayer named apart _
    · rw [← table, ← otherTable, elsewhere _ path misses]
      exact valueAt?_environmentLayer_elsewhere named apart misses _
  obtain ⟨settings, reads, fine, same⟩ :=
    replaces.exists_ofJson? (textOf?_of_rendered rendered) (otherTable ▸ reads) fine
      fun prefixed => rendered.ne_empty (filled prefixed)
  subst same
  refine ⟨settings, load_eq_ok_iff.mpr ⟨layer, file, table ▸ reads, fine⟩, rendered, ?_⟩
  rw [← rendered_self_iff, ← textOf?_spelled_iff, textOf?_of_rendered rendered, Option.some_inj]

/-- Zeros in front of a number are lost between two other variables. -/
theorem variables_override_namespace :
    ∃ settings,
      load none
          ([("HOME", "/root"), ("BROKERFORM__SECRETS__CERT_FIELD", "tls.crt")] ++
            ("BROKERFORM__SECRETS__NAMESPACE", "007") ::
              [("BROKERFORM__POLLING__QUERY_INTERVAL_SECS", "30")]) = .ok settings ∧
        Rendered "007" settings.secrets.namespaceName ∧
        (settings.secrets.namespaceName = "007" ↔ Kept "007") :=
  variables_override (.secret .namespaceName) "007" (by decide +kernel) (by decide +kernel)
    ⟨{ polling := { intervalSecs := 30 }, secrets := { certField := "tls.crt" } },
      .inl (by decide +kernel)⟩
    (by decide)

/-- A namespace that is a number is not taken as it is written. -/
theorem namespace_rewritten :
    ValidAround none [] "BROKERFORM__SECRETS__NAMESPACE" [] ∧
      ¬ ∃ settings, load none [("BROKERFORM__SECRETS__NAMESPACE", "007")] = .ok settings ∧
        settings.secrets.namespaceName = "007" := by
  refine ⟨⟨{}, .inl (by decide +kernel)⟩, ?_⟩
  rintro ⟨settings, loads, same⟩
  have seven : load none [("BROKERFORM__SECRETS__NAMESPACE", "007")] =
      .ok { secrets := { namespaceName := "7" } } := by decide +kernel
  obtain rfl := Except.ok.inj (loads.symm.trans seven)
  exact absurd same (by decide)

end Provision.Settings
