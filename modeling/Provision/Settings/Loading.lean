import Provision.Number.Shortest
import Provision.Number.Word
import Provision.Settings.Basic
import Provision.Settings.Environment
import Provision.Settings.File
import Provision.Settings.Layer

/-!
# Loading settings

The default settings are overridden by a file and both by the environment.  Values are taken as
what a setting asks for where that makes sense: a text that spells a number as the number, a
number as its text.
-/

set_option autoImplicit false

namespace Provision.Settings

open Number (Binary64)

/-! ## Values -/

/-- A number beyond 63 bits counts as the nearest floating point number. -/
def inRange : Json → Json
  | .whole value =>
      if Number.wordSize 63 ≤ value then .float (Binary64.ofNat value.toNat) else .whole value
  | other => other

/-- A value as a text. -/
def textOf? (value : Json) : Option String :=
  match inRange value with
  | .text text => some text
  | .bool flag => some (if flag then "true" else "false")
  | .whole number => some (Number.decimal number)
  | .float number => some number.plainText
  | _ => none

/-- The greatest number of 64 bits. -/
def greatestCount : Nat := Number.wordSize 64 - 1

/-- A value as a number of 64 bits without a sign. -/
def countOf? (value : Json) : Option Nat :=
  match inRange value with
  | .whole number => if 0 ≤ number then some number.toNat else none
  | .float number => some (number.clampToNat greatestCount)
  | .bool flag => some (if flag then 1 else 0)
  | .text text =>
      let lower := Text.lower text
      if ["true", "on", "yes"].contains lower then some 1
      else if ["false", "off", "no"].contains lower then some 0
      else (Number.readUnsigned greatestCount text.toList).toOption
  | _ => none

/-- A value as a number of 32 bits without a sign; higher bits are dropped. -/
def shortCountOf? (value : Json) : Option Nat :=
  (countOf? value).map (Number.wrapped 32)

/-! ## Sections -/

/-- A field of a section, which is a table of its fields or the list of them in their order; the
outer `none` says that it is neither. -/
def field? (name : String) (index : Nat) : Json → Option (Option Json)
  | .object members => some (Properties.get? members name)
  | .list items => some items[index]?
  | _ => none

/-- A setting of a section, or the default if it is not given. -/
def setting {α : Type} (read : Json → Option α) (whole : Json) (name : String) (index : Nat)
    (default : α) : Option α := do
  match ← field? name index whole with
  | none => some default
  | some value => read value

/-- Reads limits of sessions. -/
def SessionLimits.ofJson? (value : Json) : Option SessionLimits := do
  let default : SessionLimits := {}
  some
    { connectMs := ← setting countOf? value "connect_timeout_ms" 0 default.connectMs
      requestMs := ← setting countOf? value "request_timeout_ms" 1 default.requestMs }

/-- Reads settings of polling. -/
def Polling.ofJson? (value : Json) : Option Polling := do
  let default : Polling := {}
  some
    { intervalSecs := ← setting countOf? value "query_interval_secs" 0 default.intervalSecs
      totalSecs := ← setting countOf? value "total_timeout_secs" 1 default.totalSecs }

/-- Reads settings of leaders. -/
def Leaders.ofJson? (value : Json) : Option Leaders := do
  let default : Leaders := {}
  some
    { waitMs := ← setting countOf? value "leader_wait_timeout_ms" 0 default.waitMs
      intervalMs := ← setting countOf? value "leader_poll_interval_ms" 1 default.intervalMs }

/-- Reads settings of resubmission. -/
def Resubmission.ofJson? (value : Json) : Option Resubmission := do
  let default : Resubmission := {}
  some
    { afterStalePolls :=
        ← setting shortCountOf? value "resubmit_after_stale_polls" 0 default.afterStalePolls }

/-- Reads settings of secrets. -/
def Secrets.ofJson? (value : Json) : Option Secrets := do
  let default : Secrets := {}
  some
    { namespaceName := ← setting textOf? value "namespace" 0 default.namespaceName
      certField := ← setting textOf? value "cert_field" 1 default.certField
      keyField := ← setting textOf? value "key_field" 2 default.keyField }

/-- Reads all settings. -/
def Engine.ofJson? (value : Json) : Option Engine := do
  let default : Engine := {}
  some
    { logLevel := ← setting textOf? value "log_level" 0 default.logLevel
      clientIdPrefix := ← setting textOf? value "client_id_prefix" 1 default.clientIdPrefix
      session := ← setting SessionLimits.ofJson? value "session" 2 default.session
      polling := ← setting Polling.ofJson? value "polling" 3 default.polling
      leaders := ← setting Leaders.ofJson? value "topics" 4 default.leaders
      connectivity := ← setting Resubmission.ofJson? value "connectivity" 5 default.connectivity
      namespaces := ← setting Resubmission.ofJson? value "namespaces" 6 default.namespaces
      secrets := ← setting Secrets.ofJson? value "secrets" 7 default.secrets }

/-! ## Loading -/

/-- Why settings cannot be loaded. -/
inductive LoadFault where
  | unknownFormat
  /-- The file is missing or malformed. -/
  | unreadable
  /-- A value cannot be taken as what its setting asks for. -/
  | wrongType
  | refused (complaint : String)
  deriving DecidableEq, Repr

/-- The wording of a fault. -/
def LoadFault.message : LoadFault → String
  | .unknownFormat => "不支持的配置文件格式，仅支持 YAML 或 JSON"
  | .unreadable => "构建配置失败"
  | .wrongType => "配置格式错误"
  | .refused complaint => complaint

/-- The layer of a file, if there is one. -/
def fileLayer : Option SettingsFile → Except LoadFault Properties
  | none => .ok []
  | some file =>
      match FileFormat.ofPath? file.path with
      | none => .error .unknownFormat
      | some format =>
          match file.layer? format with
          | none => .error .unreadable
          | some layer => .ok layer

/-- Loads the settings from a file, if there is one, and the environment. -/
def load (file : Option SettingsFile) (environment : List (String × String)) :
    Except LoadFault Engine := do
  let layer ← fileLayer file
  let defaults := Engine.codec.encode {}
  let layered := overlay (overlay defaults layer) (environmentLayer environment)
  match Engine.ofJson? layered with
  | none => .error .wrongType
  | some settings =>
      match settings.complaint? with
      | some complaint => .error (.refused complaint)
      | none => .ok settings

end Provision.Settings
