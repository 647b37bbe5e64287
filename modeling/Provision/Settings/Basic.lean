import Provision.Json.Record
import Provision.Topic.Spec

/-!
# Settings

How patient the engine is, how it introduces itself, and where it finds its secrets.
-/

set_option autoImplicit false

namespace Provision.Settings

open Json (Codec Record)

/-- Time limits of a session with a broker. -/
structure SessionLimits where
  connectMs : Nat := 5000
  requestMs : Nat := 30000
  deriving DecidableEq, Repr, Inhabited

/-- How completion is polled. -/
structure Polling where
  intervalSecs : Nat := 10
  totalSecs : Nat := 1800
  deriving DecidableEq, Repr, Inhabited

/-- How the leaders of a topic are waited for. -/
structure Leaders where
  waitMs : Nat := Topic.Spec.defaultLeaderWaitMs
  intervalMs : Nat := 250
  deriving DecidableEq, Repr, Inhabited

/-- After how many polls without effect a submission is taken for lost. -/
structure Resubmission where
  afterStalePolls : Nat := 3
  deriving DecidableEq, Repr, Inhabited

/-- Where secrets are stored. -/
structure Secrets where
  namespaceName : String := "default"
  certField : String := "cert"
  keyField : String := "key"
  deriving DecidableEq, Repr, Inhabited

/-- All settings. -/
structure Engine where
  logLevel : String := "info"
  clientIdPrefix : String := "client-CR"
  session : SessionLimits := {}
  polling : Polling := {}
  leaders : Leaders := {}
  connectivity : Resubmission := {}
  namespaces : Resubmission := {}
  secrets : Secrets := {}
  deriving DecidableEq, Repr, Inhabited

/-! ## As objects -/

/-- The fields of session limits. -/
def SessionLimits.record : Record SessionLimits SessionLimits :=
  SessionLimits.mk
    <$> .defaulted "connect_timeout_ms" (Codec.unsigned 64) 5000 SessionLimits.connectMs
    <*> .defaulted "request_timeout_ms" (Codec.unsigned 64) 30000 SessionLimits.requestMs

/-- The fields of polling settings. -/
def Polling.record : Record Polling Polling :=
  Polling.mk
    <$> .defaulted "query_interval_secs" (Codec.unsigned 64) 10 Polling.intervalSecs
    <*> .defaulted "total_timeout_secs" (Codec.unsigned 64) 1800 Polling.totalSecs

/-- The fields of leader settings. -/
def Leaders.record : Record Leaders Leaders :=
  Leaders.mk
    <$> .defaulted "leader_wait_timeout_ms" (Codec.unsigned 64) Topic.Spec.defaultLeaderWaitMs
        Leaders.waitMs
    <*> .defaulted "leader_poll_interval_ms" (Codec.unsigned 64) 250 Leaders.intervalMs

/-- The field of resubmission settings. -/
def Resubmission.record : Record Resubmission Resubmission :=
  Resubmission.mk
    <$> .defaulted "resubmit_after_stale_polls" (Codec.unsigned 32) 3 Resubmission.afterStalePolls

/-- The fields of secret settings. -/
def Secrets.record : Record Secrets Secrets :=
  Secrets.mk
    <$> .defaulted "namespace" Codec.text "default" Secrets.namespaceName
    <*> .defaulted "cert_field" Codec.text "cert" Secrets.certField
    <*> .defaulted "key_field" Codec.text "key" Secrets.keyField

/-- Secret settings as objects. -/
def Secrets.codec : Codec Secrets := Secrets.record.codec "SecretConfig"

/-- The fields of the settings. -/
def Engine.record : Record Engine Engine :=
  Engine.mk
    <$> .defaulted "log_level" Codec.text "info" Engine.logLevel
    <*> .defaulted "client_id_prefix" Codec.text "client-CR" Engine.clientIdPrefix
    <*> .defaulted "session" (SessionLimits.record.codec "SessionConfig") {} Engine.session
    <*> .defaulted "polling" (Polling.record.codec "PollingConfig") {} Engine.polling
    <*> .defaulted "topics" (Leaders.record.codec "TopicConfig") {} Engine.leaders
    <*> .defaulted "connectivity" (Resubmission.record.codec "ConnectivityConfig") {}
        Engine.connectivity
    <*> .defaulted "namespaces" (Resubmission.record.codec "NamespaceConfig") {}
        Engine.namespaces
    <*> .defaulted "secrets" Secrets.codec {} Engine.secrets

/-- Settings as objects. -/
def Engine.codec : Codec Engine := Engine.record.codec "ProviderConfig"

/-! ## Checks -/

/-- What is wrong with settings that have the right form. -/
def Engine.complaint? (settings : Engine) : Option String :=
  if settings.polling.intervalSecs == 0 then some "polling.query_interval_secs 必须大于 0"
  else if settings.polling.totalSecs < settings.polling.intervalSecs then
    some "polling.total_timeout_secs 不能小于轮询间隔"
  else if settings.leaders.intervalMs == 0 then some "topics.leader_poll_interval_ms 必须大于 0"
  else if settings.connectivity.afterStalePolls == 0 then
    some "connectivity.resubmit_after_stale_polls 必须大于 0"
  else if settings.namespaces.afterStalePolls == 0 then
    some "namespaces.resubmit_after_stale_polls 必须大于 0"
  else if settings.clientIdPrefix == "" then some "client_id_prefix 不能为空"
  else none

end Provision.Settings
