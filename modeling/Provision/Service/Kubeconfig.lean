import Provision.Failure
import Provision.Json.Record
import Provision.Yaml.Reader

/-!
# Access to the store of secrets

The store is reached as a kubeconfig file says: its current context names a cluster, whose server
is asked, and a user, as whom it is asked.  A file that leaves one of them open gives no access.
-/

set_option autoImplicit false

namespace Provision.Service

open Json (Codec Record)

/-- A cluster of a file. -/
structure KubeCluster where
  server : Option String
  deriving DecidableEq, Repr

/-- A user of a file. -/
structure KubeUser where
  token : Option String
  username : Option String
  password : Option String
  deriving DecidableEq, Repr

/-- A context of a file: the names of a cluster and of a user. -/
structure KubeContext where
  cluster : String
  user : String
  namespaceName : Option String
  deriving DecidableEq, Repr

/-- A name and what it may stand for. -/
abbrev Named (α : Type) := String × Option α

/-- A kubeconfig file. -/
structure Kubeconfig where
  clusters : List (Named KubeCluster)
  users : List (Named KubeUser)
  contexts : List (Named KubeContext)
  currentContext : Option String
  deriving DecidableEq, Repr

namespace Kubeconfig

/-! ## As objects -/

/-- The fields of a cluster. -/
def clusterRecord : Record KubeCluster KubeCluster :=
  KubeCluster.mk <$> .nullable "server" Codec.text KubeCluster.server

/-- The fields of a user. -/
def userRecord : Record KubeUser KubeUser :=
  KubeUser.mk
    <$> .nullable "token" Codec.text KubeUser.token
    <*> .nullable "username" Codec.text KubeUser.username
    <*> .nullable "password" Codec.text KubeUser.password

/-- The fields of a context. -/
def contextRecord : Record KubeContext KubeContext :=
  KubeContext.mk
    <$> .required "cluster" Codec.text KubeContext.cluster
    <*> .required "user" Codec.text KubeContext.user
    <*> .nullable "namespace" Codec.text KubeContext.namespaceName

/-- A name beside what it stands for. -/
def namedCodec {α : Type} (member : String) (codec : Codec α) : Codec (Named α) :=
  let record : Record (Named α) (Named α) :=
    Prod.mk <$> .required "name" Codec.text Prod.fst <*> .nullable member codec Prod.snd
  record.codec "Named"

/-- A list that may be null or missing. -/
def listField {σ α : Type} (name : String) (codec : Codec α) (get : σ → List α) :
    Record σ (List α) :=
  (fun given => given.getD [])
    <$> .defaulted name (Codec.list codec).nullable none fun value => some (get value)

/-- The fields of a file. -/
def record : Record Kubeconfig Kubeconfig :=
  Kubeconfig.mk
    <$> listField "clusters" (namedCodec "cluster" (clusterRecord.codec "Cluster"))
        Kubeconfig.clusters
    <*> listField "users" (namedCodec "user" (userRecord.codec "AuthInfo")) Kubeconfig.users
    <*> listField "contexts" (namedCodec "context" (contextRecord.codec "Context"))
        Kubeconfig.contexts
    <*> .nullable "current-context" Codec.text Kubeconfig.currentContext

/-- Reads the text of a file; one without a document is empty. -/
def ofText? (text : String) : Option Kubeconfig := do
  match ← Yaml.Node.ofText? text with
  | none => some ⟨[], [], [], none⟩
  | some node => (record.decode "Kubeconfig" (← node.toJson?)).toOption

/-! ## Access -/

/-- What the first of the entries with a name stands for. -/
def find? {α : Type} (name : String) (entries : List (Named α)) : Option α :=
  (entries.find? fun entry => entry.1 == name).bind Prod.snd

/-- Whom to ask and as whom. -/
structure Access where
  server : String
  user : KubeUser
  deriving DecidableEq, Repr

/-- The access that the current context of a file gives. -/
def access? (file : Kubeconfig) : Option Access := do
  let context ← find? (← file.currentContext) file.contexts
  let cluster ← find? context.cluster file.clusters
  let user ← find? context.user file.users
  let server ← cluster.server
  if server.isEmpty then none else some ⟨server, user⟩

/-- The access that the text of a file gives, if there is such a file. -/
def access (file : Option String) : Outcome Access :=
  match (file.bind ofText?).bind access? with
  | some access => .ok access
  | none => .error (.transient "创建 Kubernetes 客户端失败")

end Kubeconfig

end Provision.Service
