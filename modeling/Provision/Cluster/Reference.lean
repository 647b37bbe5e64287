import Provision.Failure
import Provision.Text.Blank
import Provision.Text.Pieces

/-!
# Cluster references

A cluster is referred to by `arn:<partition>:kafka:<region>:<account>:cluster/<name>/<uuid>`, with
blanks around it ignored.  A value of `Reference` is only ever made by `parse`.
-/

set_option autoImplicit false

namespace Provision.Cluster

/-- A checked reference: the whole text and the cluster's name in it. -/
structure Reference where
  arn : String
  name : String
  deriving DecidableEq, Repr

namespace Reference

/-- The name in the last part of a reference, `cluster/<name>/<uuid>`. -/
def resourceName? (resource : List Char) : Option (List Char) :=
  match Text.pieces '/' resource with
  | [kind, name, unique] =>
      if kind == "cluster".toList && !name.isEmpty && !unique.isEmpty then some name else none
  | _ => none

/-- Reads a reference. -/
def parse (given : String) : Outcome Reference :=
  let characters := Text.trimChars given.toList
  let arn := String.ofList characters
  let malformed : Outcome Reference := .error (.validation ("无效的集群 ARN: " ++ arn))
  match Text.piecesAtMost ':' 6 characters with
  | [scheme, _, service, region, account, resource] =>
      if scheme != "arn".toList || service != "kafka".toList then malformed
      else if region.isEmpty || account.isEmpty then
        .error (.validation ("集群 ARN 缺少区域或账号: " ++ arn))
      else
        match resourceName? resource with
        | some name => .ok ⟨arn, String.ofList name⟩
        | none => .error (.validation ("集群 ARN 资源部分无效: " ++ arn))
  | _ => malformed

end Reference

end Provision.Cluster
