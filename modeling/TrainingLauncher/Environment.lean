/-
Environment variables: the ones a launcher finds, and the ones it hands to a process. The variables
of a process are those of its role on top of the ones it inherits.
-/

import Std.Data.TreeMap
import TrainingLauncher.Text.Fields

namespace TrainingLauncher

/-- Variables with their values, in the order of their names. -/
abbrev Environment := Std.TreeMap String String

namespace Environment

/-- The variables of a list; the last value of a name counts. -/
def ofList (entries : List (String × String)) : Environment :=
  entries.foldl (fun environment entry => environment.insert entry.1 entry.2) ∅

/-- The variables of both; a name that both have takes its value from `upper`. -/
def under (lower upper : Environment) : Environment :=
  upper.toList.foldl (fun environment entry => environment.insert entry.1 entry.2) lower

/-- The variables that would send the traffic between the processes through a proxy. -/
def proxyVariables : List String := ["http_proxy", "https_proxy", "HTTP_PROXY", "HTTPS_PROXY"]

/-- The variables without the proxy settings. -/
def withoutProxies (environment : Environment) : Environment :=
  proxyVariables.foldl (fun kept name => kept.erase name) environment

/-- The variables that point a process at the directory where the processes meet. -/
def rendezvous (directory : String) : Environment :=
  ofList [
    ("PADDLE_WITH_GLOO", "1"),
    ("PADDLE_GLOO_RENDEZVOUS", "2"),
    ("PADDLE_GLOO_FS_PATH", directory)]

end Environment

end TrainingLauncher
