/-
The role classes of a training job and the kinds of accelerator its processes run on.
-/

namespace TrainingLauncher

/-- What a process does in the job. Ranks are numbered independently in each class. -/
inductive Role where
  | trainer
  | server
  | heterWorker
  deriving DecidableEq, Repr

namespace Role

/-- The role as the process itself is told, in `TRAINING_ROLE`. -/
def tag : Role → String
  | trainer => "TRAINER"
  | server => "PSERVER"
  | heterWorker => "HETER_TRAINER"

/-- The stem of the role's log files, which the local slot completes. -/
def logStem : Role → String
  | trainer => "workerlog"
  | server => "serverlog"
  | heterWorker => "heterlog"

/-- The role as the operator reads it. -/
def title : Role → String
  | trainer => "worker"
  | server => "server"
  | heterWorker => "heter worker"

/-- The role as it is written in a stored cluster. -/
def key : Role → String
  | trainer => "trainer"
  | server => "server"
  | heterWorker => "heter_worker"

/-- Every role class. -/
def all : List Role := [trainer, server, heterWorker]

/-- The role with a given written form. -/
def ofKey? (text : String) : Option Role := all.find? (·.key == text)

end Role

/-- A family of accelerators. -/
inductive DeviceKind where
  | gpu
  | xpu
  deriving DecidableEq, Repr

namespace DeviceKind

/-- The name of the family. -/
def name : DeviceKind → String
  | gpu => "gpu"
  | xpu => "xpu"

/-- The variable that says which devices of the family a process may see. -/
def maskVariable : DeviceKind → String
  | gpu => "CUDA_VISIBLE_DEVICES"
  | xpu => "XPU_VISIBLE_DEVICES"

/-- How the names of the family's device files start. -/
def deviceFileStem : DeviceKind → String
  | gpu => "nvidia"
  | xpu => "xpu"

/-- The family with a given name. -/
def ofName? (text : String) : Option DeviceKind := [gpu, xpu].find? (·.name == text)

end DeviceKind

end TrainingLauncher
