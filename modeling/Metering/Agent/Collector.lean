/-
The collectors of an agent: what they make of the figures that the machine gives. The runtime
collector also counts its polls and gives a random sample at each; those of memory and of the
processors fail when the machine gives no figures.
-/

import Metering.Agent.Reading

namespace Metering

/-- What the machine tells of the agent's own process, and a sample of the unit interval. -/
structure ProcessFigures where
  memory : Binary64
  virtualMemory : Binary64
  processorUse : Binary64
  diskRead : Binary64
  diskWritten : Binary64
  runTime : Binary64
  sample : Binary64
  deriving DecidableEq, Repr

/-- What the machine tells of its memory. -/
structure MemoryFigures where
  total : Binary64
  free : Binary64
  deriving DecidableEq, Repr

namespace Collector

/-- The counter of the polls of the runtime collector. -/
def pollCount : String := "PollCount"

/-- The gauge of the random samples. -/
def randomValue : String := "RandomValue"

/-- The readings of the runtime collector. -/
def runtime (figures : ProcessFigures) : List Reading :=
  [.gauge "Alloc" figures.memory, .gauge "Sys" figures.virtualMemory,
    .gauge "CpuUsage" figures.processorUse, .gauge "DiskReadBytes" figures.diskRead,
    .gauge "DiskWrittenBytes" figures.diskWritten, .gauge "RunTime" figures.runTime,
    .gauge randomValue figures.sample, .increment pollCount 1]

/-- The readings of the memory collector. -/
def memory (figures : MemoryFigures) : Except String (List Reading) :=
  if figures.total.isZero then .error "virtual memory statistics unavailable"
  else .ok [.gauge "TotalMemory" figures.total, .gauge "FreeMemory" figures.free]

/-- The gauge of a processor. -/
def processorGauge (number : Nat) : String := "CpuUtilization" ++ toString number

/-- The readings of the processor collector, one for every processor. -/
def processors (uses : List Binary64) : Except String (List Reading) :=
  if uses.isEmpty then .error "no logical CPUs reported"
  else .ok (uses.zipIdx.map fun (use, index) => .gauge (processorGauge (index + 1)) use)

end Collector

end Metering
