import UsageWatch.Json.Printer
import UsageWatch.Sample.Format
import UsageWatch.Usage
/-!
# Usage in JSON

What a server shows of the newest usage. Nothing reads it, so it is written only.
-/

namespace UsageWatch

open Json (ofString ofMembers)

def SystemUsage.toJson (s : SystemUsage) : Json :=
  ofMembers
    [("cpu_non_idle_time_millis", counterJson s.cpuNonIdleTime),
     ("cpu_non_idle_cycles", counterJson s.cpuNonIdleCycles),
     ("cpu_idle_time_millis", counterJson s.cpuIdleTime),
     ("context_switches", counterJson s.contextSwitches),
     ("io_blocked_process_count", countJson s.blockedProcesses),
     ("total_process_count", countJson s.processes),
     ("total_major_page_faults", counterJson s.majorFaults),
     ("total_io_read_bytes", counterJson s.bytesRead),
     ("total_io_write_bytes", counterJson s.bytesWritten)]

def PackageUsage.toJson (p : PackageUsage) : Json :=
  ofMembers
    [("uid", countJson p.uid), ("user_id", countJson p.user), ("package_name", ofString p.package),
     ("cpu_time_millis", counterJson p.cpuTime), ("cpu_cycles", counterJson p.cpuCycles)]

def ResourceUsage.toJson (u : ResourceUsage) : Json :=
  ofMembers
    [("start_time_epoch_millis", counterJson u.startMillis),
     ("duration_millis", counterJson u.durationMillis),
     ("system_summary_usage_stats", u.system.toJson),
     ("uid_resource_usage_stats", .array (u.packages.map PackageUsage.toJson))]

end UsageWatch
