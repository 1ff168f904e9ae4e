import ClassRuntime.CommandLine.Report

/-- Describe the classes named on the command line. -/
def main (arguments : List String) : IO UInt32 := do
  let report := ClassRuntime.CommandLine.report arguments
  IO.print report.stdout
  IO.eprint (report.stderr.getD "usage: jvm-rs [-l] [-V] [CLASS]...\n")
  pure report.exitCode.toUInt32
