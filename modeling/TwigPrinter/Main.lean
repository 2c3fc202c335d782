import TwigPrinter.CommandLine.Run
/-!
The command line. What a run does is decided by `CommandLine.run`; here the files that it may look
at are read and what it writes is written.
-/
namespace TwigPrinter.CommandLine

def readEntry (path : String) : IO Entry := do
  if path.isEmpty then return .missing
  let place := (← IO.currentDir) / path
  if !(← place.pathExists) then return .missing
  if ← place.isDir then return .directory
  try
    return .file (← IO.FS.readBinFile place)
  catch e =>
    return .there true (.error (.refused (toString e)))

def readDisk (paths : List String) : IO Disk := do
  let entries ← paths.mapM fun path => do return (path, ← readEntry path)
  return Disk.ofList entries

def Detail.text : Detail → String
  | .text s => String.quote s
  | .flag b => toString b
  | .count n => toString n

def Notice.text : Notice → String
  | .message text => text
  | .log record =>
    let details := record.details.map fun (name, d) => " " ++ name ++ "=" ++ Detail.text d
    record.level.name ++ " " ++ record.target ++ ": " ++ record.message ++ String.join details
      ++ "\n"

/-- The filter that the environment names: the least level of what is logged. -/
def filterOfName? : String → Option LogFilter
  | "off" => some .off
  | "error" => some (.least .error)
  | "warn" => some (.least .warn)
  | "info" => some (.least .info)
  | "debug" => some (.least .debug)
  | "trace" => some (.least .trace)
  | _ => none

end TwigPrinter.CommandLine

open TwigPrinter.CommandLine in
def main (args : List String) : IO UInt32 := do
  let request := Request.ofArguments args
  let disk ← readDisk (pathsOf request)
  let filter := (← IO.getEnv "RUST_LOG").bind filterOfName?
  let outcome := request.run { disk := disk, filter := filter }
  IO.print outcome.stdout
  IO.eprint (String.join (outcome.stderr.map Notice.text))
  return outcome.code.toUInt32
