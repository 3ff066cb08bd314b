import ComponentSchema.Application

/-! The command line program, on the system it is started on. -/

set_option autoImplicit false

namespace ComponentSchema.Main

structure Sink where
  settings : LogSettings
  filter : Log.Filter

/-- A run on the system. Events are shown when they happen. -/
abbrev Run := ReaderT Sink IO

instance : MonadLift Logged Run where
  monadLift logged := do
    let sink ← read
    for event in logged.events do
      if sink.filter.admits event then IO.eprintln (sink.settings.render event)
    return logged.value

/-- The fault of an error number, which the system may give with a minus sign. -/
def faultOfNumber? (number : UInt32) : Option ReadFault :=
  match if number < 0x80000000 then number else 0 - number with
  | 20 => some .notADirectory
  | 21 => some .isADirectory
  | 36 => some .nameTooLong
  | _ => none

def faultOf (error : IO.Error) : ReadFault :=
  let known? : Option ReadFault :=
    match error with
    | .noFileOrDirectory .. => some .notFound
    | .inappropriateType _ number _ => faultOfNumber? number
    | .invalidArgument _ number _ => faultOfNumber? number
    | .resourceExhausted _ number _ => faultOfNumber? number
    | _ => none
  known?.getD (.other (toString error))

partial def readToEnd (stream : IO.FS.Stream) (bytes : ByteArray) : IO ByteArray := do
  let more ← stream.read 65536
  if more.isEmpty then return bytes else readToEnd stream (bytes ++ more)

def attempt (action : IO ByteArray) : IO (Except ReadFault ByteArray) := do
  match ← action.toBaseIO with
  | .ok bytes => return .ok bytes
  | .error error => return .error (faultOf error)

def surroundings : Surroundings Run where
  variableValue? name := IO.getEnv name
  readFile path :=
    if path.text.toList.contains '\x00' then return .error .nulInName
    else attempt (IO.FS.readBinFile path.text)
  readInput := do attempt (readToEnd (← IO.getStdin) .empty)

end ComponentSchema.Main

open ComponentSchema in
def main (arguments : List String) : IO UInt32 := do
  let invocation := Arguments.read arguments
  let settings := invocation.logSettings
  let filter := settings.filter (← IO.getEnv Log.Filter.variableName)
  let report ← (Application.run Main.surroundings .located invocation).run { settings, filter }
  if let some complaint := report.complaint? then IO.eprintln complaint
  IO.print report.output
  return report.exitCode.toUInt32
