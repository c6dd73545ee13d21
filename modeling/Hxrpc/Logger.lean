import Hxrpc.Lib.HandOver
import Hxrpc.Types

/-!
# The logger

`LoggerImpl` as a machine: any number of threads call `Write` and `Configure`, the worker runs its
loop, and the destructor stops and joins it.  What happens under the mutex is one step; while the
worker writes a batch it does not hold the mutex, so there every entry is a step of its own.
Flushing is left out.
-/

namespace Hxrpc

/-- Log level. -/
inductive LogLevel where
  | kInfo
  | kWarn
  | kError
  deriving DecidableEq

/-- The value of the enumerator. -/
def LogLevel.toNat : LogLevel → Nat
  | .kInfo => 0
  | .kWarn => 1
  | .kError => 2

/-- `ToString`. -/
def LogLevel.toString : LogLevel → Bytes
  | .kInfo => text "INFO"
  | .kWarn => text "WARN"
  | .kError => text "ERROR"

/-- `LoggerOptions`. -/
structure LoggerOptions where
  /-- Queue the entries for the worker. -/
  asyncEnabled : Bool := true
  /-- Write to the standard error stream. -/
  stderrEnabled : Bool := true
  /-- Path of the log file; empty for none. -/
  filePath : Bytes := []
  /-- Entries below this level are dropped. -/
  minLevel : LogLevel := .kInfo
  deriving DecidableEq

/-- `LogEntry`. -/
structure LogEntry where
  /-- Level of the entry. -/
  level : LogLevel
  /-- When it was written. -/
  timestamp : Int
  /-- Its text. -/
  message : Bytes
  deriving DecidableEq

namespace Logger

/-- `FormatLine`; `putTime` prints a time as `put_time` does in the local zone. -/
def formatLine (putTime : Int → Bytes) (entry : LogEntry) : Bytes :=
  text "[" ++ entry.level.toString ++ text "] " ++ putTime entry.timestamp ++ text " " ++
    entry.message

/-- Where the worker is in `Run`. -/
inductive Worker where
  /-- The thread has not taken the mutex yet. -/
  | starting
  /-- Inside `wait_for`. -/
  | waiting
  /-- Inside `WriteBatch`, behind so many entries of the batch. -/
  | writing (count : Nat)
  /-- `Run` has returned. -/
  | ended
  deriving DecidableEq

/-- How much of the batch the worker has written. -/
def Worker.count : Worker → Nat
  | .writing count => count
  | _ => 0

/-- `LoggerImpl` with what was written, and what `Write` accepted for the worker. -/
structure Impl where
  /-- `options_`. -/
  options : LoggerOptions := {}
  /-- `queue_`. -/
  queue : List LogEntry := []
  /-- `file_stream_`: the path of the open file. -/
  fileStream : Option Bytes := none
  /-- `stopping_`. -/
  stopping : Bool := false
  /-- `batch`, the local variable of `Run`. -/
  batch : List LogEntry := []
  /-- `worker_`. -/
  worker : Worker := .starting
  /-- The destructor has returned. -/
  destroyed : Bool := false
  /-- Lines of the standard error stream. -/
  stderr : List Bytes := []
  /-- Lines of the files, with their paths. -/
  files : List (Bytes × Bytes) := []
  /-- The entries that were accepted in asynchronous mode. -/
  accepted : List LogEntry := []
  /-- The entries that the worker passed to `WriteUnlocked`. -/
  written : List LogEntry := []
  deriving DecidableEq

/-- What the file system answers to `Configure`. -/
structure FileAnswer where
  /-- Error of `create_directories`. -/
  directoryError : Option Bytes := none
  /-- The file was opened. -/
  opened : Bool := true
  deriving DecidableEq

/-- `Configure`. -/
def configure (impl : Impl) (options : LoggerOptions) (answer : FileAnswer) :
    Except Bytes Unit × Impl :=
  if options.filePath ≠ [] then
    match answer.directoryError with
    | some message => (.error (text "failed to create log directory: " ++ message), impl)
    | none =>
        if answer.opened then
          (.ok (), { impl with options := options, fileStream := some options.filePath })
        else (.error (text "failed to open log file: " ++ options.filePath), impl)
  else (.ok (), { impl with options := options, fileStream := none })

/-- `WriteUnlocked`. -/
def writeUnlocked (impl : Impl) (line : Bytes) : Impl :=
  { impl with
    stderr := if impl.options.stderrEnabled then impl.stderr ++ [line] else impl.stderr
    files :=
      match impl.fileStream with
      | some path => impl.files ++ [(path, line)]
      | none => impl.files }

/-- `Write`, at a time `now`. -/
def write (putTime : Int → Bytes) (impl : Impl) (level : LogLevel) (now : Int) (message : Bytes) :
    Impl :=
  if level.toNat < impl.options.minLevel.toNat then impl
  else if impl.options.asyncEnabled then
    { impl with
      queue := impl.queue ++ [⟨level, now, message⟩]
      accepted := impl.accepted ++ [⟨level, now, message⟩] }
  else writeUnlocked impl (formatLine putTime ⟨level, now, message⟩)

/-- The worker moves the queue into the batch and unlocks. -/
def collect (impl : Impl) : Impl :=
  { impl with batch := impl.batch ++ impl.queue, queue := [], worker := .writing 0 }

/-- The worker, from the condition of its loop up to where it unlocks.  When the predicate of the
wait holds it does not wait, and then the queue is not empty. -/
def loopHead (impl : Impl) : Impl :=
  if impl.stopping ∧ impl.queue = [] then { impl with worker := .ended }
  else if ¬ impl.stopping ∧ impl.queue = [] then { impl with worker := .waiting }
  else collect impl

/-- The worker behind the wait. -/
def woken (impl : Impl) : Impl :=
  if impl.queue = [] then loopHead impl else collect impl

/-- What the threads do. -/
inductive Action where
  /-- Some thread calls `Write`. -/
  | write (level : LogLevel) (now : Int) (message : Bytes)
  /-- Some thread calls `Configure`. -/
  | configure (options : LoggerOptions) (answer : FileAnswer)
  /-- The worker takes the mutex for the first time. -/
  | start
  /-- The wait ends: by a notification, after the interval or spuriously. -/
  | wake
  /-- The worker passes the next entry of the batch to `WriteUnlocked`. -/
  | writeEntry
  /-- The worker clears the batch and takes the mutex. -/
  | finish
  /-- The destructor sets `stopping_`. -/
  | stop
  /-- The destructor has joined the worker and returns. -/
  | join

/-- One step; none where it cannot happen. -/
def step (putTime : Int → Bytes) (impl : Impl) : Action → Option Impl
  | .write level now message =>
      if impl.destroyed then none else some (write putTime impl level now message)
  | .configure options answer =>
      if impl.destroyed then none else some (configure impl options answer).2
  | .start => if impl.worker = .starting then some (loopHead impl) else none
  | .wake => if impl.worker = .waiting then some (woken impl) else none
  | .writeEntry =>
      match impl.worker, impl.batch[impl.worker.count]? with
      | .writing count, some entry =>
          some { writeUnlocked impl (formatLine putTime entry) with
            written := impl.written ++ [entry]
            worker := .writing (count + 1) }
      | _, _ => none
  | .finish =>
      if impl.worker = .writing impl.batch.length then some (loopHead { impl with batch := [] })
      else none
  | .stop => if impl.stopping then none else some { impl with stopping := true }
  | .join =>
      if impl.stopping ∧ impl.worker = .ended ∧ ¬ impl.destroyed then
        some { impl with destroyed := true }
      else none

/-- The state behind some steps. -/
def run (putTime : Int → Bytes) : Impl → List Action → Option Impl
  | impl, [] => some impl
  | impl, action :: actions => (step putTime impl action).bind fun next => run putTime next actions

/-- A `Write` that is accepted for a worker that has returned. -/
def Late (impl : Impl) : Action → Prop
  | .write level _ _ => impl.worker = .ended ∧ impl.options.asyncEnabled = true ∧
      impl.options.minLevel.toNat ≤ level.toNat
  | _ => False

/-- No step of the run is late. -/
def Punctual (putTime : Int → Bytes) : Impl → List Action → Prop
  | _, [] => True
  | impl, action :: actions => ¬ Late impl action ∧
      ∀ next, step putTime impl action = some next → Punctual putTime next actions

end Logger

end Hxrpc
