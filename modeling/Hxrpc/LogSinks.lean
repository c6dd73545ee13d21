import Hxrpc.Deployment
import Hxrpc.Logging

/-!
# Where the log goes

Settings that were loaded name at least one sink, and a file exactly if there is a path for it.  A
logger that was configured with them shows the entries it admits, formatted and in the order of the
calls of `Write`, in each sink that is on and in no other: at once if it is synchronous, and
otherwise as far as the worker has come.
-/

namespace Hxrpc

open Settings

/-! ## Loaded settings -/

/-- There is a path exactly if a file is written. -/
def LoggerConfig.Valid (config : LoggerConfig) : Prop :=
  sinkWritesFile config.sink = true ↔ config.filePath ≠ []

theorem valid_of_buildLoggerConfig {config : HxrpcConfig} {logger : LoggerConfig}
    (built : buildLoggerConfig config = .ok logger) : logger.Valid := by
  rw [buildLoggerConfig] at built
  cases mode : parseLoggerMode (config.load (text "logging.mode")) with
  | error error => simp only [mode, reduceCtorEq] at built
  | ok mode' =>
      cases sink : parseLoggerSink (config.load (text "logging.sink")) with
      | error error => simp only [mode, sink, reduceCtorEq] at built
      | ok sink' =>
          cases level : parseLogLevel (config.load (text "logging.min_level")) with
          | error error => simp only [mode, sink, level, reduceCtorEq] at built
          | ok level' =>
              simp only [mode, sink, level] at built
              split_ifs at built with missing surplus
              obtain rfl := Except.ok.inj built
              constructor
              · exact fun writes empty => missing ⟨writes, empty⟩
              · intro nonempty
                by_contra silent
                exact surplus ⟨silent, nonempty⟩

/-- Settings that `LoggerSettings::Load` returns are valid. -/
theorem valid_of_loadLoggerSettings {files : Bytes → Option Bytes} {walk : Walk} {path : Bytes}
    {settings : LoggerSettings} (loaded : loadLoggerSettings files walk path = .ok settings) :
    settings.config.Valid := by
  rw [loadLoggerSettings] at loaded
  cases raw : loadRawConfig files walk path with
  | error error => simp only [raw, reduceCtorEq] at loaded
  | ok config =>
      cases built : buildLoggerConfig config with
      | error error => simp only [raw, built, reduceCtorEq] at loaded
      | ok logger =>
          simp only [raw, built] at loaded
          obtain rfl := Except.ok.inj loaded
          exact valid_of_buildLoggerConfig built

namespace Logger

/-! ## What the sinks show -/

/-- The entry that an action admits, if it does. -/
def admittedBy (options : LoggerOptions) : Action → List LogEntry
  | .write level now message =>
      if level.toNat < options.minLevel.toNat then [] else [⟨level, now, message⟩]
  | _ => []

/-- The entries that some actions admit. -/
def admitted (options : LoggerOptions) (actions : List Action) : List LogEntry :=
  actions.flatMap (admittedBy options)

/-- The action configures the logger. -/
def Configures : Action → Prop
  | .configure _ _ => True
  | _ => False

/-- The action writes an entry. -/
def Writes : Action → Prop
  | .write _ _ _ => True
  | _ => False

/-- The sinks that are on show some entries, and the others are empty. -/
structure Shown (putTime : Int → Bytes) (options : LoggerOptions) (entries : List LogEntry)
    (impl : Impl) : Prop where
  stderr : impl.stderr =
    if options.stderrEnabled then entries.map (formatLine putTime) else []
  files : impl.files =
    if options.filePath = [] then []
    else entries.map fun entry => (options.filePath, formatLine putTime entry)

/-- The logger has had its options since before the first entry, and has admitted some entries. -/
structure Settled (putTime : Int → Bytes) (options : LoggerOptions) (entries : List LogEntry)
    (impl : Impl) : Prop where
  inv : Inv impl
  own : impl.options = options
  fileStream : impl.fileStream = if options.filePath = [] then none else some options.filePath
  accepted : impl.accepted = if options.asyncEnabled then entries else []
  shown : Shown putTime options (if options.asyncEnabled then impl.written else entries) impl

variable {putTime : Int → Bytes} {options : LoggerOptions} {entries : List LogEntry}
  {impl next : Impl} {action : Action}

/-- A line goes to the sinks that are on. -/
theorem shown_writeUnlocked {shown : List LogEntry} (own : impl.options = options)
    (stream : impl.fileStream = if options.filePath = [] then none else some options.filePath)
    (before : Shown putTime options shown impl) (entry : LogEntry) :
    Shown putTime options (shown ++ [entry])
      (writeUnlocked impl (formatLine putTime entry)) := by
  constructor
  · simp only [writeUnlocked, own, before.stderr]
    split_ifs <;> simp
  · simp only [writeUnlocked, stream, before.files]
    by_cases none : options.filePath = []
    · simp [none]
    · simp [none]

/-- The sinks and the options stay. -/
theorem settled_of_eq (settled : Settled putTime options entries impl) (inv : Inv next)
    (own : next.options = impl.options) (stream : next.fileStream = impl.fileStream)
    (accepted : next.accepted = impl.accepted) (written : next.written = impl.written)
    (stderr : next.stderr = impl.stderr) (files : next.files = impl.files) :
    Settled putTime options entries next where
  inv := inv
  own := own.trans settled.own
  fileStream := stream.trans settled.fileStream
  accepted := accepted.trans settled.accepted
  shown := by
    rw [written]
    exact ⟨stderr.trans settled.shown.stderr, files.trans settled.shown.files⟩

theorem loopHead_sinks (impl : Impl) :
    (loopHead impl).options = impl.options ∧ (loopHead impl).fileStream = impl.fileStream ∧
      (loopHead impl).accepted = impl.accepted ∧ (loopHead impl).written = impl.written ∧
      (loopHead impl).stderr = impl.stderr ∧ (loopHead impl).files = impl.files := by
  rw [loopHead]
  split_ifs
  · exact ⟨rfl, rfl, rfl, rfl, rfl, rfl⟩
  · exact ⟨rfl, rfl, rfl, rfl, rfl, rfl⟩
  · exact ⟨rfl, rfl, rfl, rfl, rfl, rfl⟩

theorem settled_of_loopHead (settled : Settled putTime options entries impl)
    {batch : List LogEntry} (inv : Inv (loopHead { impl with batch := batch })) :
    Settled putTime options entries (loopHead { impl with batch := batch }) := by
  obtain ⟨own, stream, accepted, written, stderr, files⟩ :=
    loopHead_sinks { impl with batch := batch }
  exact settled_of_eq settled inv own stream accepted written stderr files

/-- `Write` on a settled logger. -/
theorem settled_write (settled : Settled putTime options entries impl) {level : LogLevel}
    {now : Int} {message : Bytes} (inv : Inv (write putTime impl level now message)) :
    Settled putTime options (entries ++ admittedBy options (.write level now message))
      (write putTime impl level now message) := by
  have accepted := settled.accepted
  have shown := settled.shown
  rw [admittedBy, ← settled.own]
  rw [write] at inv ⊢
  split_ifs at inv ⊢ with low async
  · rw [List.append_nil, settled.own]
    exact settled
  · rw [settled.own] at async
    rw [if_pos async] at accepted shown
    refine ⟨inv, rfl, settled.own ▸ settled.fileStream, ?_, ?_⟩
    · rw [settled.own, if_pos async, accepted]
    · rw [settled.own, if_pos async]
      exact ⟨shown.stderr, shown.files⟩
  · rw [settled.own] at async
    rw [if_neg async] at accepted shown
    refine ⟨inv, rfl, settled.own ▸ settled.fileStream, ?_, ?_⟩
    · rw [settled.own, if_neg async]
      exact accepted
    · rw [settled.own, if_neg async]
      exact shown_writeUnlocked settled.own settled.fileStream shown _

/-- Nothing but `Write` and `Configure` changes what is admitted. -/
theorem settled_other (settled : Settled putTime options entries impl)
    (fixed : ¬ Configures action) (quiet : ¬ Writes action)
    (moved : step putTime impl action = some next) :
    Settled putTime options entries next := by
  have inv := inv_step settled.inv moved
  cases action with
  | write level now message => exact absurd trivial quiet
  | configure options answer => exact absurd trivial fixed
  | start =>
      simp only [step] at moved
      split_ifs at moved
      obtain rfl := Option.some.inj moved
      exact settled_of_loopHead settled inv
  | wake =>
      simp only [step] at moved
      split_ifs at moved
      obtain rfl := Option.some.inj moved
      rw [woken_eq] at inv ⊢
      exact settled_of_loopHead settled inv
  | writeEntry =>
      simp only [step] at moved
      split at moved
      · rename_i count entry at_count here
        obtain rfl := Option.some.inj moved
        rcases em (options.asyncEnabled = true) with async | sync
        · have shown := settled.shown
          rw [if_pos async] at shown
          refine ⟨inv, settled.own, settled.fileStream, settled.accepted, ?_⟩
          rw [if_pos async]
          have more := shown_writeUnlocked settled.own settled.fileStream shown entry
          exact ⟨more.stderr, more.files⟩
        · -- A synchronous logger gives its worker nothing.
          have accepted := settled.accepted
          have handOver := settled.inv.handOver
          rw [if_neg sync] at accepted
          rw [HandOver, accepted, eq_comm, List.append_eq_nil_iff,
            List.append_eq_nil_iff] at handOver
          obtain ⟨inside, -⟩ := List.getElem?_eq_some_iff.mp here
          have nothing := handOver.1.2
          rw [Impl.unwritten, List.drop_eq_nil_iff] at nothing
          omega
      · cases moved
  | finish =>
      simp only [step] at moved
      split_ifs at moved
      obtain rfl := Option.some.inj moved
      exact settled_of_loopHead settled inv
  | stop =>
      simp only [step] at moved
      split_ifs at moved
      obtain rfl := Option.some.inj moved
      exact settled_of_eq settled inv rfl rfl rfl rfl rfl rfl
  | join =>
      simp only [step] at moved
      split_ifs at moved
      obtain rfl := Option.some.inj moved
      exact settled_of_eq settled inv rfl rfl rfl rfl rfl rfl

theorem admittedBy_of_not_writes (options : LoggerOptions) (quiet : ¬ Writes action) :
    admittedBy options action = [] := by
  cases action with
  | write level now message => exact absurd trivial quiet
  | _ => rfl

/-- One step of a settled logger. -/
theorem settled_step (settled : Settled putTime options entries impl)
    (fixed : ¬ Configures action) (moved : step putTime impl action = some next) :
    Settled putTime options (entries ++ admittedBy options action) next := by
  rcases em (Writes action) with writes | quiet
  · cases action with
    | write level now message =>
        have inv := inv_step settled.inv moved
        simp only [step] at moved
        split_ifs at moved
        obtain rfl := Option.some.inj moved
        exact settled_write settled inv
    | _ => exact writes.elim
  · rw [admittedBy_of_not_writes options quiet, List.append_nil]
    exact settled_other settled fixed quiet moved

/-- A run of a settled logger. -/
theorem settled_run {actions : List Action} (settled : Settled putTime options entries impl)
    (fixed : ∀ action ∈ actions, ¬ Configures action)
    (ran : run putTime impl actions = some next) :
    Settled putTime options (entries ++ admitted options actions) next := by
  induction actions generalizing impl entries with
  | nil =>
      obtain rfl := Option.some.inj ran
      rw [admitted, List.flatMap_nil, List.append_nil]
      exact settled
  | cons action actions ih =>
      obtain ⟨middle, moved, ran⟩ := Option.bind_eq_some_iff.mp ran
      have later := ih (settled_step settled (fixed action List.mem_cons_self) moved)
        (fun other member => fixed other (List.mem_cons_of_mem action member)) ran
      rwa [List.append_assoc, admitted, ← List.flatMap_cons] at later

theorem settled_initial : Settled putTime {} [] {} where
  inv := inv_initial
  own := rfl
  fileStream := rfl
  accepted := rfl
  shown := ⟨rfl, rfl⟩

/-- Whether `Configure` succeeds depends on nothing but the options and the file system; it replaces
the options and the file then. -/
theorem configure_of_ok {start : Impl} {answer : FileAnswer}
    (succeeded : (configure start options answer).1 = .ok ()) (impl : Impl) :
    (configure impl options answer).2 =
      { impl with
        options := options
        fileStream := if options.filePath = [] then none else some options.filePath } := by
  simp only [configure] at succeeded ⊢
  by_cases file : options.filePath = []
  · rw [if_neg (not_not.mpr file), if_pos file]
  · rw [if_pos file] at succeeded ⊢
    rw [if_neg file]
    split at succeeded
    · cases succeeded
    · split_ifs at succeeded with opened
      rw [if_pos opened]

/-- `Configure` settles a logger that has not written yet. -/
theorem settled_configure {earlier : LoggerOptions} {start : Impl} {answer : FileAnswer}
    (settled : Settled putTime earlier [] impl)
    (succeeded : (configure start options answer).1 = .ok ()) :
    Settled putTime options [] (configure impl options answer).2 := by
  have accepted : impl.accepted = [] := by
    rw [settled.accepted, ite_self]
  have written : impl.written = [] := by
    have handOver := settled.inv.handOver
    rw [HandOver, accepted, eq_comm, List.append_eq_nil_iff, List.append_eq_nil_iff] at handOver
    exact handOver.1.1
  have stderr : impl.stderr = [] := by
    rw [settled.shown.stderr, written, ite_self, List.map_nil, ite_self]
  have files : impl.files = [] := by
    rw [settled.shown.files, written, ite_self, List.map_nil, ite_self]
  rw [configure_of_ok succeeded]
  refine ⟨⟨settled.inv.handOver, settled.inv.idle, settled.inv.ended, settled.inv.joined⟩, rfl,
    rfl, ?_, ?_⟩
  · rw [ite_self]
    exact accepted
  · rw [written, ite_self]
    exact ⟨by simp [stderr], by simp [files]⟩

theorem run_append {front behind : List Action}
    (ran : run putTime impl (front ++ behind) = some next) :
    ∃ middle, run putTime impl front = some middle ∧ run putTime middle behind = some next := by
  induction front generalizing impl with
  | nil => exact ⟨impl, rfl, ran⟩
  | cons action front ih =>
      obtain ⟨second, moved, ran⟩ := Option.bind_eq_some_iff.mp ran
      obtain ⟨middle, first, later⟩ := ih ran
      exact ⟨middle, Option.bind_eq_some_iff.mpr ⟨second, moved, first⟩, later⟩

/-- Before the first `Write` and `Configure` nothing is shown. -/
theorem settled_before {actions : List Action}
    (quiet : ∀ action ∈ actions, ¬ Configures action ∧ ¬ Writes action)
    (ran : run putTime {} actions = some next) : Settled putTime {} [] next := by
  have settled := settled_run settled_initial (fun action member => (quiet action member).1) ran
  have nothing : admitted {} actions = [] := by
    rw [admitted, List.flatMap_eq_nil_iff]
    exact fun action member => admittedBy_of_not_writes {} (quiet action member).2
  rwa [nothing] at settled

/-- What a settled logger has admitted is what its sinks show, and for an asynchronous logger then
what waits for the worker. -/
theorem shown_of_settled (settled : Settled putTime options entries impl) :
    ∃ shown pending, entries = shown ++ pending ∧ Shown putTime options shown impl ∧
      (options.asyncEnabled = false → pending = []) ∧
      (impl.worker = .ended → impl.queue = [] → pending = []) := by
  rcases Bool.eq_false_or_eq_true options.asyncEnabled with async | sync
  · have shown := settled.shown
    have accepted := settled.accepted
    rw [if_pos async] at shown accepted
    refine ⟨impl.written, impl.unwritten ++ impl.queue, ?_, shown, ?_, ?_⟩
    · rw [← accepted, ← List.append_assoc]
      exact settled.inv.handOver
    · intro sync
      rw [async] at sync
      cases sync
    · intro ended empty
      rw [Impl.unwritten, settled.inv.idle (by simp [ended]), empty, List.drop_nil,
        List.append_nil]
  · have shown := settled.shown
    rw [if_neg (by simp [sync])] at shown
    exact ⟨entries, [], (List.append_nil entries).symm, shown, fun _ => rfl, fun _ _ => rfl⟩

/-- Loaded settings name a file exactly if there is a path.  After `Configure` with them has
succeeded, without a `Write` or another `Configure` before it, and as long as it is not called
again, the entries at or above the level are shown in the order of the calls, the same in every sink
that the settings name and nothing in the other; in synchronous mode all of them, in asynchronous
mode all when the destructor has returned, unless one came late. -/
theorem configured_sinks {putTime : Int → Bytes} {files : Bytes → Option Bytes} {walk : Walk}
    {path : Bytes} {settings : LoggerSettings} {answer : FileAnswer} {front behind : List Action}
    {final : Impl} (loaded : loadLoggerSettings files walk path = .ok settings)
    (succeeded : (configure {} settings.config.toOptions answer).1 = .ok ())
    (before : ∀ action ∈ front, ¬ Configures action ∧ ¬ Writes action)
    (after : ∀ action ∈ behind, ¬ Configures action)
    (ran : run putTime {} (front ++ .configure settings.config.toOptions answer :: behind) =
      some final) :
    settings.config.Valid ∧
    ∃ shown pending, admitted settings.config.toOptions behind = shown ++ pending ∧
      (final.stderr =
        if settings.config.sink = .kFile then [] else shown.map (formatLine putTime)) ∧
      (final.files =
        if settings.config.sink = .kStderr then []
        else shown.map fun entry => (settings.config.filePath, formatLine putTime entry)) ∧
      (settings.config.mode = .kSync → pending = []) ∧
      (final.destroyed = true →
        Punctual putTime {} (front ++ .configure settings.config.toOptions answer :: behind) →
          pending = []) := by
  obtain ⟨idle, ran_front, ran_rest⟩ := run_append ran
  obtain ⟨configured, moved, ran_behind⟩ := Option.bind_eq_some_iff.mp ran_rest
  simp only [step] at moved
  split_ifs at moved
  obtain rfl := Option.some.inj moved
  have settled := settled_run
    (settled_configure (settled_before before ran_front) succeeded) after ran_behind
  obtain ⟨shown, pending, admitted_eq, sinks, sync, async⟩ := shown_of_settled settled
  have valid := valid_of_loadLoggerSettings loaded
  refine ⟨valid, shown, pending, admitted_eq, ?_, ?_, ?_, ?_⟩
  · rw [sinks.stderr]
    cases sink : settings.config.sink <;> simp [LoggerConfig.toOptions, sink]
  · rw [sinks.files]
    rw [LoggerConfig.Valid] at valid
    cases sink : settings.config.sink <;>
      simp_all [LoggerConfig.toOptions, sinkWritesFile]
  · intro mode
    exact sync (by simp [LoggerConfig.toOptions, mode])
  · intro destroyed punctual
    have ended := settled.inv.joined destroyed
    exact async ended
      ((queue_nil_iff_punctual inv_initial (fun worker => by cases worker) ran ended).mpr punctual)

/-- A file with logger settings. -/
def loggerFile (name : Bytes) : Option Bytes :=
  if name = text "log.yaml" then
    some (text "logging:\n mode: async\n sink: stderr_and_file\n" ++
      text " file_path: a.log\n min_level: warn")
  else none

/-- Its settings. -/
def warnSettings : LoggerSettings :=
  ⟨⟨.kAsync, .kStderrAndFile, text "a.log", .kWarn⟩⟩

/-- Three entries, one of them below the level, while the worker is already at work. -/
def warnActions : List Action :=
  [.write .kError 1 (text "a"), .write .kInfo 2 (text "b"), .wake, .write .kWarn 3 (text "c"),
    .writeEntry, .finish, .stop]

theorem configured_sinks_sample :
    ∃ final, run (fun _ => text "t") {}
        ([.start] ++ .configure warnSettings.config.toOptions {} :: warnActions) = some final ∧
      final.stderr = [text "[ERROR] t a"] ∧ warnSettings.config.Valid ∧
      ∃ shown pending, admitted warnSettings.config.toOptions warnActions = shown ++ pending ∧
        final.stderr = shown.map (formatLine fun _ => text "t") ∧
        final.files = shown.map fun entry =>
          (text "a.log", formatLine (fun _ => text "t") entry) := by
  have before : ∀ action ∈ [Action.start], ¬ Configures action ∧ ¬ Writes action := by
    intro action member
    rw [List.mem_singleton.mp member]
    exact ⟨id, id⟩
  have after : ∀ action ∈ warnActions, ¬ Configures action := by
    simp [warnActions, Configures]
  refine ⟨_, rfl, by decide +kernel, ?_⟩
  obtain ⟨valid, shown, pending, admitted_eq, stderr, files, -⟩ :=
    @configured_sinks (fun _ => text "t") loggerFile Deployment.inOrder (text "log.yaml")
      warnSettings {} [.start] warnActions _ (by decide +kernel) rfl before after rfl
  exact ⟨valid, shown, pending, admitted_eq, stderr, files⟩

end Logger

end Hxrpc
