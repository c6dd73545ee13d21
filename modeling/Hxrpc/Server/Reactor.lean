import Hxrpc.Server.ConnectionManager
import Mathlib.Logic.Relation

/-!
# The event loop

`Reactor::Loop` as a transition system.  A state is a moment between two callbacks: the server, the
events of the current batch that are still to be handled, and the event whose readable part was
handled while its writable part was not.  A step waits for the next batch or makes the next move of
the loop body, with a script for the system calls of the callback it runs.  A run ends where the
loop would read through an iterator or a reference to an erased entry.
-/

namespace Hxrpc

open ConnectionManager

/-- One ready event; `owner` is auxiliary and names the descriptor it was reported for. -/
structure Event where
  /-- `event.data.fd`. -/
  fd : Fd
  /-- `event.events`. -/
  events : Events
  /-- What was behind the descriptor when `epoll_wait` returned. -/
  owner : Descriptor
  deriving DecidableEq

/-- Results for the system calls of one callback. -/
structure Script where
  /-- Results of `accept`. -/
  accepts : List AcceptResult := []
  /-- Results of `recv`. -/
  recvs : List RecvResult := []
  /-- Results of `send`. -/
  sends : List SendResult := []

/-- The state of the event loop between two callbacks. -/
structure Loop (App : Type) where
  /-- The server. -/
  server : Server App
  /-- Events of the batch that are still to be handled. -/
  batch : List Event := []
  /-- The event whose `EPOLLOUT` bit is examined next, with the entry `handler_it` denotes. -/
  current : Option (Event × Handler) := none

namespace Reactor

/-- Call a registered callback. -/
def invoke {App : Type} (handler : FrameHandler App) (server : Server App) (fd : Fd)
    (script : Script) : Callback → Except Dangling (Server App)
  | .acceptLoop => .ok (acceptLoop server script.accepts)
  | .handleReadable => (handleReadable handler server fd script.recvs script.sends).map Prod.fst
  | .handleWritable => .ok (handleWritable server fd script.sends).1
  | .close => .ok (close server fd)

/-- Call a `std::function` unless it is empty. -/
def invokeIfSet {App : Type} (handler : FrameHandler App) (server : Server App) (fd : Fd)
    (script : Script) : Option Callback → Except Dangling (Server App)
  | none => .ok server
  | some callback => invoke handler server fd script callback

/-- The body of the loop for the next event, up to the examination of `EPOLLOUT`. -/
def dispatch {App : Type} (handler : FrameHandler App) (script : Script) (server : Server App)
    (event : Event) (batch : List Event) : Except Dangling (Loop App) :=
  match server.handlers event.fd with
  | none => .ok { server := server, batch := batch }
  | some entry =>
      if event.events.epollerr || event.events.epollhup then do
        let server ← invokeIfSet handler server event.fd script entry.onError
        return { server := server, batch := batch }
      else if event.events.epollin then do
        let server ← invokeIfSet handler server event.fd script entry.onReadable
        return { server := server, batch := batch, current := some (event, entry) }
      else
        .ok { server := server, batch := batch, current := some (event, entry) }

/-- The `EPOLLOUT` part of the loop body: `handler_it` is read again, which needs the entry that it
denotes. -/
def dispatchWritable {App : Type} (handler : FrameHandler App) (script : Script)
    (server : Server App) (event : Event) (denoted : Handler) (batch : List Event) :
    Except Dangling (Loop App) :=
  if event.events.epollout then
    match server.handlers event.fd with
    | none => .error (.handler event.fd)
    | some entry =>
        if entry.owner = denoted.owner then do
          let server ← invokeIfSet handler server event.fd script entry.onWritable
          return { server := server, batch := batch }
        else
          .error (.handler event.fd)
  else
    .ok { server := server, batch := batch }

/-- The next move inside a batch. -/
def turn {App : Type} (handler : FrameHandler App) (script : Script) (loop : Loop App) :
    Except Dangling (Loop App) :=
  match loop.current, loop.batch with
  | some (event, denoted), batch =>
      dispatchWritable handler script loop.server event denoted batch
  | none, event :: batch => dispatch handler script loop.server event batch
  | none, [] => .ok loop

/-- What one move can do: it rests, skips an event whose entry is gone, or makes one of the calls of
the loop body.  An event that was examined for `EPOLLIN` waits for its writable part. -/
inductive Turned {App : Type} (handler : FrameHandler App) (script : Script) :
    Loop App → Loop App → Prop where
  | rest (server : Server App) : Turned handler script { server := server } { server := server }
  | skip {server : Server App} {event : Event} {batch : List Event}
      (gone : server.handlers event.fd = none) :
      Turned handler script { server := server, batch := event :: batch }
        { server := server, batch := batch }
  | error {server after : Server App} {event : Event} {batch : List Event} {entry : Handler}
      (found : server.handlers event.fd = some entry)
      (failing : (event.events.epollerr || event.events.epollhup) = true)
      (called : invokeIfSet handler server event.fd script entry.onError = .ok after) :
      Turned handler script { server := server, batch := event :: batch }
        { server := after, batch := batch }
  | read {server after : Server App} {event : Event} {batch : List Event} {entry : Handler}
      (found : server.handlers event.fd = some entry)
      (quiet : (event.events.epollerr || event.events.epollhup) = false)
      (called : event.events.epollin = true ∧
          invokeIfSet handler server event.fd script entry.onReadable = .ok after ∨
        event.events.epollin = false ∧ after = server) :
      Turned handler script { server := server, batch := event :: batch }
        { server := after, batch := batch, current := some (event, entry) }
  | write {server after : Server App} {event : Event} {batch : List Event}
      {entry denoted : Handler} (writable : event.events.epollout = true)
      (found : server.handlers event.fd = some entry) (same : entry.owner = denoted.owner)
      (called : invokeIfSet handler server event.fd script entry.onWritable = .ok after) :
      Turned handler script
        { server := server, batch := batch, current := some (event, denoted) }
        { server := after, batch := batch }
  | pass {server : Server App} {event : Event} {denoted : Handler} {batch : List Event}
      (unwritable : event.events.epollout = false) :
      Turned handler script
        { server := server, batch := batch, current := some (event, denoted) }
        { server := server, batch := batch }

theorem eq_ok_of_bind_eq_ok {ε α β : Type} {first : Except ε α} {second : α → Except ε β}
    {result : β} (returned : (first >>= second) = .ok result) :
    ∃ value, first = .ok value ∧ second value = .ok result := by
  cases first with
  | error error => cases returned
  | ok value => exact ⟨value, rfl, returned⟩

section Turned

variable {App : Type} {handler : FrameHandler App} {script : Script} {server : Server App}
  {event : Event} {batch : List Event} {next : Loop App}

theorem turned_of_dispatch (returned : dispatch handler script server event batch = .ok next) :
    Turned handler script { server := server, batch := event :: batch } next := by
  simp only [dispatch] at returned
  split at returned
  · rename_i gone
    obtain rfl := Except.ok.inj returned
    exact .skip gone
  · rename_i entry found
    split at returned
    · rename_i failing
      obtain ⟨after, called, ended⟩ := eq_ok_of_bind_eq_ok returned
      obtain rfl := Except.ok.inj ended
      exact .error found failing called
    rename_i not_failing
    have quiet := Bool.eq_false_iff.mpr not_failing
    split at returned
    · rename_i readable
      obtain ⟨after, called, ended⟩ := eq_ok_of_bind_eq_ok returned
      obtain rfl := Except.ok.inj ended
      exact .read found quiet (Or.inl ⟨readable, called⟩)
    · rename_i unreadable
      obtain rfl := Except.ok.inj returned
      exact .read found quiet (Or.inr ⟨Bool.eq_false_iff.mpr unreadable, rfl⟩)

theorem turned_of_dispatchWritable {denoted : Handler}
    (returned : dispatchWritable handler script server event denoted batch = .ok next) :
    Turned handler script
      { server := server, batch := batch, current := some (event, denoted) } next := by
  simp only [dispatchWritable] at returned
  split at returned
  · rename_i writable
    split at returned
    · cases returned
    · rename_i entry found
      split at returned
      · rename_i same
        obtain ⟨after, called, ended⟩ := eq_ok_of_bind_eq_ok returned
        obtain rfl := Except.ok.inj ended
        exact .write writable found same called
      · cases returned
  · rename_i unwritable
    obtain rfl := Except.ok.inj returned
    exact .pass (Bool.eq_false_iff.mpr unwritable)

theorem turned_of_turn {loop : Loop App} (returned : turn handler script loop = .ok next) :
    Turned handler script loop next := by
  obtain ⟨server, batch, current⟩ := loop
  cases current with
  | some pair => exact turned_of_dispatchWritable returned
  | none =>
      cases batch with
      | nil =>
          obtain rfl := Except.ok.inj returned
          exact .rest server
      | cons event batch => exact turned_of_dispatch returned

end Turned

/-- A batch that `epoll_wait` may return: descriptors of the epoll set, each at most once, with any
combination of event bits. -/
structure Reported {App : Type} (server : Server App) (batch : List Event) : Prop where
  nodup : (batch.map Event.fd).Nodup
  registered : ∀ event ∈ batch, server.epoll event.fd ≠ none
  owner : ∀ event ∈ batch, server.descriptors event.fd = some event.owner

/-- One step of the event loop; `allowed` restricts the moves a run may contain. -/
inductive Step {App : Type} (handler : FrameHandler App) (allowed : Loop App → Script → Prop) :
    Loop App → Loop App → Prop where
  | wait (server : Server App) {batch : List Event} (reported : Reported server batch) :
      Step handler allowed { server := server } { server := server, batch := batch }
  | turn {loop next : Loop App} (script : Script) (permitted : allowed loop script)
      (moved : turn handler script loop = .ok next) : Step handler allowed loop next

/-- The states of the runs that begin after a successful `Listen` and contain allowed moves
only. -/
def Runs {App : Type} (handler : FrameHandler App) (allowed : Loop App → Script → Prop) (app : App)
    (loop : Loop App) : Prop :=
  ∃ outcome server, ConnectionManager.listen { app := app } outcome = (true, server) ∧
    Relation.ReflTransGen (Step handler allowed) { server := server } loop

/-- The states of all runs. -/
def Reachable {App : Type} (handler : FrameHandler App) (app : App) (loop : Loop App) : Prop :=
  Runs handler (fun _ _ => True) app loop

end Reactor

end Hxrpc
