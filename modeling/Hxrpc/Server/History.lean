import Hxrpc.Server.Reactor

/-!
# The journals only grow

No callback takes back what happened on a socket.
-/

namespace Hxrpc

open ConnectionManager Reactor

/-- Every journal goes on. -/
def Grows {App : Type} (before after : Server App) : Prop :=
  ∀ incarnation, before.journal incarnation <+: after.journal incarnation

section Grows

variable {App : Type} {server before middle after : Server App} {fd : Fd}

theorem Grows.refl (server : Server App) : Grows server server :=
  fun _ => List.prefix_refl _

theorem Grows.trans (first : Grows before middle) (second : Grows middle after) :
    Grows before after :=
  fun incarnation => (first incarnation).trans (second incarnation)

theorem grows_of_eq (same : after.journal = before.journal) : Grows before after := by
  intro incarnation
  rw [same]

theorem grows_record (server : Server App) (fd : Fd) (entries : Journal) :
    Grows server (server.record fd entries) := by
  simp only [Server.record]
  split
  · rename_i incarnation found
    intro other
    by_cases same : other = incarnation
    · subst same
      simp
    · simp [Function.update_of_ne same]
  · exact Grows.refl server

theorem journal_update (server : Server App) (fd : Fd) (events : Events) :
    (Reactor.update server fd events).journal = server.journal := by
  simp only [Reactor.update]
  split <;> rfl

theorem journal_close (server : Server App) (fd : Fd) :
    (close server fd).journal = server.journal := by
  simp only [close]
  split_ifs
  · rfl
  · split <;> rfl

theorem grows_handleWritable (server : Server App) (fd : Fd) (sends : List SendResult) :
    Grows server (handleWritable server fd sends).1 := by
  simp only [handleWritable]
  split
  · exact Grows.refl server
  · have recorded := fun connection : ConnectionState =>
      grows_record server fd ((flush connection.pending sends).chunks.map .accepted)
    split
    · exact (recorded _).trans (grows_of_eq (journal_update _ _ _))
    · exact (recorded _).trans (grows_of_eq (journal_update _ _ _))
    · exact (recorded _).trans (grows_of_eq (journal_close _ _))

theorem grows_send (server : Server App) (fd : Fd) (frame : Bytes) (sends : List SendResult) :
    Grows server (send server fd frame sends).1 := by
  simp only [send]
  split
  · exact Grows.refl server
  · rename_i connection found
    have submitted := grows_record (server.setConnection fd
      { connection with outputBuffer := connection.outputBuffer ++ frame }) fd [.submitted frame]
    exact (submitted.trans (grows_of_eq (journal_update _ _ _))).trans
      (grows_handleWritable _ fd sends)

theorem grows_callFrameHandler (handler : FrameHandler App) (server : Server App) (fd : Fd)
    (frame : Bytes) (sends : List SendResult) :
    Grows server (callFrameHandler handler server fd frame sends).1 := by
  have delivered := grows_record server fd [.delivered frame]
  simp only [callFrameHandler]
  split
  · exact delivered
  · exact delivered.trans (grows_send
      { server.record fd [.delivered frame] with app := (handler server.app frame).1 } fd _ sends)

theorem grows_processLoop (handler : FrameHandler App) (fd : Fd) (incarnation fuel : Nat)
    {sends rest : List SendResult}
    (returned : processLoop handler fd incarnation fuel server sends = .ok (after, rest)) :
    Grows server after := by
  induction fuel generalizing server sends with
  | zero =>
      rw [processLoop] at returned
      dsimp only at returned
      split at returned
      · cases returned
      split_ifs at returned
      · cases returned
        exact Grows.refl _
      · cases returned
        exact grows_of_eq (journal_close _ _)
      · cases returned
        exact Grows.refl _
      · cases returned
        exact Grows.refl _
  | succ fuel ih =>
      rw [processLoop] at returned
      dsimp only at returned
      split at returned
      · cases returned
      split_ifs at returned
      · cases returned
        exact Grows.refl _
      · cases returned
        exact grows_of_eq (journal_close _ _)
      · cases returned
        exact Grows.refl _
      · exact (grows_of_eq rfl).trans
          ((grows_callFrameHandler handler (server.setConnection fd _) fd _ sends).trans
            (ih returned))

theorem grows_processInput (handler : FrameHandler App) (fd : Fd) {sends rest : List SendResult}
    (returned : processInput handler server fd sends = .ok (after, rest)) :
    Grows server after := by
  simp only [processInput] at returned
  split at returned
  · cases returned
    exact Grows.refl _
  · exact grows_processLoop handler fd _ _ returned

theorem grows_handleReadable (handler : FrameHandler App) (fd : Fd) (recvs : List RecvResult)
    {sends rest : List SendResult}
    (returned : handleReadable handler server fd recvs sends = .ok (after, rest)) :
    Grows server after := by
  simp only [handleReadable] at returned
  split at returned
  · cases returned
    exact Grows.refl _
  · rename_i connection found
    have received := grows_record
      (server.setConnection fd (connection.receive (ConnectionManager.recvLoop recvs).1.flatten)) fd
      ((ConnectionManager.recvLoop recvs).1.map .received)
    split at returned
    · cases returned
      exact Grows.trans received (grows_of_eq (journal_close _ _))
    · exact Grows.trans received ((grows_record _ fd [.blocked]).trans
        (grows_processInput handler fd returned))

theorem grows_acceptLoop (accepts : List AcceptResult)
    (same : server.journal = before.journal) : Grows before (acceptLoop server accepts) := by
  induction accepts generalizing server with
  | nil => exact grows_of_eq same
  | cons result rest ih =>
      match result with
      | .eagain | .error _ => exact grows_of_eq same
      | .eintr => exact ih same
      | .connection fd nonBlocking =>
          simp only [acceptLoop]
          split_ifs
          · exact grows_of_eq same
          · exact ih same
          · exact ih same

/-- Every callback lets the journals go on. -/
theorem grows_invokeIfSet (handler : FrameHandler App) (fd : Fd) {script : Script}
    {callback : Option Callback}
    (returned : invokeIfSet handler server fd script callback = .ok after) :
    Grows server after := by
  match callback with
  | none =>
      cases returned
      exact Grows.refl _
  | some .acceptLoop =>
      cases returned
      exact grows_acceptLoop script.accepts rfl
  | some .handleWritable =>
      cases returned
      exact grows_handleWritable server fd script.sends
  | some .close =>
      cases returned
      exact grows_of_eq (journal_close server fd)
  | some .handleReadable =>
      simp only [invokeIfSet, invoke] at returned
      cases read : handleReadable handler server fd script.recvs script.sends with
      | error dangling =>
          rw [read] at returned
          cases returned
      | ok result =>
          rw [read] at returned
          cases returned
          exact grows_handleReadable handler fd script.recvs read

theorem grows_step {handler : FrameHandler App} {allowed : Loop App → Script → Prop}
    {loop next : Loop App} (step : Step handler allowed loop next) :
    Grows loop.server next.server := by
  cases step with
  | wait server reported => exact Grows.refl server
  | turn script permitted moved =>
      cases turned_of_turn moved with
      | rest server => exact Grows.refl server
      | skip gone => exact Grows.refl _
      | error found failing called => exact grows_invokeIfSet handler _ called
      | read found quiet called =>
          rcases called with ⟨-, called⟩ | ⟨-, rfl⟩
          · exact grows_invokeIfSet handler _ called
          · exact Grows.refl _
      | write writable found same called => exact grows_invokeIfSet handler _ called
      | pass unwritable => exact Grows.refl _

end Grows

end Hxrpc
