import ChannelReactor.Channel.Basic
import ChannelReactor.Reactor.Stats

/-!
# Hooks

What an application does at the events of a reactor. A hook works on the application's own state
and on the reactor's mailbox, where it can hand channels over and ask the reactor to stop; a hook
about a channel gets that channel too.
-/
namespace ChannelReactor

/-- Why a reactor let a channel go. -/
inductive CloseReason where
  | closed
  | failed
  | expired
  | pollFailure
  | shutdown
deriving DecidableEq, Repr

/-- Where a reactor is handed channels from outside, the oldest first, and asked to stop. -/
structure Mailbox (χ : Type) where
  queue : List χ := []
  stopped : Bool := false

def Mailbox.post {χ : Type} (m : Mailbox χ) (c : χ) : Mailbox χ :=
  { m with queue := m.queue ++ [c] }

structure Desk (η χ : Type) where
  hooks : η
  mailbox : Mailbox χ

/-- What an application does at the events of a reactor; nothing, where it does not say. -/
class Hooks (ω η χ : Type) where
  /-- Decides on an accepted connection: the channel to register, or none. -/
  onAccept : ChannelId → Accepted χ → Action ω Empty (Desk η χ) (Option χ) :=
    fun _ accepted => pure (some accepted.channel)
  onReadable : ChannelId → χ → Action ω Empty (Desk η χ) χ := fun _ c => pure c
  onWritable : ChannelId → χ → Action ω Empty (Desk η χ) χ := fun _ c => pure c
  /-- Sees a channel that the reactor has let go, for the last time. -/
  onClosed : ChannelId → χ → CloseReason → Action ω Empty (Desk η χ) Unit :=
    fun _ _ _ => pure ()
  onTick : ReactorStats → Action ω Empty (Desk η χ) Unit := fun _ => pure ()
  onStartup : Action ω Empty (Desk η χ) Unit := pure ()
  onCleanup : Action ω Empty (Desk η χ) Unit := pure ()

structure NoHooks

instance {ω χ : Type} : Hooks ω NoHooks χ where

end ChannelReactor
