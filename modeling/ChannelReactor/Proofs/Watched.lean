import ChannelReactor.Proofs.Ends
import ChannelReactor.Reactor.Basic

/-! # A record of the hooks

Watched hooks are any hooks at all with a record of the calls, in order, and of what each call was
about. -/
namespace ChannelReactor

inductive HookCall (χ : Type) where
  | startup
  | cleanup
  | tick (stats : ReactorStats)
  | accept (listener : ChannelId) (accepted : Accepted χ)
  | readable (id : ChannelId) (channel : χ)
  | writable (id : ChannelId) (channel : χ)
  | closed (id : ChannelId) (channel : χ) (reason : CloseReason)

/-- The end of a channel that a call tells of. -/
def HookCall.closure? {χ : Type} : HookCall χ → Option (ChannelId × CloseReason)
  | closed id _ reason => some (id, reason)
  | _ => none

/-- The channel that a call tells of as closed in order, under this id. -/
def HookCall.closed? {χ : Type} (id : ChannelId) : HookCall χ → Option χ
  | closed id' c .closed => if id' = id then some c else none
  | _ => none

theorem HookCall.closed?_eq_some {χ : Type} {id : ChannelId} {call : HookCall χ} {c : χ}
    (h : call.closed? id = some c) : call = .closed id c .closed := by
  unfold HookCall.closed? at h
  split at h
  · split at h
    · rename_i hid
      cases h
      rw [hid]
    · cases h
  · cases h

/-- Hooks with a record of the calls, the oldest first. -/
structure Watched (η χ : Type) where
  hooks : η
  calls : List (HookCall χ) := []

namespace Watched

variable {ω η χ α : Type}

/-- A hook that is called and recorded. -/
def noting (call : HookCall χ) (x : Action ω Empty (Desk η χ) α) :
    Action ω Empty (Desk (Watched η χ) χ) α := fun desk w =>
  match x { desk with hooks := desk.hooks.hooks } w with
  | .done a d w => .done a { d with hooks := ⟨d.hooks, desk.hooks.calls ++ [call]⟩ } w
  | .refused e _ _ => e.elim
  | .halted h w => .halted h w

instance [Hooks ω η χ] : Hooks ω (Watched η χ) χ where
  onAccept id accepted := noting (.accept id accepted) (Hooks.onAccept id accepted)
  onReadable id c := noting (.readable id c) (Hooks.onReadable id c)
  onWritable id c := noting (.writable id c) (Hooks.onWritable id c)
  onClosed id c reason := noting (.closed id c reason) (Hooks.onClosed id c reason)
  onTick stats := noting (.tick stats) (Hooks.onTick stats)
  onStartup := noting .startup Hooks.onStartup
  onCleanup := noting .cleanup Hooks.onCleanup

theorem noting_done {call : HookCall χ} {x : Action ω Empty (Desk η χ) α}
    {desk desk' : Desk (Watched η χ) χ} {w w' : ω} {a : α}
    (h : noting call x desk w = .done a desk' w') :
    desk'.hooks.calls = desk.hooks.calls ++ [call] := by
  unfold noting at h
  split at h
  · cases h
    rfl
  · rename_i e _ _ _
    exact e.elim
  · cases h

/-- A recorded hook does what the hook does, and adds to the record. -/
theorem noting_eq {call : HookCall χ} {x : Action ω Empty (Desk η χ) α}
    {desk desk' : Desk (Watched η χ) χ} {w w' : ω} {a : α}
    (h : noting call x desk w = .done a desk' w') :
    ∃ d, x { desk with hooks := desk.hooks.hooks } w = .done a d w' ∧
      desk' = { d with hooks := ⟨d.hooks, desk.hooks.calls ++ [call]⟩ } := by
  unfold noting at h
  split at h
  · rename_i hx
    cases h
    exact ⟨_, hx, rfl⟩
  · rename_i e _ _ _
    exact e.elim
  · cases h

end Watched

end ChannelReactor
